import MessageGateway.Bytes.Base58
import MessageGateway.Bytes.Hex
import MessageGateway.Wire.Shape

/-!
# Addresses

An address of the size of a public key is a native one and is shown in base 58; any other belongs
to a foreign chain and is shown in hexadecimal. The text alone does not tell which of the two it
is, so it is read back with the length of the address.

## Main definitions

* `MessageGateway.Key`, `MessageGateway.Key.render`, `MessageGateway.Key.parse?`.
* `MessageGateway.Address.render`, `MessageGateway.Address.parse?`.
-/

namespace MessageGateway

/-- A public key, a byte string of its one size. -/
abbrev Key := {raw : Bytes // raw.length = keySize}

/-- The text of a public key. -/
def Key.render (key : Key) : String :=
  Base58.encode key.val

/-- The public key of a text; a text that stands for fewer or more bytes than a key has is
refused. -/
def Key.parse? (text : String) : Option Key :=
  (Base58.decode? text).bind fun raw => if h : raw.length = keySize then some ⟨raw, h⟩ else none

/-- The text of an address. -/
def Address.render (raw : Bytes) : String :=
  if h : raw.length = keySize then Key.render ⟨raw, h⟩ else Hex.encode raw

/-- The address of a text, which has the given length; the length only decides how the text is
read. -/
def Address.parse? (text : String) (length : Int) : Option Bytes :=
  if length = keySize then (Key.parse? text).map Subtype.val else Hex.decode? text

end MessageGateway

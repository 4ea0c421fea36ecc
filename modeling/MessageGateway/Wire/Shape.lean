import MessageGateway.Bytes.Basic

/-!
# Shapes of fields on the wire

The *shape* of a field says how it lies in a byte string: as a little-endian number of some width,
as a flag of one byte, as a stretch of fixed size, or behind a count of four bytes as a stretch of
any size or as a list. Each shape has its values (`Shape.Value`), the values that it can hold
(`Shape.Fits`) and their bytes (`Shape.encode`).

## Main definitions

* `MessageGateway.Shape`, `MessageGateway.Shape.Value`.
* `MessageGateway.Shape.Fits`, `MessageGateway.Shape.encode`.
-/

namespace MessageGateway

/-- The size of a public key. -/
def keySize : Nat := 32

/-- The size of a signature. -/
def signatureSize : Nat := 64

/-- How a field lies on the wire. -/
inductive Shape where
  /-- An unsigned number of the given width in bytes, least significant byte first. -/
  | number (width : Nat)
  /-- One byte, which is zero or not. -/
  | flag
  /-- The given number of bytes. -/
  | fixed (size : Nat)
  /-- A public key. -/
  | key
  /-- A count of four bytes and that many bytes. -/
  | blob
  /-- A count of four bytes and that many public keys. -/
  | keys
  /-- A count of four bytes and that many pairs of a signature and its signer's public key. -/
  | signatures
  deriving DecidableEq

namespace Shape

/-- The values of a shape. -/
@[reducible] def Value : Shape → Type
  | .number _ => Nat
  | .flag => Bool
  | .fixed _ => Bytes
  | .key => Bytes
  | .blob => Bytes
  | .keys => List Bytes
  | .signatures => List (Bytes × Bytes)

/-- The name under which a field of this shape is reported when it has no name of its own. -/
def defaultName : Shape → String
  | .number width => "u" ++ toString (8 * width)
  | .flag => "bool"
  | .fixed _ => "bytes"
  | .key => "pubkey"
  | .blob => "bytes"
  | .keys => "pubkeys"
  | .signatures => "signatures"

/-- The values that a shape can hold: numbers below the bound of their width, keys and signatures
of their sizes, stretches and lists whose count fits into four bytes. -/
def Fits : (s : Shape) → s.Value → Prop
  | .number width, n => n < 256 ^ width
  | .flag, _ => True
  | .fixed size, bs => bs.length = size
  | .key, bs => bs.length = keySize
  | .blob, bs => bs.length < 256 ^ 4
  | .keys, ks => ks.length < 256 ^ 4 ∧ ∀ k ∈ ks, k.length = keySize
  | .signatures, es =>
    es.length < 256 ^ 4 ∧ ∀ e ∈ es, e.1.length = signatureSize ∧ e.2.length = keySize

/-- The bytes of a value. -/
def encode : (s : Shape) → s.Value → Bytes
  | .number width, n => Bytes.ofNatLE width n
  | .flag, b => [if b then 1 else 0]
  | .fixed _, bs => bs
  | .key, bs => bs
  | .blob, bs => Bytes.ofNatLE 4 bs.length ++ bs
  | .keys, ks => Bytes.ofNatLE 4 ks.length ++ ks.flatten
  | .signatures, es => Bytes.ofNatLE 4 es.length ++ es.flatMap fun e => e.1 ++ e.2

end Shape

end MessageGateway

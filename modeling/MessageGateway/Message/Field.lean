import MessageGateway.Json.Basic
import MessageGateway.Message.Address
import MessageGateway.Message.Chain
import MessageGateway.Text.Utf8
import MessageGateway.Wire.Shape

/-!
# Fields of messages

A field of a message has a name on the wire and a meaning. The meaning fixes its shape on the wire
(`Field.shape`) and what a record shows of it (`Field.Shown`): an identifier as decimal text, a
chain with its name, an address with its length, data as text and in hexadecimal, a list with its
count. `Field.render` turns a value that the field can hold into what is shown: such a number can be
written, and what is shown as a public key is one. `Field.members` lays that out as the members of
the record's object.

## Main definitions

* `MessageGateway.Field`, `MessageGateway.Field.name`, `MessageGateway.Field.shape`.
* `MessageGateway.Field.Shown`, `MessageGateway.Field.render`, `MessageGateway.Field.members`.
-/

namespace MessageGateway

/-! ### What is shown -/

/-- A chain: its number in decimal and its name. -/
structure ChainText where
  id : String
  name : String
  deriving DecidableEq

/-- A kind of signer registry: its name and its number. -/
structure RegistryText where
  label : String
  value : Nat
  deriving DecidableEq

/-- An address: its text and its length in bytes. -/
structure AddressText where
  text : String
  length : Nat
  deriving DecidableEq

/-- Data: the text that it encodes, and its bytes in hexadecimal. -/
structure DataText where
  text : String
  hex : String
  deriving DecidableEq

/-- A list of public keys and its length. -/
structure KeyTexts where
  keys : List String
  count : Nat
  deriving DecidableEq

/-- A signature in hexadecimal and its signer's public key. -/
structure SignatureText where
  signature : String
  signer : String
  deriving DecidableEq

/-- A list of signatures and its length. -/
structure SignatureTexts where
  entries : List SignatureText
  count : Nat
  deriving DecidableEq

/-! ### Fields -/

/-- A field of a message. -/
inductive Field where
  /-- A switch. -/
  | flag (name : String)
  /-- A small number of the given width in bytes. -/
  | count (name : String) (width : Nat)
  /-- The identifier of a message, sixteen bytes wide. -/
  | messageId (name : String)
  /-- A chain; the field is named for what it is of, with `_id` on the wire. -/
  | chain (role : String)
  /-- A kind of signer registry. -/
  | registry (name : String)
  /-- A public key. -/
  | key (name : String)
  /-- An address on some chain. -/
  | address (name : String)
  /-- Data of any size. -/
  | data (name : String)
  /-- A list of signers' public keys, which a record may show under another name. -/
  | signers (name shownName : String)
  /-- The list of signatures of a message. -/
  | signatures

namespace Field

/-- The name of the field on the wire, under which a read that fails is reported. -/
def name : Field → String
  | .flag name => name
  | .count name _ => name
  | .messageId name => name
  | .chain role => role ++ "_id"
  | .registry name => name
  | .key name => name
  | .address name => name
  | .data name => name
  | .signers name _ => name
  | .signatures => "signatures"

/-- How the field lies on the wire. -/
@[reducible] def shape : Field → Shape
  | .flag _ => .flag
  | .count _ width => .number width
  | .messageId _ => .number 16
  | .chain _ => .number 8
  | .registry _ => .number 1
  | .key _ => .key
  | .address _ => .blob
  | .data _ => .blob
  | .signers _ _ => .keys
  | .signatures => .signatures

/-- What a record shows of the field. -/
@[reducible] def Shown : Field → Type
  | .flag _ => Bool
  | .count _ _ => Nat
  | .messageId _ => String
  | .chain _ => ChainText
  | .registry _ => RegistryText
  | .key _ => String
  | .address _ => AddressText
  | .data _ => DataText
  | .signers _ _ => KeyTexts
  | .signatures => SignatureTexts

/-- What a record shows of a value that the field can hold. -/
def render : (f : Field) → (value : f.shape.Value) → f.shape.Fits value → f.Shown
  | .flag _, b, _ => b
  | .count _ _, n, _ => n
  | .messageId _, n, h => Integer.render (.ofWidth n (by decide) h)
  | .chain _, n, h =>
    let id := Integer.Writable.ofWidth n (by decide) h
    ⟨Integer.render id, (ChainId.number id).name⟩
  | .registry _, n, h => ⟨registryLabel (.ofWidth n (by decide) h), n⟩
  | .key _, raw, h => Key.render ⟨raw, h⟩
  | .address _, raw, _ => ⟨Address.render raw, raw.length⟩
  | .data _, raw, _ => ⟨Utf8.decode raw, Hex.encode raw⟩
  | .signers _ _, raws, h => ⟨raws.pmap (fun raw hraw => Key.render ⟨raw, hraw⟩) h.2, raws.length⟩
  | .signatures, raws, h =>
    ⟨raws.pmap (fun e he => ⟨Hex.encode e.1, Key.render ⟨e.2, he.2⟩⟩) h.2, raws.length⟩

/-- A signature as an object. -/
def signatureObject (e : SignatureText) : Json :=
  .object [("signature", .text e.signature), ("signer", .text e.signer)]

/-- The members of a record's object that show the field. -/
def members : (f : Field) → f.Shown → List (String × Json)
  | .flag name, b => [(name, .flag b)]
  | .count name _, n => [(name, .number n)]
  | .messageId name, s => [(name, .text s)]
  | .chain role, c => [(role ++ "_id", .text c.id), (role ++ "_name", .text c.name)]
  | .registry name, r => [(name, .text r.label), (name ++ "_value", .number r.value)]
  | .key name, s => [(name, .text s)]
  | .address name, a => [(name, .text a.text), (name ++ "_length", .number a.length)]
  | .data name, d => [(name, .text d.text), (name ++ "_hex", .text d.hex)]
  | .signers _ shownName, ks =>
    [(shownName, .array (ks.keys.map .text)), ("signer_count", .number ks.count)]
  | .signatures, es =>
    [("signatures", .array (es.entries.map signatureObject)), ("signature_count", .number es.count)]

end Field

end MessageGateway

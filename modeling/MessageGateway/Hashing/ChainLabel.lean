import MessageGateway.Hashing.Digest
import MessageGateway.Text.Integer
import MessageGateway.Text.Quoted
import MessageGateway.Text.Utf8

/-!
# Chain labels

A chain may be named by a label, a short text or byte string. In a message it takes a field of
fixed size, which the bytes of the label fill from the left and zeros to the end. The size is given
freely: a label that is longer is refused, in words that tell the size, and a field with more zeros
than can be counted or than the memory has room for is not made.

## Main definitions

* `MessageGateway.ChainLabel`, `MessageGateway.ChainLabel.padded`.
* `MessageGateway.ChainLabelError` — why a label has no field.
-/

namespace MessageGateway

/-- The label of a chain. -/
inductive ChainLabel where
  | text (s : String)
  | bytes (bs : Bytes)

/-- Why a label has no field. -/
inductive ChainLabelError where
  /-- The label does not fit. -/
  | refused (e : HashInputError)
  /-- The label does not fit, and the size has too many digits to be told. -/
  | unwritable
  /-- The zeros are too many to be counted. -/
  | uncountable
  /-- The zeros are too many to be held. -/
  | unholdable
  deriving DecidableEq

namespace ChainLabel

/-- The most zeros that can be counted: a signed word of eight bytes counts them together with
thirty-three bytes in front of them. -/
def countLimit : Nat :=
  2 ^ 63 - 1 - 33

/-- The bytes of a label. -/
def toBytes : ChainLabel → Bytes
  | .text s => Utf8.encode s
  | .bytes bs => bs

/-- A label as messages show it. -/
def quoted : ChainLabel → String
  | .text s => Quoted.text s
  | .bytes bs => Quoted.bytes bs

/-- Why a label that is longer than a field of the given size has none. -/
def tooLong (label : ChainLabel) (size : Int) : ChainLabelError :=
  match Integer.render? size with
  | none => .unwritable
  | some shown => .refused (.labelTooLong label.quoted shown)

/-- The field of a label, of the given size, in a memory with room for `capacity` zeros. -/
def padded (capacity : Nat) (label : ChainLabel) (size : Int) : Except ChainLabelError Bytes :=
  let raw := label.toBytes
  let zeros := size.toNat - raw.length
  if size < raw.length then .error (label.tooLong size)
  else if countLimit < zeros then .error .uncountable
  else if capacity < zeros then .error .unholdable
  else .ok (raw ++ Bytes.zeros zeros)

end ChainLabel

end MessageGateway

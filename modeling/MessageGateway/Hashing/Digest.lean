import MessageGateway.Bytes.Basic
import MessageGateway.Digest.Keccak256
import MessageGateway.Log

/-!
# Digests of messages

A message is hashed through a byte string with fields of fixed widths; a value that does not fit
into its field is refused. Every digest is logged with the numbers of its message in decimal. So a
message without a byte string has no digest, and neither has one with a number that is too long to
be written.

## Main definitions

* `MessageGateway.HashInputError`, `MessageGateway.HashInputError.message`.
* `MessageGateway.DigestError`, `MessageGateway.hashed`.
-/

namespace MessageGateway

/-- Why a value cannot be hashed. -/
inductive HashInputError where
  /-- The label of a chain has more bytes than its field; both are given as they are shown. -/
  | labelTooLong (label size : String)
  /-- The identifier of a message is negative. -/
  | negativeId
  /-- The identifier of a message has more than sixteen bytes or is negative. -/
  | idOutOfRange
  /-- The number of a chain has more than eight bytes or is negative. -/
  | chainOutOfRange (part : String)
  /-- A part has more bytes than the count before it can say. -/
  | overCount (part : String) (length limit : Nat)
  /-- A part has more bytes than the gateway accepts. -/
  | overLimit (part : String) (length limit : Nat)
  deriving DecidableEq

/-- The words in which a refused value is reported. -/
def HashInputError.message : HashInputError → String
  | .labelTooLong label size => s!"Chain id {label} is longer than {size} bytes"
  | .negativeId => "tx_id must be non-negative"
  | .idOutOfRange => "tx_id must fit in an unsigned 128-bit integer"
  | .chainOutOfRange part => s!"{part} must fit in an unsigned 64-bit integer"
  | .overCount part length limit =>
    s!"{part} is {length} bytes, prefix allows at most {limit}"
  | .overLimit part length limit => s!"{part} is {length} bytes, at most {limit} allowed"

/-- Why a message has no digest. -/
inductive DigestError where
  /-- A value does not fit into its field. -/
  | refused (e : HashInputError)
  /-- A number has too many digits to be logged. -/
  | unwritable
  deriving DecidableEq

/-- The digest of a message with the given byte string, and what is logged about the two. -/
def hashed (encoded : Except HashInputError Bytes) (report? : Bytes → Bytes → Option LogEntry) :
    Logged (Except DigestError Bytes) :=
  match encoded with
  | .error e => .silent (.error (.refused e))
  | .ok encoded =>
    let digest := Keccak256.digest encoded
    match report? encoded digest with
    | none => .silent (.error .unwritable)
    | some entry => ⟨.ok digest, [entry]⟩

section Hashed

variable {report? : Bytes → Bytes → Option LogEntry} {encoded : Bytes}

/-- A message without a byte string has no digest, for the same reason. -/
theorem value_hashed_of_refused (e : HashInputError) :
    (hashed (.error e) report?).value = .error (.refused e) :=
  rfl

/-- A digest that can be logged is that of the byte string. -/
theorem value_hashed_of_reported {entry : LogEntry}
    (h : report? encoded (Keccak256.digest encoded) = some entry) :
    (hashed (.ok encoded) report?).value = .ok (Keccak256.digest encoded) := by
  simp only [hashed, h]

/-- One that cannot be logged is not given. -/
theorem value_hashed_of_unreported
    (h : report? encoded (Keccak256.digest encoded) = none) :
    (hashed (.ok encoded) report?).value = .error .unwritable := by
  simp only [hashed, h]
  rfl

end Hashed

end MessageGateway

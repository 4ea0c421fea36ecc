import MessageGateway.Bytes.Basic

/-!
# Reading within bounds

A read asks for a number of bytes at an offset of a buffer. It is refused when the offset lies
before the start or when fewer bytes are available there, and the refusal (`OutOfBounds`) tells
which field was read, where, how much was needed and how much was available.

## Main definitions

* `MessageGateway.OutOfBounds`, `MessageGateway.OutOfBounds.message`.
* `MessageGateway.available`, `MessageGateway.ensureAvailable`.

## Main results

* `MessageGateway.ensureAvailable_eq_ok_iff` — which reads are granted.
-/

namespace MessageGateway

/-- A read of a field that does not fit into the buffer. -/
structure OutOfBounds where
  field : String
  offset : Int
  needed : Int
  available : Int
  deriving DecidableEq

/-- The words in which a refused read is reported. -/
def OutOfBounds.message (e : OutOfBounds) : String :=
  s!"Out of bounds reading {e.field} at offset {e.offset}: " ++
    s!"need {e.needed} bytes, {e.available} available"

/-- How many bytes there are from an offset to the end of the buffer, none past the end. -/
def available (buffer : Bytes) (offset : Int) : Nat :=
  ((buffer.length : Int) - offset).toNat

/-- Refuses a read of `size` bytes that does not fit. -/
def ensureAvailable (buffer : Bytes) (offset : Int) (size : Nat) (field : String) :
    Except OutOfBounds Unit :=
  if offset < 0 ∨ available buffer offset < size then
    .error ⟨field, offset, size, available buffer offset⟩
  else .ok ()

/-- A read is granted exactly when it lies within the buffer. -/
theorem ensureAvailable_eq_ok_iff {buffer : Bytes} {offset : Int} {size : Nat} {field : String} :
    ensureAvailable buffer offset size field = .ok () ↔
      0 ≤ offset ∧ (offset + size ≤ buffer.length ∨ size = 0) := by
  unfold ensureAvailable available
  split <;> simp <;> omega

/-- A refusal tells what was asked for and what there is. -/
theorem eq_of_ensureAvailable_eq_error {buffer : Bytes} {offset : Int} {size : Nat}
    {field : String} {e : OutOfBounds}
    (h : ensureAvailable buffer offset size field = .error e) :
    e = ⟨field, offset, size, available buffer offset⟩ := by
  unfold ensureAvailable at h
  split at h
  · exact (Except.error.inj h).symm
  · cases h

end MessageGateway

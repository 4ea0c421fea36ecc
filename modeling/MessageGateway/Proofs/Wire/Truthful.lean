import MessageGateway.Proofs.Wire.Refusal

/-!
# What refusals tell

A refusal tells how many bytes are needed and how many are available. It is *truthful* if more are
needed than available, and no more available than the buffer has. Each read answers requests, and a
request at an offset of the buffer or behind its end is refused only if it does not fit, so the
refusal is truthful. In front of the buffer every request is refused, whatever its size, and there
the bytes that are missing before the start are told as available, so that no refusal is truthful.

## Main definitions

* `MessageGateway.OutOfBounds.IsTruthful`, `MessageGateway.RefusalsAt`.

## Main results

* `MessageGateway.Answers.refusalsAt` — a read that answers requests is refused truthfully.
* `MessageGateway.Shape.exists_read_eq_error` — in front of the buffer every read is refused.
* `MessageGateway.refusals_truthful_from_start`.
-/

namespace MessageGateway

/-- More bytes are needed than are said to be available, and no more are said to be available than
the buffer has. -/
def OutOfBounds.IsTruthful (buffer : Bytes) (e : OutOfBounds) : Prop :=
  e.available < e.needed ∧ e.available ≤ buffer.length

instance (buffer : Bytes) (e : OutOfBounds) : Decidable (e.IsTruthful buffer) :=
  inferInstanceAs (Decidable (_ ∧ _))

/-- What the refusals of a read at an offset tell. -/
structure RefusalsAt {α : Type} (buffer : Bytes) (offset : Int) (read : Except OutOfBounds α) :
    Prop where
  /-- What is told to be available are the bytes from the offset of the refusal to the end. -/
  available_eq : ∀ e, read = .error e → e.available = available buffer e.offset
  /-- The refusals are truthful unless the read starts in front of the buffer. -/
  isTruthful_iff : ∀ e, read = .error e → (e.IsTruthful buffer ↔ 0 ≤ offset)
  /-- A read that starts in front of the buffer is refused there. -/
  before_start : offset < 0 → ∃ e, read = .error e ∧ e.offset = offset

/-! ### From the start of the buffer on -/

section FromStart

variable {α : Type} {buffer : Bytes} {offset : Nat}

theorem Request.isTruthful_refusal {r : Request} (h : ¬ r.Fits buffer) :
    (r.refusal buffer).IsTruthful buffer := by
  have hroom : available buffer r.offset ≤ buffer.length := by
    unfold available
    omega
  exact ⟨Int.ofNat_lt.mpr (Nat.lt_of_not_le h), Int.ofNat_le.mpr hroom⟩

/-- Where requests are refused only if they do not fit, refusals are truthful. -/
theorem refusalsAt_of_misfits {read : Except OutOfBounds α}
    (h : ∀ e, read = .error e → ∃ r : Request, ¬ r.Fits buffer ∧ e = r.refusal buffer) :
    RefusalsAt buffer offset read := by
  constructor
  case available_eq =>
    intro e he
    obtain ⟨r, -, rfl⟩ := h e he
    rfl
  case isTruthful_iff =>
    intro e he
    obtain ⟨r, hmisfit, rfl⟩ := h e he
    exact iff_of_true (Request.isTruthful_refusal hmisfit) (Int.natCast_nonneg offset)
  case before_start =>
    intro hbefore
    exact absurd hbefore (Int.not_lt.mpr (Int.natCast_nonneg offset))

theorem Answers.refusalsAt {requests : List Request} {read : Except OutOfBounds (α × Int)}
    (h : Answers buffer offset requests read) : RefusalsAt buffer offset read := by
  refine refusalsAt_of_misfits fun e he => ?_
  cases hfirst : Request.firstMisfit? buffer requests with
  | none =>
    obtain ⟨v, hok⟩ := h.exists_eq_ok hfirst
    cases he.symm.trans hok
  | some r =>
    have hmisfit : ¬ r.Fits buffer := by simpa using List.find?_some hfirst
    exact ⟨r, hmisfit, Except.error.inj (he.symm.trans (h.eq_error hfirst))⟩

theorem refusalsAt_ensureAvailable_natCast (size : Nat) (field : String) :
    RefusalsAt buffer offset (ensureAvailable buffer offset size field) := by
  refine refusalsAt_of_misfits fun e he => ⟨⟨field, offset, size⟩, fun hfits => ?_, ?_⟩
  · cases he.symm.trans hfits.ensureAvailable_eq_ok
  · exact eq_of_ensureAvailable_eq_error he

end FromStart

/-! ### In front of the buffer -/

section BeforeStart

variable {buffer : Bytes} {offset : Int} {size : Nat} {field : String} (hoffset : offset < 0)

include hoffset

theorem ensureAvailable_before_start :
    ensureAvailable buffer offset size field =
      .error ⟨field, offset, size, available buffer offset⟩ :=
  if_pos (.inl hoffset)

theorem readBytes_before_start :
    readBytes buffer offset size field =
      .error ⟨field, offset, size, available buffer offset⟩ := by
  rw [readBytes, ensureAvailable_before_start hoffset]
  rfl

theorem readNumber_before_start :
    readNumber buffer offset size field =
      .error ⟨field, offset, size, available buffer offset⟩ := by
  rw [readNumber, readBytes_before_start hoffset]
  rfl

theorem readCount_before_start :
    readCount buffer offset size field =
      .error ⟨field ++ ".count", offset, 4, available buffer offset⟩ := by
  rw [readCount, readNumber_before_start hoffset]
  rfl

/-- In front of the buffer the first request of a read is refused, whatever its size. -/
theorem Shape.exists_read_eq_error : (s : Shape) → ∃ (name : String) (size : Nat),
    s.read buffer offset field = .error ⟨name, offset, size, available buffer offset⟩
  | .number width => ⟨field, width, readNumber_before_start hoffset⟩
  | .flag => ⟨field, 1, by rw [Shape.read, readFlag, readNumber_before_start hoffset]; rfl⟩
  | .fixed size => ⟨field, size, readBytes_before_start hoffset⟩
  | .key => ⟨field, keySize, readBytes_before_start hoffset⟩
  | .blob => ⟨field ++ ".length", 4, by
      rw [Shape.read, readBlob, readNumber_before_start hoffset]; rfl⟩
  | .keys => ⟨field ++ ".count", 4, by
      rw [Shape.read, readKeys, readCount_before_start hoffset]; rfl⟩
  | .signatures => ⟨field ++ ".count", 4, by
      rw [Shape.read, readSignatures, readCount_before_start hoffset]; rfl⟩

theorem refusalsAt_of_before_start {α : Type} {read : Except OutOfBounds α} {name : String}
    (hread : read = .error ⟨name, offset, size, available buffer offset⟩) :
    RefusalsAt buffer offset read := by
  constructor
  case available_eq =>
    intro e he
    cases hread.symm.trans he
    rfl
  case isTruthful_iff =>
    intro e he
    cases hread.symm.trans he
    -- More bytes are told than there are, so it does not matter how many are needed.
    refine iff_of_false (fun htruthful => ?_) (Int.not_le.mpr hoffset)
    have hroom : (available buffer offset : Int) ≤ buffer.length := htruthful.2
    unfold available at hroom
    omega
  case before_start => exact fun _ => ⟨_, hread, rfl⟩

end BeforeStart

/-! ### All reads -/

theorem refusalsAt_ensureAvailable (buffer : Bytes) (offset : Int) (size : Nat) (field : String) :
    RefusalsAt buffer offset (ensureAvailable buffer offset size field) := by
  by_cases hbefore : offset < 0
  · exact refusalsAt_of_before_start hbefore (ensureAvailable_before_start hbefore)
  · obtain ⟨offset, rfl⟩ := Int.eq_ofNat_of_zero_le (Int.not_lt.mp hbefore)
    exact refusalsAt_ensureAvailable_natCast size field

theorem Shape.refusalsAt_read (buffer : Bytes) (offset : Int) (field : String) (s : Shape) :
    RefusalsAt buffer offset (s.read buffer offset field) := by
  by_cases hbefore : offset < 0
  · obtain ⟨name, size, hread⟩ := s.exists_read_eq_error hbefore
    exact refusalsAt_of_before_start hbefore hread
  · obtain ⟨offset, rfl⟩ := Int.eq_ofNat_of_zero_le (Int.not_lt.mp hbefore)
    exact s.answers_read.refusalsAt

end MessageGateway

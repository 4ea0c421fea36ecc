import MessageGateway.Hashing.ChainLabel
import MessageGateway.Proofs.Bytes.Parts

/-!
# Fields of chain labels

A label that is longer than its field is refused, as long as the size can be told, and any other has
a field of just the size that was asked for, as long as its zeros can be counted and held. The field
does not tell where the label ends: two labels share a field exactly when they agree up to the zeros
at their ends. This holds whatever the memory has room for.

## Main results

* `MessageGateway.ChainLabel.exists_padded_eq_refused_iff`,
  `MessageGateway.ChainLabel.padded_eq_unwritable_iff`,
  `MessageGateway.ChainLabel.exists_padded_eq_ok_iff`.
* `MessageGateway.ChainLabel.length_of_padded`.
* `MessageGateway.ChainLabel.field_eq_field_iff`.
-/

namespace MessageGateway

namespace ChainLabel

variable {capacity : Nat} {label label' : ChainLabel} {size : Int} {field field' : Bytes}

/-- A label that is too long is refused exactly if the size can be told. -/
theorem exists_tooLong_eq_refused_iff :
    (∃ e, label.tooLong size = .refused e) ↔ size.natAbs < 10 ^ Integer.maxDigits := by
  rcases Nat.lt_or_ge size.natAbs (10 ^ Integer.maxDigits) with hsize | hsize
  · simp only [tooLong, Integer.render?_of_lt hsize, hsize, ChainLabelError.refused.injEq,
      exists_eq']
  · simp only [tooLong, Integer.render?_of_le hsize, Nat.not_lt_of_le hsize, reduceCtorEq,
      exists_false]

theorem tooLong_eq_unwritable_iff :
    label.tooLong size = .unwritable ↔ 10 ^ Integer.maxDigits ≤ size.natAbs := by
  rcases Nat.lt_or_ge size.natAbs (10 ^ Integer.maxDigits) with hsize | hsize
  · simp only [tooLong, Integer.render?_of_lt hsize, Nat.not_le_of_lt hsize, reduceCtorEq]
  · simp only [tooLong, Integer.render?_of_le hsize, hsize]

/-- A label is refused exactly when it is longer than its field and the size can be told. -/
theorem exists_padded_eq_refused_iff :
    (∃ e, label.padded capacity size = .error (.refused e)) ↔
      size < label.toBytes.length ∧ size.natAbs < 10 ^ Integer.maxDigits := by
  rw [← @exists_tooLong_eq_refused_iff label]
  simp only [padded]
  split_ifs with hlong <;> simp [hlong]

theorem padded_eq_unwritable_iff :
    label.padded capacity size = .error .unwritable ↔
      size < label.toBytes.length ∧ 10 ^ Integer.maxDigits ≤ size.natAbs := by
  rw [← @tooLong_eq_unwritable_iff label]
  simp only [padded]
  split_ifs with hlong <;> simp [hlong]

/-- A label has a field exactly when it is not longer and its zeros can be counted and held. -/
theorem exists_padded_eq_ok_iff :
    (∃ field, label.padded capacity size = .ok field) ↔
      label.toBytes.length ≤ size ∧ size ≤ label.toBytes.length + min capacity countLimit := by
  simp only [padded]
  split_ifs with hlong huncountable hunholdable <;> simp <;> omega

/-- A field is the label and some zeros. -/
theorem exists_zeros_of_padded (h : label.padded capacity size = .ok field) :
    ∃ n, (label.toBytes.length + n : Nat) = size ∧ field = label.toBytes ++ Bytes.zeros n := by
  have hfits := (exists_padded_eq_ok_iff.mp ⟨field, h⟩).1
  refine ⟨size.toNat - label.toBytes.length, by omega, ?_⟩
  simp only [padded] at h
  split_ifs at h
  exact (Except.ok.inj h).symm

/-- A field has the size that was asked for. -/
theorem length_of_padded (h : label.padded capacity size = .ok field) :
    (field.length : Int) = size := by
  obtain ⟨n, hsize, rfl⟩ := exists_zeros_of_padded h
  rw [← hsize, List.length_append, Bytes.zeros, List.length_replicate]

/-- Labels share a field exactly when they agree up to the zeros at their ends. -/
theorem field_eq_field_iff (h : label.padded capacity size = .ok field)
    (h' : label'.padded capacity size = .ok field') :
    field = field' ↔ label.toBytes.trimZeros = label'.toBytes.trimZeros := by
  obtain ⟨n, hsize, rfl⟩ := exists_zeros_of_padded h
  obtain ⟨n', hsize', rfl⟩ := exists_zeros_of_padded h'
  exact Bytes.append_zeros_eq_iff (Int.ofNat_inj.mp (hsize.trans hsize'.symm))

end ChainLabel

end MessageGateway

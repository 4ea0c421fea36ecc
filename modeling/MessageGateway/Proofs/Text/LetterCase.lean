import Mathlib
import MessageGateway.Proofs.Lookup
import MessageGateway.Text.LetterCase

/-!
# Capital letters

A text in capital letters has no small letter from `a` to `z` in it, whatever script it came from:
these letters have capitals of their own, and no letter has one of them among its capitals.

## Main results

* `MessageGateway.LetterCase.isLower_of_mem_upper`.
-/

namespace MessageGateway

/-- The partner that a run gives lies among those of its letters. -/
theorem CaseRun.partner?_bounds {r : CaseRun} {code target : Nat}
    (h : r.partner? code = some target) :
    r.target ≤ target ∧ target ≤ r.target + (r.last - r.first) := by
  unfold partner? at h
  split at h
  · rename_i hin
    simp only [Bool.and_eq_true, decide_eq_true_eq] at hin
    have htarget := Option.some.inj h
    omega
  · cases h

namespace LetterCase

private theorem isLower_iff_toNat {c : Char} : c.isLower = true ↔ 97 ≤ c.toNat ∧ c.toNat ≤ 122 := by
  simp [Char.isLower, UInt32.le_iff_toNat_le, ← Char.toNat_val]

/-- A code point that is not that of a small letter gives no small letter. -/
private theorem isLower_ofNat {code : Nat} (h : code < 97 ∨ 122 < code) :
    (Char.ofNat code).isLower = false := by
  rw [Bool.eq_false_iff, Ne, isLower_iff_toNat, Char.toNat_ofNat]
  split <;> omega

/-! ### The tables -/

/-- No run of letters has a small letter among its capitals. -/
private theorem target_capitalRuns :
    ∀ r ∈ capitalRuns, r.target + (r.last - r.first) < 97 ∨ 122 < r.target := by
  decide +kernel

/-- No letter that becomes several has a small one among them. -/
private theorem code_capitalExpansions :
    ∀ p ∈ capitalExpansions, ∀ code ∈ p.2, code < 97 ∨ 122 < code := by
  decide +kernel

/-- The first run is that of the letters from `a` to `z`. -/
private theorem lt_of_partner?_eq_none {code : Nat}
    (h : ∀ r ∈ capitalRuns, r.partner? code = none) : code < 97 ∨ 122 < code := by
  have hrun := h ⟨0x61, 0x7a, 1, 0x41⟩ List.mem_cons_self
  by_contra hsmall
  have hstep : (code - 0x61) % 1 = 0 := Nat.mod_one _
  rw [CaseRun.partner?, if_pos (by simp [hstep]; omega)] at hrun
  cases hrun

/-! ### Texts -/

/-- The capital of a letter that has a single one is no small letter. -/
theorem partner_capitalRuns (code : Nat) :
    partner capitalRuns code < 97 ∨ 122 < partner capitalRuns code := by
  unfold partner
  cases hfound : capitalRuns.findSome? fun r => r.partner? code with
  | none => exact lt_of_partner?_eq_none (List.findSome?_eq_none_iff.mp hfound)
  | some target =>
    obtain ⟨r, hr, hpartner⟩ := List.exists_of_findSome?_eq_some hfound
    have htarget := target_capitalRuns r hr
    have hbounds := CaseRun.partner?_bounds hpartner
    rw [Option.getD_some]
    omega

theorem isLower_of_mem_upperChar {c d : Char} (h : d ∈ upperChar c) : d.isLower = false := by
  unfold upperChar at h
  split at h
  · rename_i codes hcodes
    obtain ⟨code, hcode, rfl⟩ := List.mem_map.mp h
    exact isLower_ofNat (code_capitalExpansions _ (mem_of_lookup hcodes) code hcode)
  · rw [List.mem_singleton.mp h]
    exact isLower_ofNat (partner_capitalRuns c.toNat)

/-- There is no small letter in a text in capital letters. -/
theorem isLower_of_mem_upper {s : String} {c : Char} (h : c ∈ (upper s).toList) :
    c.isLower = false := by
  rw [upper, String.toList_ofList] at h
  obtain ⟨d, -, hc⟩ := List.mem_flatMap.mp h
  exact isLower_of_mem_upperChar hc

end LetterCase

end MessageGateway

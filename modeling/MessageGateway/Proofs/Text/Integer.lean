import MessageGateway.Proofs.Text.Blank
import MessageGateway.Text.Integer

/-!
# Integers as text, read back

The text of an integer is read back. Behind the sign that a negative one has it consists of the
digits from `0` to `9` only, so there is nothing to strip and no low line in it, and every digit
stands for its distance from `0`. As many digits are read as are written.

## Main results

* `MessageGateway.Integer.parse?_render` — what was written is read back.
-/

namespace MessageGateway

namespace Integer

/-! ### Plain digits -/

private theorem toNat_of_isDigit {c : Char} (h : c.isDigit = true) :
    48 ≤ c.toNat ∧ c.toNat ≤ 57 := by
  simpa [Char.isDigit, UInt32.le_iff_toNat_le] using h

theorem isSpace_of_isDigit {c : Char} (h : c.isDigit = true) : isSpace c = false := by
  obtain ⟨hlow, hhigh⟩ := toNat_of_isDigit h
  have hne : ∀ d : Char, d.toNat < 48 ∨ 57 < d.toNat → c ≠ d := by
    rintro d hd rfl
    omega
  have hlt : ∀ d : Char, d.toNat < 48 → ¬ c ≤ d := by
    intro d hd hle
    have : c.toNat ≤ d.toNat := hle
    omega
  have hgt : ∀ d : Char, 57 < d.toNat → ¬ d ≤ c := by
    intro d hd hle
    have : d.toNat ≤ c.toNat := hle
    omega
  simp [isSpace, hne, hlt, hgt]

/-- A plain digit stands for its distance from zero. -/
theorem value?_of_isDigit {c : Char} (h : c.isDigit = true) :
    DecimalDigit.value? c = some (c.toNat - 48) := by
  have hrange := toNat_of_isDigit h
  simp [DecimalDigit.value?, DecimalDigit.zeros, hrange]

theorem ne_of_isDigit {c d : Char} (h : c.isDigit = true) (hd : d.isDigit = false) : c ≠ d := by
  rintro rfl
  rw [h] at hd
  cases hd

/-- A text of plain digits, at least one, is read digit by digit. -/
theorem digitValues?_of_isDigit {cs : List Char} (h : ∀ c ∈ cs, c.isDigit = true) (hne : cs ≠ []) :
    digitValues? cs = some (cs.map fun c => c.toNat - 48) := by
  induction cs with
  | nil => exact absurd rfl hne
  | cons c cs ih =>
    obtain ⟨hc, hcs⟩ := List.forall_mem_cons.mp h
    cases cs with
    | nil => simp [digitValues?, value?_of_isDigit hc]
    | cons d cs =>
      have hd : d ≠ '_' := ne_of_isDigit (hcs d List.mem_cons_self) (by decide)
      have hrest := ih hcs (List.cons_ne_nil d cs)
      simp [digitValues?, value?_of_isDigit hc, hd, hrest]

/-- The number of a text of plain digits. -/
theorem magnitude?_of_isDigit {cs : List Char} (h : ∀ c ∈ cs, c.isDigit = true) (hne : cs ≠ [])
    (hlen : cs.length ≤ maxDigits) : magnitude? cs = some (Nat.ofDigitChars 10 cs 0) := by
  have hvalue : ofDigits (cs.map fun c => c.toNat - 48) = Nat.ofDigitChars 10 cs 0 := by
    rw [ofDigits, List.foldl_map, Nat.ofDigitChars_eq_foldl]
    rfl
  simp [magnitude?, digitValues?_of_isDigit h hne, hlen, hvalue]

/-- A text that starts with a plain digit has no sign. -/
theorem parseSigned?_of_isDigit {c : Char} {cs : List Char} (h : c.isDigit = true) :
    parseSigned? (c :: cs) = (magnitude? (c :: cs)).map fun n => (n : Int) := by
  have hminus : c ≠ '-' := ne_of_isDigit h (by decide)
  have hplus : c ≠ '+' := ne_of_isDigit h (by decide)
  unfold parseSigned?
  split
  · rename_i heq
    exact absurd (List.cons.inj heq).1 hminus
  · rename_i heq
    exact absurd (List.cons.inj heq).1 hplus
  · rfl

/-! ### Reading what was written -/

theorem isDigit_of_mem_toDigits {n : Nat} : ∀ c ∈ Nat.toDigits 10 n, c.isDigit = true :=
  fun _ hc => Nat.isDigit_of_mem_toDigits (by decide) (by decide) hc

/-- The digits of a natural number stand for it, unless there are too many. -/
theorem magnitude?_toDigits {n : Nat} (h : n < 10 ^ maxDigits) :
    magnitude? (Nat.toDigits 10 n) = some n := by
  have hlen : (Nat.toDigits 10 n).length ≤ maxDigits :=
    (Nat.length_toDigits_le_iff (by decide) (by decide)).mpr h
  rw [magnitude?_of_isDigit isDigit_of_mem_toDigits Nat.toDigits_ne_nil hlen,
    Nat.ofDigitChars_ten_toDigits]

/-- There is no sign among them. -/
theorem parseSigned?_toDigits {n : Nat} (h : n < 10 ^ maxDigits) :
    parseSigned? (Nat.toDigits 10 n) = some (n : Int) := by
  have hmagnitude := magnitude?_toDigits h
  have hdigits := isDigit_of_mem_toDigits (n := n)
  cases hcs : Nat.toDigits 10 n with
  | nil => exact absurd hcs Nat.toDigits_ne_nil
  | cons c cs =>
    rw [hcs] at hdigits hmagnitude
    rw [parseSigned?_of_isDigit (hdigits c List.mem_cons_self), hmagnitude]
    rfl

/-- Behind a minus sign they stand for the negative number. -/
theorem parseSigned?_minus_toDigits {n : Nat} (h : n < 10 ^ maxDigits) :
    parseSigned? ('-' :: Nat.toDigits 10 n) = some (-(n : Int)) := by
  rw [parseSigned?, magnitude?_toDigits h]
  rfl

theorem toList_render_of_nonneg {n : Writable} (h : 0 ≤ n.val) :
    (render n).toList = Nat.toDigits 10 n.val.natAbs := by
  have habs : n.val.toNat = n.val.natAbs := by omega
  rw [render, Int.toString_eq_repr, Int.repr_eq_if, if_pos h, habs, Nat.toList_repr]

theorem toList_render_of_neg {n : Writable} (h : n.val < 0) :
    (render n).toList = '-' :: Nat.toDigits 10 n.val.natAbs := by
  have habs : (-n.val).toNat = n.val.natAbs := by omega
  rw [render, Int.toString_eq_repr, Int.repr_eq_if, if_neg (Int.not_le_of_gt h), habs,
    String.toList_append, Nat.toList_repr]
  rfl

/-- An integer that is not negative and takes at most sixteen bytes can be written. -/
theorem natAbs_lt {width : Nat} (hwidth : width ≤ 16) {n : Int} (h : 0 ≤ n ∧ n < 256 ^ width) :
    n.natAbs < 10 ^ maxDigits := by
  obtain ⟨k, rfl⟩ := Int.eq_ofNat_of_zero_le h.1
  have hcast : ((256 ^ width : Nat) : Int) = 256 ^ width := Int.natCast_pow 256 width
  have hlt : k < 256 ^ width := by omega
  exact natAbs_lt_of_width hwidth hlt

/-- The text of an integer stands for it. -/
theorem parse?_render (n : Writable) : parse? (render n) = some n.val := by
  rcases Int.lt_or_le n.val 0 with hneg | hnonneg
  · have hspace : ∀ c ∈ '-' :: Nat.toDigits 10 n.val.natAbs, isSpace c = false :=
      List.forall_mem_cons.mpr ⟨rfl, fun c hc => isSpace_of_isDigit (isDigit_of_mem_toDigits c hc)⟩
    rw [parse?, toList_render_of_neg hneg, stripWhile_eq_self hspace,
      parseSigned?_minus_toDigits n.property, Int.ofNat_natAbs_of_nonpos (Int.le_of_lt hneg),
      Int.neg_neg]
  · have hspace : ∀ c ∈ Nat.toDigits 10 n.val.natAbs, isSpace c = false :=
      fun c hc => isSpace_of_isDigit (isDigit_of_mem_toDigits c hc)
    rw [parse?, toList_render_of_nonneg hnonneg, stripWhile_eq_self hspace,
      parseSigned?_toDigits n.property, Int.natAbs_of_nonneg hnonneg]

end Integer

end MessageGateway

import MessageGateway.Bytes.Base58
import MessageGateway.Proofs.Bytes.Radix

/-!
# Base-58 text, read back

A byte string in base 58 is read back. Its leading zeros and its remaining bytes are written apart:
the zeros as ones, of which a reader sees the same number because the most significant digit of the
rest is no zero, and the rest as the canonical digits of its number. So the digits of the text
(`Base58.textDigits`) start with as many zeros as the byte string and stand for the same number.

## Main definitions

* `MessageGateway.Base58.zeroCount`, `MessageGateway.Base58.significant`.
* `MessageGateway.Base58.textDigits`.

## Main results

* `MessageGateway.Base58.leadingZeros_textDigits`, `MessageGateway.Base58.value_textDigits`.
* `MessageGateway.Base58.decode?_encode` — what was written is read back.
-/

namespace MessageGateway

namespace Base58

/-! ### Digits -/

private theorem digitValue?_digit : ∀ d < 58, digitValue? (digit d) = some d := by
  decide +kernel

private theorem digit_eq_one_iff : ∀ d < 58, digit d = '1' ↔ d = 0 := by
  decide +kernel

/-- A character stands for a number below fifty-eight exactly when it is its digit. -/
theorem digitValue?_eq_some_iff {c : Char} {d : Nat} :
    digitValue? c = some d ↔ d < 58 ∧ digit d = c := by
  constructor
  · intro h
    obtain ⟨hlt, hget, -⟩ := List.idxOf?_eq_some_iff.mp h
    have hdigit : digit d = alphabet[d] := by
      rw [digit, List.getD_eq_getElem?_getD, List.getElem?_eq_getElem hlt, Option.getD_some]
    exact ⟨hlt, hdigit.trans hget⟩
  · rintro ⟨hlt, rfl⟩
    exact digitValue?_digit d hlt

/-- A text starts with as many ones as its digits with zeros. -/
theorem length_takeWhile_map_digit {ds : List Nat} (h : ∀ d ∈ ds, d < 58) :
    ((ds.map digit).takeWhile (· == '1')).length = Radix.leadingZeros ds := by
  induction ds with
  | nil => rfl
  | cons d ds ih =>
    obtain ⟨hd, hds⟩ := List.forall_mem_cons.mp h
    by_cases hzero : d = 0
    · subst hzero
      have hone : digit 0 = '1' := by decide
      simpa [Radix.leadingZeros, hone] using ih hds
    · have hone : digit d ≠ '1' := fun hone => hzero ((digit_eq_one_iff d hd).mp hone)
      simp [Radix.leadingZeros, hone, hzero]

/-! ### Leading zeros and the rest -/

/-- The leading zeros of a byte string. -/
def zeroCount (bs : Bytes) : Nat :=
  (bs.takeWhile (· == 0)).length

/-- What follows the leading zeros of a byte string. -/
def significant (bs : Bytes) : Bytes :=
  bs.dropWhile (· == 0)

theorem zeros_append_significant (bs : Bytes) :
    Bytes.zeros (zeroCount bs) ++ significant bs = bs := by
  have hzeros : bs.takeWhile (· == 0) = Bytes.zeros (zeroCount bs) := by
    refine List.eq_replicate_of_mem fun b hb => ?_
    simpa using List.mem_takeWhile_imp hb
  rw [← hzeros]
  exact List.takeWhile_append_dropWhile

theorem head?_significant_ne (bs : Bytes) : (significant bs).head? ≠ some 0 := by
  have h := List.head?_dropWhile_not (· == 0) bs
  intro hhead
  rw [significant] at hhead
  rw [hhead] at h
  simp at h

theorem isCanonical_significant (bs : Bytes) :
    Radix.IsCanonical 256 ((significant bs).reverse.map UInt8.toNat) := by
  refine Radix.isCanonical_map_toNat ?_
  rw [List.getLast?_reverse]
  exact head?_significant_ne bs

/-- The number of a byte string is that of its significant bytes. -/
theorem toNatBE_eq_value (bs : Bytes) :
    bs.toNatBE = Radix.value 256 ((significant bs).reverse.map UInt8.toNat) := by
  rw [Bytes.toNatBE, Radix.toNatLE_eq_value]
  conv => lhs; rw [← zeros_append_significant bs]
  rw [List.reverse_append, Bytes.zeros, List.reverse_replicate, List.map_append,
    List.map_replicate]
  exact Radix.value_append_replicate_zero _ _

/-! ### The digits of a text -/

/-- The digits of a byte string, least significant first. -/
def digits (bs : Bytes) : List Nat :=
  Radix.digits 58 (2 * bs.length) bs.toNatBE

/-- Two digits of base 58 hold more than a byte. -/
theorem toNatBE_lt (bs : Bytes) : bs.toNatBE < 58 ^ (2 * bs.length) := by
  have hbytes : bs.toNatBE < 256 ^ bs.length := by
    simpa [Bytes.toNatBE] using Bytes.toNatLE_lt bs.reverse
  have hbase : 256 ^ bs.length ≤ (58 ^ 2) ^ bs.length := Nat.pow_le_pow_left (by decide) _
  rw [Nat.pow_mul]
  exact Nat.lt_of_lt_of_le hbytes hbase

theorem isCanonical_digits (bs : Bytes) : Radix.IsCanonical 58 (digits bs) :=
  Radix.isCanonical_digits (by decide) (toNatBE_lt bs)

theorem value_digits (bs : Bytes) : Radix.value 58 (digits bs) = bs.toNatBE :=
  Radix.value_digits (toNatBE_lt bs)

/-- The digits of the text of a byte string: a zero for each leading zero, and the digits of the
rest. -/
def textDigits (bs : Bytes) : List Nat :=
  List.replicate (zeroCount bs) 0 ++ (digits bs).reverse

theorem toList_encode (bs : Bytes) : (encode bs).toList = (textDigits bs).map digit := by
  rw [encode, String.toList_ofList, textDigits, List.map_append, List.map_replicate]
  rfl

theorem lt_of_mem_textDigits {bs : Bytes} {d : Nat} (h : d ∈ textDigits bs) : d < 58 := by
  rcases List.mem_append.mp h with hzero | hdigit
  · simp [List.eq_of_mem_replicate hzero]
  · exact (isCanonical_digits bs).1 d (List.mem_reverse.mp hdigit)

theorem leadingZeros_textDigits (bs : Bytes) :
    Radix.leadingZeros (textDigits bs) = zeroCount bs := by
  refine Radix.leadingZeros_replicate_append _ ?_
  rw [List.head?_reverse]
  exact (isCanonical_digits bs).2

theorem value_textDigits (bs : Bytes) : Radix.value 58 (textDigits bs).reverse = bs.toNatBE := by
  rw [textDigits, List.reverse_append, List.reverse_reverse, List.reverse_replicate,
    Radix.value_append_replicate_zero, value_digits]

/-! ### Reading what was written -/

/-- A reader sees as many ones as there are leading zeros. -/
theorem ones_encode (bs : Bytes) :
    ((encode bs).toList.takeWhile (· == '1')).length = zeroCount bs := by
  rw [toList_encode, length_takeWhile_map_digit fun _ => lt_of_mem_textDigits,
    leadingZeros_textDigits]

theorem mapM_encode (bs : Bytes) : (encode bs).toList.mapM digitValue? = some (textDigits bs) :=
  (mapM_eq_some_iff digitValue?_eq_some_iff).mpr
    ⟨fun _ => lt_of_mem_textDigits, (toList_encode bs).symm⟩

/-- The number of a byte string has its significant bytes as digits in base 256, and the text has
room for them. -/
theorem digits_toNatBE (bs : Bytes) :
    Radix.digits 256 (encode bs).toList.length bs.toNatBE =
      (significant bs).reverse.map UInt8.toNat := by
  have hbound : bs.toNatBE < 256 ^ (encode bs).toList.length := by
    have hvalue := Radix.value_lt (textDigits bs).reverse fun d hd =>
      lt_of_mem_textDigits (List.mem_reverse.mp hd)
    rw [value_textDigits, List.length_reverse] at hvalue
    rw [toList_encode, List.length_map]
    exact Nat.lt_of_lt_of_le hvalue (Nat.pow_le_pow_left (by decide) _)
  -- Both lists are canonical, so it is enough that they stand for one number.
  refine (Radix.isCanonical_digits (by decide) hbound).eq_of_value_eq (by decide)
    (isCanonical_significant bs) ?_
  rw [Radix.value_digits hbound, toNatBE_eq_value]

/-- The text of a byte string stands for it. -/
theorem decode?_encode (bs : Bytes) : decode? (encode bs) = some bs := by
  have hbytes : (((significant bs).reverse.map UInt8.toNat).reverse.map UInt8.ofNat) =
      significant bs := by
    simp [List.map_reverse, Function.comp_def]
  simp only [decode?, mapM_encode, Option.map_some, value_textDigits, digits_toNatBE, ones_encode,
    hbytes, zeros_append_significant]

end Base58

end MessageGateway

import MessageGateway.Proofs.Bytes.Base58

/-!
# Texts in base 58 are canonical

A text in base 58 that can be read is the text of the byte string that it stands for, so no two
texts stand for one byte string: its digits start with as many zeros as the byte string and stand
for the same number, and so do those that are written.

A text has no fewer characters than its byte string has bytes, and at most twelve more if these
are not more than a public key has.

## Main results

* `MessageGateway.Base58.decode?_eq_some_iff` — the text that stands for a byte string.
* `MessageGateway.Base58.length_le_length_encode`, `MessageGateway.Base58.length_encode_le`.
-/

namespace MessageGateway

namespace Base58

/-! ### Writing what was read -/

theorem zeroCount_eq_leadingZeros (bs : Bytes) :
    zeroCount bs = Radix.leadingZeros (bs.map UInt8.toNat) := by
  have hzero : (fun b : UInt8 => b == 0) = (· == 0) ∘ UInt8.toNat := by
    funext b
    rw [Bool.eq_iff_iff, beq_iff_eq, Function.comp_apply, beq_iff_eq, ← UInt8.toNat_inj]
    rfl
  rw [zeroCount, Radix.leadingZeros, List.takeWhile_map, List.length_map, hzero]

theorem map_toNat_zeros_append {ds : List Nat} (n : Nat) (h : ∀ d ∈ ds, d < 256) :
    (Bytes.zeros n ++ ds.reverse.map UInt8.ofNat).map UInt8.toNat =
      List.replicate n 0 ++ ds.reverse := by
  have hds : ds.reverse.map (UInt8.toNat ∘ UInt8.ofNat) = ds.reverse := by
    refine (List.map_congr_left fun d hd => ?_).trans (List.map_id ds.reverse)
    have hd : d < 2 ^ 8 := h d (List.mem_reverse.mp hd)
    rw [Function.comp_apply, UInt8.toNat_ofNat', Nat.mod_eq_of_lt hd, id_eq]
  rw [List.map_append, Bytes.zeros, List.map_replicate, List.map_map, hds]
  rfl

/-- Zeros in front of canonical bytes are all the leading zeros. -/
theorem zeroCount_zeros_append {ds : List Nat} (n : Nat) (h : Radix.IsCanonical 256 ds) :
    zeroCount (Bytes.zeros n ++ ds.reverse.map UInt8.ofNat) = n := by
  rw [zeroCount_eq_leadingZeros, map_toNat_zeros_append n h.1]
  refine Radix.leadingZeros_replicate_append n ?_
  rw [List.head?_reverse]
  exact h.2

/-- Zeros in front of bytes leave their number as it is. -/
theorem toNatBE_zeros_append {ds : List Nat} (n : Nat) (h : ∀ d ∈ ds, d < 256) :
    (Bytes.zeros n ++ ds.reverse.map UInt8.ofNat).toNatBE = Radix.value 256 ds := by
  rw [Radix.toNatBE_eq_value_reverse, map_toNat_zeros_append n h, List.reverse_append,
    List.reverse_replicate, List.reverse_reverse, Radix.value_append_replicate_zero]

/-- The digits of a text that can be read start with as many zeros as the byte string, and stand
for the same number. -/
theorem exists_digits_of_decode? {text : String} {bs : Bytes} (h : decode? text = some bs) :
    ∃ ds : List Nat, (∀ d ∈ ds, d < 58) ∧ text.toList = ds.map digit ∧
      Radix.leadingZeros ds = zeroCount bs ∧ Radix.value 58 ds.reverse = bs.toNatBE := by
  obtain ⟨ds, hread, rfl⟩ := Option.map_eq_some_iff.mp h
  obtain ⟨hds, htext⟩ := (mapM_eq_some_iff digitValue?_eq_some_iff).mp hread
  have hbound : Radix.value 58 ds.reverse < 256 ^ text.toList.length := by
    have hvalue := Radix.value_lt ds.reverse fun d hd => hds d (List.mem_reverse.mp hd)
    rw [List.length_reverse] at hvalue
    rw [← htext, List.length_map]
    exact Nat.lt_of_lt_of_le hvalue (Nat.pow_le_pow_left (by decide) _)
  have hbytes : Radix.IsCanonical 256 _ := Radix.isCanonical_digits (by decide) hbound
  refine ⟨ds, hds, htext.symm, ?_, ?_⟩
  · rw [zeroCount_zeros_append _ hbytes, ← htext, length_takeWhile_map_digit hds]
  · rw [toNatBE_zeros_append _ hbytes.1, Radix.value_digits hbound]

/-- A text stands for a byte string exactly when it is its text. -/
theorem decode?_eq_some_iff {text : String} {bs : Bytes} :
    decode? text = some bs ↔ encode bs = text := by
  constructor
  · intro h
    obtain ⟨ds, hds, htext, hzeros, hvalue⟩ := exists_digits_of_decode? h
    have hdigits : textDigits bs = ds :=
      Radix.eq_of_leadingZeros_eq (by decide) (fun _ => lt_of_mem_textDigits) hds
        ((leadingZeros_textDigits bs).trans hzeros.symm)
        ((value_textDigits bs).trans hvalue.symm)
    rw [← String.toList_inj, toList_encode, hdigits, htext]
  · rintro rfl
    exact decode?_encode bs

/-! ### Characters and sizes -/

private theorem digit_mem_alphabet : ∀ d < 58, digit d ∈ alphabet := by
  decide +kernel

theorem mem_alphabet_of_mem_encode {bs : Bytes} {c : Char} (h : c ∈ (encode bs).toList) :
    c ∈ alphabet := by
  rw [toList_encode] at h
  obtain ⟨d, hd, rfl⟩ := List.mem_map.mp h
  exact digit_mem_alphabet d (lt_of_mem_textDigits hd)

theorem length_encode (bs : Bytes) : (encode bs).length = zeroCount bs + (digits bs).length := by
  rw [← String.length_toList, toList_encode, List.length_map, textDigits, List.length_append,
    List.length_replicate, List.length_reverse]

theorem length_eq_zeroCount_add (bs : Bytes) :
    bs.length = zeroCount bs + (significant bs).length := by
  conv => lhs; rw [← zeros_append_significant bs]
  rw [List.length_append, Bytes.zeros, List.length_replicate]

/-- A text has no fewer characters than its byte string has bytes. -/
theorem length_le_length_encode (bs : Bytes) : bs.length ≤ (encode bs).length := by
  have hlt : Radix.value 256 ((significant bs).reverse.map UInt8.toNat) <
      256 ^ (digits bs).length := by
    have hvalue := Radix.value_lt (digits bs) (isCanonical_digits bs).1
    rw [value_digits] at hvalue
    rw [← toNatBE_eq_value]
    exact Nat.lt_of_lt_of_le hvalue (Nat.pow_le_pow_left (by decide) _)
  have hlen := (isCanonical_significant bs).length_le (by decide) hlt
  rw [List.length_map, List.length_reverse] at hlen
  rw [length_encode, length_eq_zeroCount_add]
  exact Nat.add_le_add_left hlen _

/-- Up to thirty-two bytes have a text with at most twelve characters more. -/
theorem length_encode_le {bs : Bytes} (h : bs.length ≤ 32) :
    (encode bs).length ≤ bs.length + 12 := by
  have hbase : ∀ m ≤ 32, 256 ^ m ≤ 58 ^ (m + 12) := by decide
  have hsplit := length_eq_zeroCount_add bs
  have hlt : Radix.value 58 (digits bs) < 58 ^ ((significant bs).length + 12) := by
    have hvalue := Radix.value_lt _ (isCanonical_significant bs).1
    rw [← toNatBE_eq_value, List.length_map, List.length_reverse] at hvalue
    rw [value_digits]
    exact Nat.lt_of_lt_of_le hvalue (hbase _ (by omega))
  have hlen := (isCanonical_digits bs).length_le (by decide) hlt
  rw [length_encode, hsplit, Nat.add_assoc]
  exact Nat.add_le_add_left hlen _

end Base58

end MessageGateway

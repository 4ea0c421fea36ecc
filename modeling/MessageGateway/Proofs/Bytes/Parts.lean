import Mathlib.Data.List.DropRight
import MessageGateway.Bytes.Basic

/-!
# Telling parts apart

A part at the start of a byte string can be told from what follows it when its size is known, and
also when it lies behind a count of its bytes. So where one byte string is the start of another,
the two have the same first part, and what follows that part in the one is the start of what
follows it in the other. A number written in a fixed width is known up to a multiple of the bound
of the width, and a part filled up with zeros to a known size up to the zeros at its own end.

## Main definitions

* `MessageGateway.Bytes.trimZeros`.

## Main results

* `MessageGateway.Bytes.append_prefix_append_iff`,
  `MessageGateway.Bytes.counted_append_prefix_iff` — parts of a known size, and behind a count.
* `MessageGateway.Bytes.ofNatLE_eq_iff` — numbers with the same bytes.
* `MessageGateway.Bytes.append_zeros_eq_iff` — parts that are filled up to the same bytes.
-/

namespace MessageGateway

namespace Bytes

/-! ### Parts of a known size -/

/-- A part of a known size can be told from what follows it. -/
theorem append_prefix_append_iff {a b r s : Bytes} (hlen : a.length = b.length) :
    a ++ r <+: b ++ s ↔ a = b ∧ r <+: s := by
  constructor
  · rintro ⟨t, ht⟩
    rw [List.append_assoc] at ht
    obtain ⟨rfl, hrest⟩ := List.append_inj ht hlen
    exact ⟨rfl, t, hrest⟩
  · rintro ⟨rfl, h⟩
    exact (List.prefix_append_right_inj a).mpr h

/-! ### Numbers -/

/-- What is read back from the bytes of any number is its rest by the bound of the width. -/
theorem toNatLE_ofNatLE_mod (width n : Nat) : toNatLE (ofNatLE width n) = n % 256 ^ width := by
  induction width generalizing n with
  | zero => simp [ofNatLE, toNatLE, Nat.mod_one]
  | succ width ih =>
    have hbyte : (UInt8.ofNat (n % 256)).toNat = n % 256 := by
      rw [UInt8.toNat_ofNat']
      omega
    rw [ofNatLE, toNatLE, ih, hbyte, Nat.pow_succ', Nat.mod_mul]

/-- Numbers have the same bytes exactly when they agree up to the bound of the width. -/
theorem ofNatLE_eq_iff {width n k : Nat} :
    ofNatLE width n = ofNatLE width k ↔ n % 256 ^ width = k % 256 ^ width := by
  have hbytes (j : Nat) : ofNatLE width (j % 256 ^ width) = ofNatLE width j := by
    have h := ofNatLE_toNatLE (ofNatLE width j)
    rwa [length_ofNatLE, toNatLE_ofNatLE_mod] at h
  constructor
  · intro h
    rw [← toNatLE_ofNatLE_mod, h, toNatLE_ofNatLE_mod]
  · intro h
    rw [← hbytes n, h, hbytes]

/-- A number of a known width can be told from what follows it. -/
theorem ofNatLE_append_prefix_iff {width n k : Nat} {r s : Bytes} (hn : n < 256 ^ width)
    (hk : k < 256 ^ width) :
    ofNatLE width n ++ r <+: ofNatLE width k ++ s ↔ n = k ∧ r <+: s := by
  rw [append_prefix_append_iff (by simp only [length_ofNatLE]), ofNatLE_eq_iff,
    Nat.mod_eq_of_lt hn, Nat.mod_eq_of_lt hk]

/-! ### Parts behind a count -/

/-- A part behind a count of its bytes can be told from what follows it. -/
theorem counted_append_prefix_iff {width : Nat} {a b r s : Bytes} (ha : a.length < 256 ^ width)
    (hb : b.length < 256 ^ width) :
    ofNatLE width a.length ++ (a ++ r) <+: ofNatLE width b.length ++ (b ++ s) ↔
      a = b ∧ r <+: s := by
  rw [ofNatLE_append_prefix_iff ha hb]
  constructor
  · rintro ⟨hlen, h⟩
    exact (append_prefix_append_iff hlen).mp h
  · rintro ⟨rfl, h⟩
    exact ⟨rfl, (List.prefix_append_right_inj a).mpr h⟩

/-! ### Parts filled up with zeros -/

/-- A byte string without the zeros at its end. -/
def trimZeros (bs : Bytes) : Bytes :=
  bs.rdropWhile (· == 0)

theorem trimZeros_append_zeros (bs : Bytes) (n : Nat) :
    (bs ++ zeros n).trimZeros = bs.trimZeros := by
  induction n with
  | zero => rw [zeros, List.replicate_zero, List.append_nil]
  | succ n ih =>
    rw [zeros, List.replicate_succ', ← List.append_assoc, trimZeros,
      List.rdropWhile_concat_pos _ _ _ (by decide)]
    exact ih

/-- What trimming takes away are zeros. -/
theorem exists_eq_trimZeros_append (bs : Bytes) : ∃ n, bs = bs.trimZeros ++ zeros n := by
  refine ⟨(bs.rtakeWhile (· == 0)).length, ?_⟩
  have hzeros : bs.rtakeWhile (· == 0) = zeros (bs.rtakeWhile (· == 0)).length := by
    refine List.eq_replicate_length.mpr fun b hb => ?_
    have hzero := List.mem_rtakeWhile_imp hb
    exact eq_of_beq hzero
  rw [← hzeros, trimZeros, List.rdropWhile_append_rtakeWhile]

/-- Two byte strings are filled up to the same one of some size exactly when they agree up to the
zeros at their ends. -/
theorem append_zeros_eq_iff {a b : Bytes} {m n : Nat} (hlen : a.length + m = b.length + n) :
    a ++ zeros m = b ++ zeros n ↔ a.trimZeros = b.trimZeros := by
  constructor
  · intro h
    rw [← trimZeros_append_zeros a m, h, trimZeros_append_zeros]
  · intro h
    obtain ⟨k, hk⟩ := exists_eq_trimZeros_append a
    obtain ⟨l, hl⟩ := exists_eq_trimZeros_append b
    have hcount : k + m = l + n := by
      rw [hk, hl, h] at hlen
      simp only [zeros, List.length_append, List.length_replicate] at hlen
      omega
    rw [hk, hl, h, List.append_assoc, List.append_assoc]
    simp only [zeros, List.replicate_append_replicate, hcount]

end Bytes

end MessageGateway

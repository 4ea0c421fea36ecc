import Mathlib.Data.List.TakeWhile
import MessageGateway.Bytes.Basic
import MessageGateway.Bytes.Radix

/-!
# Canonical digits

Leading zeros apart, a number has one list of digits in a base. A list of digits is *canonical*
(`Radix.IsCanonical`) when each lies below the base and the last, which is the most significant
one, is not zero. The digits of a number are canonical, and a canonical list is the digits of the
number that it stands for, with no more of them than that number needs. A byte string, least
significant byte first, stands for the same number as its bytes do as digits in base 256.

Where leading zeros are kept, as many of them (`Radix.leadingZeros`) and the number together
determine the digits. A text of digits is read and written digit by digit; the laws of that hold
for lists of anything (`mapM_eq_some_iff`).

## Main definitions

* `MessageGateway.Radix.IsCanonical`, `MessageGateway.Radix.leadingZeros`.

## Main results

* `MessageGateway.Radix.isCanonical_digits`, `MessageGateway.Radix.digits_value`.
* `MessageGateway.Radix.IsCanonical.eq_of_value_eq` — canonical lists with one value are equal.
* `MessageGateway.Radix.eq_of_leadingZeros_eq` — so are lists that also have as many leading zeros.
-/

namespace MessageGateway

/-! ### Lists read element by element -/

/-- A list of elements that can be written is read back when each of these is. -/
theorem mapM_pmap_eq_some {α β : Type} {p : α → Prop} {read : β → Option α}
    {write : ∀ x, p x → β} (hread : ∀ x h, read (write x h) = some x) :
    (xs : List α) → (h : ∀ x ∈ xs, p x) → (xs.pmap write h).mapM read = some xs
  | [], _ => rfl
  | x :: xs, h => by
      have hxs := mapM_pmap_eq_some hread xs fun y hy => h y (List.mem_cons_of_mem x hy)
      rw [List.pmap_cons, List.mapM_cons, hread, hxs]
      rfl

/-- A list is read back when each of its elements is. -/
theorem mapM_map_eq_some {α β : Type} {read : β → Option α} {write : α → β} (xs : List α)
    (h : ∀ x ∈ xs, read (write x) = some x) : (xs.map write).mapM read = some xs := by
  rw [← List.pmap_eq_map h]
  exact mapM_pmap_eq_some (p := fun x => read (write x) = some x) (fun _ hx => hx) xs h

/-- A list is read as another exactly when that one is written as it, where this is so for every
element. -/
theorem mapM_eq_some_iff {α β : Type} {read : β → Option α} {write : α → β} {p : α → Prop}
    (h : ∀ {x y}, read y = some x ↔ p x ∧ write x = y) {ys : List β} {xs : List α} :
    ys.mapM read = some xs ↔ (∀ x ∈ xs, p x) ∧ xs.map write = ys := by
  constructor
  · intro hread
    induction ys generalizing xs with
    | nil =>
      obtain rfl : [] = xs := Option.some.inj hread
      simp
    | cons y ys ih =>
      rw [List.mapM_cons] at hread
      obtain ⟨x, hx, hread⟩ := Option.bind_eq_some_iff.mp hread
      obtain ⟨xs, hxs, hcons⟩ := Option.bind_eq_some_iff.mp hread
      obtain rfl := Option.some.inj hcons
      obtain ⟨hp, hwrite⟩ := h.mp hx
      obtain ⟨hps, hwrites⟩ := ih hxs
      exact ⟨List.forall_mem_cons.mpr ⟨hp, hps⟩, by rw [List.map_cons, hwrite, hwrites]⟩
  · rintro ⟨hp, rfl⟩
    exact mapM_map_eq_some xs fun x hx => h.mpr ⟨hp x hx, rfl⟩

namespace Radix

variable {base : Nat}

/-- Digits below the base of which the most significant one is not zero. -/
def IsCanonical (base : Nat) (ds : List Nat) : Prop :=
  (∀ d ∈ ds, d < base) ∧ ds.getLast? ≠ some 0

theorem value_lt : (ds : List Nat) → (∀ d ∈ ds, d < base) → value base ds < base ^ ds.length
  | [], _ => by simp [value]
  | d :: ds, h => by
      have hd : d < base := h d List.mem_cons_self
      have hds : value base ds < base ^ ds.length :=
        value_lt ds fun e he => h e (List.mem_cons_of_mem d he)
      have hmul : base * (value base ds + 1) ≤ base * base ^ ds.length :=
        Nat.mul_le_mul_left base hds
      rw [value, List.length_cons, Nat.pow_succ, Nat.mul_comm _ base]
      rw [Nat.mul_add] at hmul
      omega

/-- Zeros behind the most significant digit do not count. -/
theorem value_append_replicate_zero (n : Nat) :
    (ds : List Nat) → value base (ds ++ List.replicate n 0) = value base ds
  | [] => by
      induction n with
      | zero => rfl
      | succ n ih =>
        have hzeros : value base (List.replicate n 0) = 0 := ih
        change 0 + base * value base (List.replicate n 0) = 0
        rw [hzeros, Nat.mul_zero]
  | d :: ds => by
      rw [List.cons_append, value, value, value_append_replicate_zero n ds]

theorem IsCanonical.tail {d : Nat} {ds : List Nat} (h : IsCanonical base (d :: ds)) :
    IsCanonical base ds := by
  refine ⟨fun e he => h.1 e (List.mem_cons_of_mem d he), ?_⟩
  cases ds with
  | nil => simp
  | cons e ds => simpa only [List.getLast?_cons_cons] using h.2

theorem IsCanonical.value_ne_zero (hbase : 0 < base) :
    {ds : List Nat} → IsCanonical base ds → ds ≠ [] → value base ds ≠ 0
  | [d], h, _ => by simpa [value] using h.2
  | d :: e :: ds, h, _ => by
      have htail := h.tail.value_ne_zero hbase (List.cons_ne_nil e ds)
      have hmul : 0 < base * value base (e :: ds) :=
        Nat.mul_pos hbase (Nat.pos_of_ne_zero htail)
      rw [value]
      omega

/-- A canonical list is the digits of its number. -/
theorem digits_value (hbase : 0 < base) :
    {count : Nat} → {ds : List Nat} → IsCanonical base ds → ds.length ≤ count →
      digits base count (value base ds) = ds
  | 0, [], _, _ => rfl
  | _ + 1, [], _, _ => rfl
  | count + 1, d :: ds, h, hlen => by
      have hd : d < base := h.1 d List.mem_cons_self
      have hne : value base (d :: ds) ≠ 0 := h.value_ne_zero hbase (List.cons_ne_nil d ds)
      have hmod : value base (d :: ds) % base = d := by
        rw [value, Nat.add_mul_mod_self_left, Nat.mod_eq_of_lt hd]
      have hdiv : value base (d :: ds) / base = value base ds := by
        rw [value, Nat.add_mul_div_left _ _ hbase, Nat.div_eq_of_lt hd, Nat.zero_add]
      rw [digits, if_neg hne, hmod, hdiv,
        digits_value hbase h.tail (Nat.le_of_succ_le_succ hlen)]

/-- Canonical lists that stand for one number are equal. -/
theorem IsCanonical.eq_of_value_eq (hbase : 0 < base) {ds es : List Nat}
    (hds : IsCanonical base ds) (hes : IsCanonical base es)
    (h : value base ds = value base es) : ds = es := by
  have hd := digits_value hbase hds (Nat.le_max_left ds.length es.length)
  have he := digits_value hbase hes (Nat.le_max_right ds.length es.length)
  rw [← hd, h, he]

/-- The digits of a number are canonical, as soon as there is room for all of them. -/
theorem isCanonical_digits (hbase : 0 < base) {count n : Nat} (h : n < base ^ count) :
    IsCanonical base (digits base count n) := by
  induction count generalizing n with
  | zero => simp [digits, IsCanonical]
  | succ count ih =>
    by_cases hn : n = 0
    · simp [digits, hn, IsCanonical]
    · have hlt : n / base < base ^ count := by
        rw [Nat.pow_succ, Nat.mul_comm] at h
        exact Nat.div_lt_of_lt_mul h
      obtain ⟨hmem, hlast⟩ := ih hlt
      have hval := value_digits hlt
      rw [digits, if_neg hn]
      refine ⟨?_, ?_⟩
      · rintro d (_ | ⟨_, hd⟩)
        · exact Nat.mod_lt n hbase
        · exact hmem d hd
      · cases hds : digits base count (n / base) with
        | nil =>
          -- The lowest digit is the only one, so it is the number, which is not zero.
          rw [hds, value] at hval
          have hsum := Nat.div_add_mod n base
          rw [← hval, Nat.mul_zero, Nat.zero_add] at hsum
          simpa [hsum] using hn
        | cons d ds =>
          rw [List.getLast?_cons_cons, ← hds]
          exact hlast

/-! ### Numbers of digits -/

/-- A canonical list stands for no less than a one in the place of its most significant digit. -/
theorem IsCanonical.pow_le_value (hbase : 0 < base) :
    {d : Nat} → {ds : List Nat} → IsCanonical base (d :: ds) →
      base ^ ds.length ≤ value base (d :: ds)
  | d, [], h => by
      have hne : value base [d] ≠ 0 := h.value_ne_zero hbase (List.cons_ne_nil d [])
      exact Nat.pos_of_ne_zero hne
  | d, e :: ds, h => by
      have htail : base ^ ds.length ≤ value base (e :: ds) := h.tail.pow_le_value hbase
      calc base ^ (e :: ds).length = base * base ^ ds.length := by
            rw [List.length_cons, Nat.pow_succ']
        _ ≤ base * value base (e :: ds) := Nat.mul_le_mul_left base htail
        _ ≤ value base (d :: e :: ds) := by
            rw [value]
            exact Nat.le_add_left _ d

/-- A number has no more digits than a bound that it is below of has places. -/
theorem IsCanonical.length_le (hbase : 1 < base) {ds : List Nat} {count : Nat}
    (h : IsCanonical base ds) (hlt : value base ds < base ^ count) : ds.length ≤ count := by
  cases ds with
  | nil => exact Nat.zero_le count
  | cons d ds =>
    have hpow : base ^ ds.length < base ^ count :=
      Nat.lt_of_le_of_lt (h.pow_le_value (Nat.lt_trans Nat.zero_lt_one hbase)) hlt
    exact (Nat.pow_lt_pow_iff_right hbase).mp hpow

/-! ### Digits with leading zeros -/

/-- The number of zeros that a list of digits, most significant first, starts with. -/
def leadingZeros (ds : List Nat) : Nat :=
  (ds.takeWhile (· == 0)).length

theorem replicate_append_dropWhile (ds : List Nat) :
    List.replicate (leadingZeros ds) 0 ++ ds.dropWhile (· == 0) = ds := by
  have hzeros : ds.takeWhile (· == 0) = List.replicate (leadingZeros ds) 0 := by
    refine List.eq_replicate_of_mem fun d hd => ?_
    simpa using List.mem_takeWhile_imp hd
  rw [← hzeros]
  exact List.takeWhile_append_dropWhile

theorem leadingZeros_replicate_append {ds : List Nat} (n : Nat) (h : ds.head? ≠ some 0) :
    leadingZeros (List.replicate n 0 ++ ds) = n := by
  have hds : ds.takeWhile (· == 0) = [] := by
    cases ds with
    | nil => rfl
    | cons d ds => simpa using h
  rw [leadingZeros, List.takeWhile_append_of_pos (by simp), hds, List.append_nil,
    List.length_replicate]

/-- Behind the leading zeros, the digits are canonical. -/
theorem isCanonical_reverse_dropWhile {ds : List Nat} (h : ∀ d ∈ ds, d < base) :
    IsCanonical base (ds.dropWhile (· == 0)).reverse := by
  refine ⟨fun d hd => ?_, ?_⟩
  · exact h d ((List.dropWhile_suffix _).mem (List.mem_reverse.mp hd))
  · rw [List.getLast?_reverse]
    intro hhead
    have hnot := List.head?_dropWhile_not (· == 0) ds
    rw [hhead] at hnot
    simp at hnot

/-- Leading zeros do not count. -/
theorem value_reverse_dropWhile (ds : List Nat) :
    value base (ds.dropWhile (· == 0)).reverse = value base ds.reverse := by
  conv => rhs; rw [← replicate_append_dropWhile ds]
  rw [List.reverse_append, List.reverse_replicate, value_append_replicate_zero]

/-- Digits are known from the number of their leading zeros and the number that they stand for. -/
theorem eq_of_leadingZeros_eq (hbase : 0 < base) {ds es : List Nat} (hds : ∀ d ∈ ds, d < base)
    (hes : ∀ e ∈ es, e < base) (hzeros : leadingZeros ds = leadingZeros es)
    (hvalue : value base ds.reverse = value base es.reverse) : ds = es := by
  have hrest : (ds.dropWhile (· == 0)).reverse = (es.dropWhile (· == 0)).reverse := by
    refine (isCanonical_reverse_dropWhile hds).eq_of_value_eq hbase
      (isCanonical_reverse_dropWhile hes) ?_
    rw [value_reverse_dropWhile, value_reverse_dropWhile, hvalue]
  rw [← replicate_append_dropWhile ds, ← replicate_append_dropWhile es, hzeros,
    List.reverse_inj.mp hrest]

/-! ### Bytes as digits -/

theorem toNatLE_eq_value : (bs : Bytes) → bs.toNatLE = value 256 (bs.map UInt8.toNat)
  | [] => rfl
  | b :: bs => by rw [Bytes.toNatLE, List.map_cons, value, toNatLE_eq_value bs]

theorem toNatBE_eq_value_reverse (bs : Bytes) :
    bs.toNatBE = value 256 (bs.map UInt8.toNat).reverse := by
  rw [Bytes.toNatBE, toNatLE_eq_value, List.map_reverse]

/-- The bytes of a byte string that does not end in a zero are canonical digits. -/
theorem isCanonical_map_toNat {bs : Bytes} (h : bs.getLast? ≠ some 0) :
    IsCanonical 256 (bs.map UInt8.toNat) := by
  refine ⟨?_, ?_⟩
  · intro d hd
    obtain ⟨b, -, rfl⟩ := List.mem_map.mp hd
    exact b.toNat_lt
  · rw [List.getLast?_map]
    rintro hlast
    obtain ⟨b, hb, hzero⟩ := Option.map_eq_some_iff.mp hlast
    have : b = 0 := UInt8.toNat_inj.mp hzero
    exact h (this ▸ hb)

end Radix

end MessageGateway

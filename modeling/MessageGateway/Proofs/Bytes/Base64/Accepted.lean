import MessageGateway.Proofs.Bytes.Base64

/-!
# Which texts base 64 accepts

A text that can be read once it is completed is digits and, behind them, padding signs
(`Base64.IsWritten`). The padding completes the last group, whole or in part (`Base64.Completes`), or it stands behind groups that are
complete without it (`Base64.IsSurplus`). The bytes are the bits of the digits as far as they fill
whole bytes (`Base64.Fills`), which leaves one byte string for the digits.

## Main definitions

* `MessageGateway.Bits.ofNat`, `MessageGateway.Bytes.bits`, `MessageGateway.Base64.bits`.
* `MessageGateway.Base64.IsWritten`, `MessageGateway.Base64.Completes`,
  `MessageGateway.Base64.IsSurplus`, `MessageGateway.Base64.Fills`.

## Main results

* `MessageGateway.Base64.IsWritten.unique` — one way to tell digits from padding.
* `MessageGateway.Base64.Fills.unique`, `MessageGateway.Base64.fills_pack`.
* `MessageGateway.Base64.decodeChars?_complete_eq_some_iff` — the texts that are accepted.
-/

namespace MessageGateway

/-! ### Bits -/

namespace Bits

/-- The lowest `width` bits of a number, most significant first. -/
def ofNat : Nat → Nat → List Bool
  | 0, _ => []
  | width + 1, n => n.testBit width :: ofNat width n

variable {w v n m : Nat}

@[simp] theorem length_ofNat (w n : Nat) : (ofNat w n).length = w := by
  induction w with
  | zero => rfl
  | succ w ih => rw [ofNat, List.length_cons, ih]

/-- What lies above the bits makes no difference. -/
theorem ofNat_mod (h : w ≤ v) (n : Nat) : ofNat w (n % 2 ^ v) = ofNat w n := by
  induction w with
  | zero => rfl
  | succ w ih =>
    rw [ofNat, ofNat, ih (Nat.le_of_succ_le h), Nat.testBit_mod_two_pow]
    simp [Nat.lt_of_succ_le h]

/-- The bits of a number are the higher ones and, behind them, the lower ones. -/
theorem ofNat_add (w v n : Nat) : ofNat (w + v) n = ofNat w (n / 2 ^ v) ++ ofNat v n := by
  induction w with
  | zero => rw [Nat.zero_add, ofNat, List.nil_append]
  | succ w ih =>
    rw [Nat.succ_add, ofNat, ofNat, ih, Nat.testBit_div_two_pow, Nat.add_comm w v, List.cons_append]

/-- A number that is put together has the bits of its parts. -/
theorem ofNat_concat (h : m < 2 ^ v) : ofNat (w + v) (n * 2 ^ v + m) = ofNat w n ++ ofNat v m := by
  have hhigh : (n * 2 ^ v + m) / 2 ^ v = n := by
    rw [Nat.mul_comm, Nat.mul_add_div (Nat.two_pow_pos v), Nat.div_eq_of_lt h, Nat.add_zero]
  have hlow : (n * 2 ^ v + m) % 2 ^ v = m := by
    rw [Nat.mul_comm, Nat.mul_add_mod, Nat.mod_eq_of_lt h]
  rw [ofNat_add, hhigh, ← ofNat_mod (Nat.le_refl v) (n * 2 ^ v + m), hlow]

theorem testBit_eq_of_ofNat_eq (h : ofNat w n = ofNat w m) :
    ∀ i < w, n.testBit i = m.testBit i := by
  induction w with
  | zero => exact nofun
  | succ w ih =>
    obtain ⟨hhead, htail⟩ := List.cons.inj h
    intro i hi
    rcases Nat.lt_succ_iff_lt_or_eq.mp hi with hlt | rfl
    · exact ih htail i hlt
    · exact hhead

/-- A number that fits is known from its bits. -/
theorem ofNat_inj (hn : n < 2 ^ w) (hm : m < 2 ^ w) (h : ofNat w n = ofNat w m) : n = m := by
  refine Nat.eq_of_testBit_eq fun i => ?_
  by_cases hi : i < w
  · exact testBit_eq_of_ofNat_eq h i hi
  · have hle : 2 ^ w ≤ 2 ^ i := Nat.pow_le_pow_right (by decide) (Nat.le_of_not_lt hi)
    rw [Nat.testBit_lt_two_pow (Nat.lt_of_lt_of_le hn hle),
      Nat.testBit_lt_two_pow (Nat.lt_of_lt_of_le hm hle)]

end Bits

namespace Bytes

/-- The bits of a byte string, most significant first in every byte. -/
def bits (bs : Bytes) : List Bool :=
  bs.flatMap fun b => Bits.ofNat 8 b.toNat

theorem bits_nil : bits [] = [] :=
  rfl

theorem bits_cons (b : UInt8) (bs : Bytes) : bits (b :: bs) = Bits.ofNat 8 b.toNat ++ bits bs :=
  rfl

/-- The bits of a byte that is cut out of a number. -/
theorem bits_ofNat_cons (n : Nat) (bs : Bytes) :
    bits (UInt8.ofNat n :: bs) = Bits.ofNat 8 n ++ bits bs := by
  rw [bits_cons, UInt8.toNat_ofNat', Bits.ofNat_mod (Nat.le_refl 8)]

/-- A byte string is known from its bits. -/
theorem bits_injective : Function.Injective bits := by
  intro bs
  induction bs with
  | nil =>
    rintro (_ | ⟨c, cs⟩) h
    · rfl
    · simp [bits, Bits.ofNat] at h
  | cons b bs ih =>
    rintro (_ | ⟨c, cs⟩) h
    · simp [bits, Bits.ofNat] at h
    · rw [bits_cons, bits_cons] at h
      obtain ⟨hbyte, hrest⟩ := List.append_inj h (by rw [Bits.length_ofNat, Bits.length_ofNat])
      rw [ih hrest, UInt8.toNat_inj.mp (Bits.ofNat_inj b.toNat_lt c.toNat_lt hbyte)]

theorem length_bits (bs : Bytes) : bs.bits.length = 8 * bs.length := by
  induction bs with
  | nil => rfl
  | cons b bs ih =>
    rw [bits_cons, List.length_append, ih, Bits.length_ofNat, List.length_cons]
    omega

end Bytes

namespace Base64

/-! ### Digits -/

/-- The bits of digits, six of each. -/
def bits (digits : List Char) : List Bool :=
  digits.flatMap fun c => Bits.ofNat 6 (alphabet.idxOf c)

private theorem digit_of_range :
    (∀ d < 26, digit (d + 0) = Char.ofNat (d + 'A'.toNat)) ∧
      (∀ d < 26, digit (d + 26) = Char.ofNat (d + 'a'.toNat)) ∧
        ∀ d < 10, digit (d + 52) = Char.ofNat (d + '0'.toNat) := by
  decide +kernel

private theorem idxOf_digit_of_lt : ∀ d < 64, alphabet.idxOf (digit d) = d := by
  decide +kernel

private theorem alphabet_eq : alphabet = (List.range 64).map digit := by
  decide +kernel

private theorem digit_idxOf_of_mem (c : Char) (h : c ∈ alphabet) :
    alphabet.idxOf c < 64 ∧ digit (alphabet.idxOf c) = c := by
  rw [alphabet_eq] at h
  obtain ⟨d, hd, rfl⟩ := List.mem_map.mp h
  rw [idxOf_digit_of_lt d (List.mem_range.mp hd)]
  exact ⟨List.mem_range.mp hd, rfl⟩

/-- A character of a range is the digit of its place in the range. -/
private theorem digit_of_le {low high c : Char} {start count d : Nat}
    (hrange : ∀ d < count, digit (d + start) = Char.ofNat (d + low.toNat))
    (hcount : high.toNat < low.toNat + count) (hc : low ≤ c ∧ c ≤ high)
    (hd : d + low.toNat = c.toNat + start) : d < start + count ∧ digit d = c := by
  have hlow : low.toNat ≤ c.toNat := hc.1
  have hhigh : c.toNat ≤ high.toNat := hc.2
  obtain rfl : c.toNat - low.toNat + start = d := by omega
  refine ⟨by omega, ?_⟩
  rw [hrange _ (by omega), Nat.sub_add_cancel hlow, Char.ofNat_toNat]

/-- A character stands for a number below sixty-four exactly when it is its digit. -/
theorem digitValue?_eq_some_iff {c : Char} {d : Nat} :
    digitValue? c = some d ↔ d < 64 ∧ digit d = c := by
  obtain ⟨hupper, hlower, hfigure⟩ := digit_of_range
  constructor
  · intro h
    unfold digitValue? at h
    split at h
    next hc =>
      have hle : 65 ≤ c.toNat := hc.1
      obtain rfl := Option.some.inj h
      have hd : c.toNat - 65 + 'A'.toNat = c.toNat + 0 := Nat.sub_add_cancel hle
      exact (digit_of_le hupper (by decide) hc hd).imp_left fun hlt => by omega
    split at h
    next hc =>
      have hle : 97 ≤ c.toNat := hc.1
      obtain rfl := Option.some.inj h
      have hd : c.toNat - 71 + 'a'.toNat = c.toNat + 26 := by
        have ha : 'a'.toNat = 97 := rfl
        omega
      exact (digit_of_le hlower (by decide) hc hd).imp_left fun hlt => by omega
    split at h
    next hc =>
      obtain rfl := Option.some.inj h
      have hd : c.toNat + 4 + '0'.toNat = c.toNat + 52 := rfl
      exact (digit_of_le hfigure (by decide) hc hd).imp_left fun hlt => by omega
    split at h
    next hc =>
      obtain rfl := Option.some.inj h
      exact ⟨by decide, hc ▸ by decide +kernel⟩
    split at h
    next hc =>
      obtain rfl := Option.some.inj h
      exact ⟨by decide, hc ▸ by decide +kernel⟩
    next => cases h
  · rintro ⟨hlt, rfl⟩
    exact digitValue?_digit_of_lt d hlt

/-- Digits are read as their places in the alphabet, and nothing else is read. -/
theorem mapM_digitValue?_eq_some_iff {digits : List Char} {values : List Nat} :
    digits.mapM digitValue? = some values ↔
      (∀ c ∈ digits, c ∈ alphabet) ∧ values = digits.map alphabet.idxOf := by
  rw [mapM_eq_some_iff digitValue?_eq_some_iff]
  constructor
  · rintro ⟨hlt, rfl⟩
    refine ⟨fun c hc => ?_, ?_⟩
    · obtain ⟨d, hd, rfl⟩ := List.mem_map.mp hc
      exact digit_mem_alphabet_of_lt d (hlt d hd)
    · rw [List.map_map]
      refine ((List.map_congr_left fun d hd => ?_).trans (List.map_id values)).symm
      exact idxOf_digit_of_lt d (hlt d hd)
  · rintro ⟨hmem, rfl⟩
    refine ⟨fun d hd => ?_, ?_⟩
    · obtain ⟨c, hc, rfl⟩ := List.mem_map.mp hd
      exact (digit_idxOf_of_mem c (hmem c hc)).1
    · rw [List.map_map]
      exact (List.map_congr_left fun c hc => (digit_idxOf_of_mem c (hmem c hc)).2).trans
        (List.map_id digits)

/-! ### Packing -/

/-- The second value of a group ends the first byte and starts the second. -/
private theorem ofNat_six_split_two (b : Nat) :
    Bits.ofNat 6 b = Bits.ofNat 2 (b / 16) ++ Bits.ofNat 4 (b % 16) := by
  rw [Bits.ofNat_mod (v := 4) (Nat.le_refl 4) b]
  exact Bits.ofNat_add 2 4 b

/-- The third value of a group ends the second byte and starts the third. -/
private theorem ofNat_six_split_four (c : Nat) :
    Bits.ofNat 6 c = Bits.ofNat 4 (c / 4) ++ Bits.ofNat 2 (c % 4) := by
  rw [Bits.ofNat_mod (v := 2) (Nat.le_refl 2) c]
  exact Bits.ofNat_add 4 2 c

private theorem ofNat_first_byte (a : Nat) {b : Nat} (hb : b < 64) :
    Bits.ofNat 8 (a * 4 + b / 16) = Bits.ofNat 6 a ++ Bits.ofNat 2 (b / 16) :=
  Bits.ofNat_concat (w := 6) (v := 2) (by omega)

private theorem ofNat_second_byte (b : Nat) {c : Nat} (hc : c < 64) :
    Bits.ofNat 8 (b % 16 * 16 + c / 4) = Bits.ofNat 4 (b % 16) ++ Bits.ofNat 4 (c / 4) :=
  Bits.ofNat_concat (w := 4) (v := 4) (by omega)

private theorem ofNat_third_byte (c : Nat) {d : Nat} (hd : d < 64) :
    Bits.ofNat 8 (c % 4 * 64 + d) = Bits.ofNat 2 (c % 4) ++ Bits.ofNat 6 d :=
  Bits.ofNat_concat (w := 2) (v := 6) hd

/-- The bytes that fill up with six-bit values have the bits of these, as far as they go. -/
theorem bits_pack_prefix : (values : List Nat) → (∀ d ∈ values, d < 64) →
    (pack values).bits <+: values.flatMap (Bits.ofNat 6)
  | [], _ | [_], _ => List.nil_prefix
  | [a, b], h => by
      have hb : b < 64 := h b (by simp)
      refine ⟨Bits.ofNat 4 (b % 16), ?_⟩
      simp only [pack, Bytes.bits_ofNat_cons, Bytes.bits_nil, List.flatMap_cons, List.flatMap_nil,
        List.append_nil, List.append_assoc, ofNat_first_byte a hb, ofNat_six_split_two b]
  | [a, b, c], h => by
      have hb : b < 64 := h b (by simp)
      have hc : c < 64 := h c (by simp)
      refine ⟨Bits.ofNat 2 (c % 4), ?_⟩
      simp only [pack, Bytes.bits_ofNat_cons, Bytes.bits_nil, List.flatMap_cons, List.flatMap_nil,
        List.append_nil, List.append_assoc, ofNat_first_byte a hb, ofNat_second_byte b hc,
        ofNat_six_split_two b, ofNat_six_split_four c]
  | a :: b :: c :: d :: rest, h => by
      have hb : b < 64 := h b (by simp)
      have hc : c < 64 := h c (by simp)
      have hd : d < 64 := h d (by simp)
      obtain ⟨left, hleft⟩ := bits_pack_prefix rest fun e he => h e (by simp [he])
      refine ⟨left, ?_⟩
      simp only [pack, Bytes.bits_ofNat_cons, List.flatMap_cons, ← hleft, List.append_assoc,
        ofNat_first_byte a hb, ofNat_second_byte b hc, ofNat_third_byte c hd,
        ofNat_six_split_two b, ofNat_six_split_four c]

theorem length_pack : (values : List Nat) → (pack values).length = 6 * values.length / 8
  | [] | [_] | [_, _] | [_, _, _] => by simp [pack]
  | a :: b :: c :: d :: rest => by
      simp only [pack, List.length_cons, length_pack rest]
      omega

/-! ### Texts -/

/-- A text is digits and, behind them, padding signs; a last group of one digit would hold no
byte. -/
structure IsWritten (text digits : List Char) (pads : Nat) : Prop where
  text_eq : text = digits ++ List.replicate pads '='
  mem_alphabet : ∀ c ∈ digits, c ∈ alphabet
  length_mod_ne : digits.length % 4 ≠ 1

/-- The padding signs do not go beyond the last group of digits. -/
def Completes (digits : List Char) (pads : Nat) : Prop :=
  (pads : Int) ≤ -(digits.length : Int) % 4

/-- There are padding signs behind digits whose groups are all complete. -/
def IsSurplus (digits : List Char) (pads : Nat) : Prop :=
  digits ≠ [] ∧ 4 ∣ digits.length ∧ 0 < pads

/-- A byte string is as many whole bytes as the bits of digits fill. -/
structure Fills (digits : List Char) (bs : Bytes) : Prop where
  length_eq : bs.length = 6 * digits.length / 8
  bits_prefix : bs.bits <+: bits digits

variable {text digits digits' : List Char} {pads pads' count : Nat} {bs bs' : Bytes}

/-- Digits fill one byte string. -/
theorem Fills.unique (h : Fills digits bs) (h' : Fills digits bs') : bs = bs' := by
  have hlen : bs.bits.length = bs'.bits.length := by
    rw [Bytes.length_bits, Bytes.length_bits, h.length_eq, h'.length_eq]
  exact Bytes.bits_injective
    ((List.prefix_of_prefix_length_le h.bits_prefix h'.bits_prefix hlen.le).eq_of_length hlen)

/-- The padding that is accepted once it is completed. -/
theorem takesPadding_completed_iff_completes :
    takesPadding digits.length (pads + lacking (digits.length + pads)) = true ↔
      digits.length % 4 ≠ 1 ∧ (Completes digits pads ∨ IsSurplus digits pads) := by
  have hempty : digits = [] ↔ digits.length = 0 := List.length_eq_zero_iff.symm
  rw [takesPadding_completed_iff]
  unfold Completes IsSurplus
  rw [ne_eq digits, hempty]
  omega

/-- Digits are told from padding in one way. -/
theorem IsWritten.unique (h : IsWritten text digits pads) (h' : IsWritten text digits' pads') :
    digits = digits' ∧ pads = pads' := by
  have hdigits := takeWhile_append_replicate pads fun c hc =>
    ne_pad_of_mem_alphabet c (h.mem_alphabet c hc)
  have hdigits' := takeWhile_append_replicate pads' fun c hc =>
    ne_pad_of_mem_alphabet c (h'.mem_alphabet c hc)
  rw [← h.text_eq] at hdigits
  rw [← h'.text_eq] at hdigits'
  obtain rfl : digits = digits' := hdigits.symm.trans hdigits'
  have hlen := congrArg List.length (h.text_eq.symm.trans h'.text_eq)
  simp only [List.length_append, List.length_replicate] at hlen
  exact ⟨rfl, Nat.add_left_cancel hlen⟩

/-- Digits fill the bytes that their values are packed into. -/
theorem fills_pack (h : ∀ c ∈ digits, c ∈ alphabet) :
    Fills digits (pack (digits.map alphabet.idxOf)) where
  length_eq := by rw [length_pack, List.length_map]
  bits_prefix := by
    have hbits := bits_pack_prefix (digits.map alphabet.idxOf) fun d hd => by
      obtain ⟨c, hc, rfl⟩ := List.mem_map.mp hd
      exact (digit_idxOf_of_mem c (h c hc)).1
    rwa [List.flatMap_map] at hbits

/-- Digits are read as the bytes that they fill. -/
theorem map_pack_eq_some_iff : (digits.mapM digitValue?).map pack = some bs ↔
    (∀ c ∈ digits, c ∈ alphabet) ∧ Fills digits bs := by
  rw [Option.map_eq_some_iff]
  constructor
  · rintro ⟨values, hvalues, rfl⟩
    obtain ⟨hmem, rfl⟩ := mapM_digitValue?_eq_some_iff.mp hvalues
    exact ⟨hmem, fills_pack hmem⟩
  · rintro ⟨hmem, hfills⟩
    exact ⟨_, mapM_digitValue?_eq_some_iff.mpr ⟨hmem, rfl⟩, (fills_pack hmem).unique hfills⟩

/-- A text that is accepted is digits and padding signs. -/
theorem exists_eq_append_of_decodeChars? (h : decodeChars? text = some bs) :
    ∃ digits pads, (∀ c ∈ digits, c ≠ '=') ∧ text = digits ++ List.replicate pads '=' := by
  unfold decodeChars? at h
  obtain ⟨hcheck, -⟩ := Option.ite_none_right_eq_some.mp h
  have hpads := (Bool.and_eq_true_iff.mp hcheck).1
  refine ⟨text.takeWhile (· != '='), (text.dropWhile (· != '=')).length, fun c hc => ?_, ?_⟩
  · have hne := List.mem_takeWhile_imp hc
    exact bne_iff_ne.mp hne
  · have hreplicate := List.eq_replicate_iff.mpr
      ⟨rfl, fun c hc => beq_iff_eq.mp (List.all_eq_true.mp hpads c hc)⟩
    rw [← hreplicate, List.takeWhile_append_dropWhile]

/-- A text that is digits and padding signs once it is completed is so before. -/
theorem exists_eq_append_of_complete {n : Nat} (hne : ∀ c ∈ digits, c ≠ '=')
    (h : complete text = digits ++ List.replicate n '=') :
    ∃ pads, text = digits ++ List.replicate pads '=' := by
  rcases List.append_eq_append_iff.mp h with ⟨more, rfl, hpads⟩ | ⟨pads, rfl, hpads⟩
  · -- The text ends within the digits, among which there is none of the signs that were added.
    have hmore : more = [] := List.eq_nil_iff_forall_not_mem.mpr fun c hc => by
      have hmem : c ∈ List.replicate (lacking text.length) '=' :=
        hpads ▸ List.mem_append_left _ hc
      exact hne c (List.mem_append_right _ hc) (List.eq_of_mem_replicate hmem)
    exact ⟨0, by rw [hmore, List.append_nil, List.replicate_zero, List.append_nil]⟩
  · exact ⟨pads.length, congrArg _ (List.append_eq_replicate_iff.mp hpads.symm).2.1⟩

/-- **The texts that base 64 accepts** once they are completed, and their bytes. -/
theorem decodeChars?_complete_eq_some_iff : decodeChars? (complete text) = some bs ↔
    ∃ digits pads, IsWritten text digits pads ∧
      (Completes digits pads ∨ IsSurplus digits pads) ∧ Fills digits bs := by
  constructor
  · intro h
    obtain ⟨digits, n, hne, hcomplete⟩ := exists_eq_append_of_decodeChars? h
    obtain ⟨pads, rfl⟩ := exists_eq_append_of_complete hne hcomplete
    rw [decodeChars?_complete_append_replicate pads hne] at h
    obtain ⟨htakes, hread⟩ := Option.ite_none_right_eq_some.mp h
    obtain ⟨hmem, hfills⟩ := map_pack_eq_some_iff.mp hread
    obtain ⟨hlen, hpads⟩ := takesPadding_completed_iff_completes.mp htakes
    exact ⟨digits, pads, ⟨rfl, hmem, hlen⟩, hpads, hfills⟩
  · rintro ⟨digits, pads, ⟨rfl, hmem, hlen⟩, hpads, hfills⟩
    rw [decodeChars?_complete_append_replicate pads fun c hc =>
        ne_pad_of_mem_alphabet c (hmem c hc),
      if_pos (takesPadding_completed_iff_completes.mpr ⟨hlen, hpads⟩)]
    exact map_pack_eq_some_iff.mpr ⟨hmem, hfills⟩

end Base64

end MessageGateway

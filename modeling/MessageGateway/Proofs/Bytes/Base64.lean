import Mathlib.Data.List.DropRight
import MessageGateway.Bytes.Base64
import MessageGateway.Proofs.Bytes.Radix

/-!
# Base-64 text, read back

The standard text of a byte string is the digits of its six-bit values (`Base64.sextets`) and behind
them the signs that pad the last group to four (`Base64.padCount`). Completing a text decides which
padding can be read behind digits (`Base64.takesPadding_completed_iff`). So the digits alone are read
back once they are completed, and so they are with all of their padding or any part of it.

## Main definitions

* `MessageGateway.Base64.sextets`, `MessageGateway.Base64.padCount`.

## Main results

* `MessageGateway.Base64.encodeChars_eq` — the standard text.
* `MessageGateway.Base64.takesPadding_completed_iff` — which padding is accepted.
* `MessageGateway.Base64.decodeChars?_complete_rdrop` — what was written is read back, without any
  part of its padding.
-/

namespace MessageGateway

namespace Base64

/-! ### Digits -/

theorem digitValue?_digit_of_lt : ∀ d < 64, digitValue? (digit d) = some d := by
  decide +kernel

theorem digit_mem_alphabet_of_lt : ∀ d < 64, digit d ∈ alphabet := by
  decide +kernel

private theorem pad_notMem_alphabet : '=' ∉ alphabet := by
  decide +kernel

/-- A padding sign is no digit. -/
theorem ne_pad_of_mem_alphabet (c : Char) (h : c ∈ alphabet) : c ≠ '=' := by
  rintro rfl
  exact pad_notMem_alphabet h

/-! ### Six-bit values -/

/-- The six-bit values of a byte string, group by group. -/
def sextets : Bytes → List Nat
  | [] => []
  | [a] => [a.toNat / 4, a.toNat % 4 * 16]
  | [a, b] => [a.toNat / 4, a.toNat % 4 * 16 + b.toNat / 16, b.toNat % 16 * 4]
  | a :: b :: c :: rest =>
    a.toNat / 4 :: (a.toNat % 4 * 16 + b.toNat / 16) :: (b.toNat % 16 * 4 + c.toNat / 64) ::
      c.toNat % 64 :: sextets rest

theorem sextets_ne_nil : {bs : Bytes} → bs ≠ [] → sextets bs ≠ []
  | [], h => absurd rfl h
  | [_], _ | [_, _], _ | _ :: _ :: _ :: _, _ => List.cons_ne_nil _ _

/-- The number of signs that pad the last group. -/
def padCount : Bytes → Nat
  | [] => 0
  | [_] => 2
  | [_, _] => 1
  | _ :: _ :: _ :: rest => padCount rest

theorem lt_of_mem_sextets : (bs : Bytes) → {d : Nat} → d ∈ sextets bs → d < 64
  | [], _, h => nomatch h
  | [a], d, h => by
      have ha := a.toNat_lt
      simp only [sextets, List.mem_cons, List.not_mem_nil, or_false] at h
      omega
  | [a, b], d, h => by
      have ha := a.toNat_lt
      have hb := b.toNat_lt
      simp only [sextets, List.mem_cons, List.not_mem_nil, or_false] at h
      omega
  | a :: b :: c :: rest, d, h => by
      have ha := a.toNat_lt
      have hb := b.toNat_lt
      have hc := c.toNat_lt
      simp only [sextets, List.mem_cons] at h
      rcases h with h | h | h | h | h
      · omega
      · omega
      · omega
      · omega
      · exact lt_of_mem_sextets rest h

private theorem ofNat_eq {n : Nat} {b : UInt8} (h : n = b.toNat) : UInt8.ofNat n = b := by
  rw [h, UInt8.ofNat_toNat]

/-- The first byte of a group, from its first two values. -/
private theorem first_byte (a b : UInt8) :
    UInt8.ofNat (a.toNat / 4 * 4 + (a.toNat % 4 * 16 + b.toNat / 16) / 16) = a :=
  have hb := b.toNat_lt
  ofNat_eq (by omega)

/-- The second byte of a group, from its second and third value. -/
private theorem second_byte (a b c : UInt8) :
    UInt8.ofNat ((a.toNat % 4 * 16 + b.toNat / 16) % 16 * 16 +
      (b.toNat % 16 * 4 + c.toNat / 64) / 4) = b :=
  have hb := b.toNat_lt
  have hc := c.toNat_lt
  ofNat_eq (by omega)

/-- The third byte of a group, from its last two values. -/
private theorem third_byte (b c : UInt8) :
    UInt8.ofNat ((b.toNat % 16 * 4 + c.toNat / 64) % 4 * 64 + c.toNat % 64) = c :=
  have hc := c.toNat_lt
  ofNat_eq (by omega)

/-- The bytes that fill up with the six-bit values of a byte string are that byte string. -/
theorem pack_sextets : (bs : Bytes) → pack (sextets bs) = bs
  | [] => rfl
  -- A byte that the last group lacks counts as zero.
  | [a] => congrArg (fun x => [x]) (first_byte a 0)
  | [a, b] => congr (congrArg (fun x y => [x, y]) (first_byte a b)) (second_byte a b 0)
  | a :: b :: c :: rest => by
      rw [sextets, pack, first_byte, second_byte, third_byte, pack_sextets rest]

/-! ### The standard text -/

theorem encodeChars_eq : (bs : Bytes) →
    encodeChars bs = (sextets bs).map digit ++ List.replicate (padCount bs) '='
  | [] | [_] | [_, _] => rfl
  | _ :: _ :: _ :: rest => by
      rw [encodeChars, sextets, padCount, encodeChars_eq rest]
      rfl

theorem mem_alphabet_of_mem_digits {bs : Bytes} {c : Char} (h : c ∈ (sextets bs).map digit) :
    c ∈ alphabet := by
  obtain ⟨d, hd, rfl⟩ := List.mem_map.mp h
  exact digit_mem_alphabet_of_lt d (lt_of_mem_sextets bs hd)

theorem ne_pad_of_mem_digits {bs : Bytes} {c : Char} (h : c ∈ (sextets bs).map digit) :
    c ≠ '=' :=
  ne_pad_of_mem_alphabet c (mem_alphabet_of_mem_digits h)

/-- The padding signs at the end of the standard text. -/
theorem rtakeWhile_encodeChars (bs : Bytes) :
    (encodeChars bs).rtakeWhile (· == '=') = List.replicate (padCount bs) '=' := by
  have hdigits : ((sextets bs).map digit).reverse.takeWhile (· == '=') = [] := by
    cases hcs : ((sextets bs).map digit).reverse with
    | nil => rfl
    | cons c cs =>
      have hc : c ≠ '=' := ne_pad_of_mem_digits (List.mem_reverse.mp (hcs ▸ List.mem_cons_self))
      simp [hc]
  rw [encodeChars_eq, List.rtakeWhile, List.reverse_append, List.reverse_replicate,
    List.takeWhile_append_of_pos (by simp), hdigits, List.append_nil, List.reverse_replicate]

/-- The standard text without some of its padding. -/
theorem rdrop_encodeChars {bs : Bytes} {n : Nat} (h : n ≤ padCount bs) :
    (encodeChars bs).rdrop n =
      (sextets bs).map digit ++ List.replicate (padCount bs - n) '=' := by
  rw [encodeChars_eq, List.rdrop_append_of_le_length n (by rwa [List.length_replicate]),
    List.rdrop, List.length_replicate, List.take_replicate, Nat.min_eq_left (Nat.sub_le _ _)]

/-! ### Reading -/

/-- The digits in front of the padding. -/
theorem takeWhile_append_replicate {body : List Char} (n : Nat) (h : ∀ c ∈ body, c ≠ '=') :
    (body ++ List.replicate n '=').takeWhile (· != '=') = body := by
  have hbody : ∀ c ∈ body, (c != '=') = true := fun c hc => bne_iff_ne.mpr (h c hc)
  rw [List.takeWhile_append_of_pos hbody, List.takeWhile_replicate, if_neg (by decide),
    List.append_nil]

/-- The padding behind the digits. -/
theorem dropWhile_append_replicate {body : List Char} (n : Nat) (h : ∀ c ∈ body, c ≠ '=') :
    (body ++ List.replicate n '=').dropWhile (· != '=') = List.replicate n '=' := by
  have hbody : ∀ c ∈ body, (c != '=') = true := fun c hc => bne_iff_ne.mpr (h c hc)
  rw [List.dropWhile_append_of_pos hbody, List.dropWhile_replicate, if_neg (by decide)]

/-- How digits and padding are read. -/
theorem decodeChars?_append_replicate {body : List Char} (n : Nat) (h : ∀ c ∈ body, c ≠ '=') :
    decodeChars? (body ++ List.replicate n '=') =
      if takesPadding body.length n then (body.mapM digitValue?).map pack else none := by
  have hall : (List.replicate n '=').all (· == '=') = true := by simp
  simp only [decodeChars?, takeWhile_append_replicate n h, dropWhile_append_replicate n h, hall,
    List.length_replicate, Bool.true_and]

/-! ### Completion -/

/-- Completing digits and padding adds to the padding. -/
theorem complete_append_replicate (body : List Char) (n : Nat) :
    complete (body ++ List.replicate n '=') =
      body ++ List.replicate (n + lacking (body.length + n)) '=' := by
  rw [complete, List.append_assoc, ← List.replicate_add, List.length_append, List.length_replicate]

/-- Once it is completed, padding is accepted up to what the last group lacks, and behind complete
groups without an end. -/
theorem takesPadding_completed_iff {count pads : Nat} :
    takesPadding count (pads + lacking (count + pads)) = true ↔
      count % 4 = 0 ∧ (pads = 0 ∨ count ≠ 0) ∨ count % 4 = 2 ∧ pads ≤ 2 ∨
        count % 4 = 3 ∧ pads ≤ 1 := by
  unfold takesPadding lacking
  split
  · rw [Bool.or_eq_true, beq_iff_eq, bne_iff_ne]
    omega
  · rw [beq_iff_eq]
    omega
  · rw [beq_iff_eq]
    omega
  next hzero htwo hthree =>
    refine iff_of_false Bool.false_ne_true ?_
    rintro (⟨h, -⟩ | ⟨h, -⟩ | ⟨h, -⟩)
    exacts [hzero h, htwo h, hthree h]

/-- How digits and padding are read once they are completed. -/
theorem decodeChars?_complete_append_replicate {body : List Char} (n : Nat)
    (h : ∀ c ∈ body, c ≠ '=') :
    decodeChars? (complete (body ++ List.replicate n '=')) =
      if takesPadding body.length (n + lacking (body.length + n)) then
        (body.mapM digitValue?).map pack
      else none := by
  rw [complete_append_replicate, decodeChars?_append_replicate _ h]

/-! ### The standard text, read back -/

/-- The padding fills up the last group of digits. -/
theorem padCount_cases : (bs : Bytes) →
    padCount bs = 0 ∧ (sextets bs).length % 4 = 0 ∨
      padCount bs = 2 ∧ (sextets bs).length % 4 = 2 ∨
      padCount bs = 1 ∧ (sextets bs).length % 4 = 3
  | [] => .inl ⟨rfl, rfl⟩
  | [_] => .inr (.inl ⟨rfl, rfl⟩)
  | [_, _] => .inr (.inr ⟨rfl, rfl⟩)
  | a :: b :: c :: rest => by
      have hlen : (sextets (a :: b :: c :: rest)).length = (sextets rest).length + 4 := rfl
      rw [padCount, hlen, Nat.add_mod_right]
      exact padCount_cases rest

/-- The padding of the last group may be missing, whole or in part. -/
theorem takesPadding_sextets {bs : Bytes} {n : Nat} (h : n ≤ padCount bs) :
    takesPadding (sextets bs).length (n + lacking ((sextets bs).length + n)) = true := by
  rw [takesPadding_completed_iff]
  have hcases := padCount_cases bs
  omega

/-- The standard text of a byte string stands for it, and so does what is left when some or all of
its padding is dropped, once that is completed. -/
theorem decodeChars?_complete_rdrop {bs : Bytes} {n : Nat} (h : n ≤ padCount bs) :
    decodeChars? (complete ((encodeChars bs).rdrop n)) = some bs := by
  have htakes := takesPadding_sextets (Nat.sub_le (padCount bs) n)
  rw [rdrop_encodeChars h, decodeChars?_complete_append_replicate _ fun _ => ne_pad_of_mem_digits,
    List.length_map, if_pos htakes,
    mapM_map_eq_some _ fun d hd => digitValue?_digit_of_lt d (lt_of_mem_sextets bs hd),
    Option.map_some, pack_sextets]

end Base64

end MessageGateway

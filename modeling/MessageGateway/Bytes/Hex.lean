import MessageGateway.Bytes.Basic

/-!
# Hexadecimal text

A byte is written as two digits, in lower case (`Hex.encode`). Text is read in either case, and
blanks may stand between two bytes but not inside one (`Hex.decode?`).

## Main definitions

* `MessageGateway.Hex.encode`, `MessageGateway.Hex.decode?`.

## Main results

* `MessageGateway.Hex.decode?_encode` — what was written is read back.
-/

namespace MessageGateway

namespace Hex

/-- The digit of a number below sixteen. -/
def digit (n : Nat) : Char :=
  if n < 10 then Char.ofNat (48 + n) else Char.ofNat (87 + n)

/-- The number that a digit stands for, in either case. -/
def digitValue? (c : Char) : Option Nat :=
  if '0' ≤ c ∧ c ≤ '9' then some (c.toNat - 48)
  else if 'a' ≤ c ∧ c ≤ 'f' then some (c.toNat - 87)
  else if 'A' ≤ c ∧ c ≤ 'F' then some (c.toNat - 55)
  else none

/-- The blanks allowed between two bytes: space, tab, line feed, vertical tab, form feed and
carriage return. -/
def isBlank (c : Char) : Bool :=
  c = ' ' || ('\t' ≤ c && c ≤ '\r')

/-- The two digits of a byte. -/
def byteDigits (b : UInt8) : List Char :=
  [digit (b.toNat / 16), digit (b.toNat % 16)]

/-- The digits of a byte string. -/
def digits (bs : Bytes) : List Char :=
  bs.flatMap byteDigits

/-- A byte string as lower-case hexadecimal text. -/
def encode (bs : Bytes) : String :=
  String.ofList (digits bs)

/-- Reads bytes of two digits each, skipping blanks before, between and after them. -/
def ofDigits? : List Char → Option Bytes
  | [] => some []
  | [c] => if isBlank c then some [] else none
  | c :: d :: rest =>
    if isBlank c then ofDigits? (d :: rest)
    else
      match digitValue? c, digitValue? d with
      | some hi, some lo => (ofDigits? rest).map (UInt8.ofNat (16 * hi + lo) :: ·)
      | _, _ => none

/-- The byte string that a hexadecimal text stands for. -/
def decode? (text : String) : Option Bytes :=
  ofDigits? text.toList

/-! ### Reading what was written -/

theorem digitValue?_digit : ∀ n < 16, digitValue? (digit n) = some n := by
  decide

private theorem isBlank_digit : ∀ n < 16, isBlank (digit n) = false := by
  decide

/-- The digits of a byte string are read back. -/
theorem ofDigits?_digits (bs : Bytes) : ofDigits? (digits bs) = some bs := by
  induction bs with
  | nil => rfl
  | cons b bs ih =>
    have hb : b.toNat < 256 := b.toNat_lt
    have hhi : b.toNat / 16 < 16 := by omega
    have hlo : b.toNat % 16 < 16 := by omega
    have hsum : 16 * (b.toNat / 16) + b.toNat % 16 = b.toNat := by omega
    have hcons : digits (b :: bs) = digit (b.toNat / 16) :: digit (b.toNat % 16) :: digits bs :=
      rfl
    rw [hcons, ofDigits?, isBlank_digit _ hhi, digitValue?_digit _ hhi, digitValue?_digit _ hlo]
    simp [ih, hsum]

/-- The text of a byte string stands for it. -/
theorem decode?_encode (bs : Bytes) : decode? (encode bs) = some bs := by
  rw [decode?, encode, String.toList_ofList, ofDigits?_digits]

/-- A byte takes two digits. -/
theorem length_digits (bs : Bytes) : (digits bs).length = 2 * bs.length := by
  induction bs with
  | nil => rfl
  | cons b bs ih =>
    have hcons : digits (b :: bs) = byteDigits b ++ digits bs := rfl
    rw [hcons, List.length_append, ih, List.length_cons]
    simp [byteDigits]
    omega

theorem encode_append (bs cs : Bytes) : encode (bs ++ cs) = encode bs ++ encode cs := by
  rw [encode, digits, List.flatMap_append, String.ofList_append]
  rfl

/-- The first digits are those of the first bytes. -/
theorem take_digits (bs : Bytes) (n : Nat) : (digits bs).take (2 * n) = digits (bs.take n) := by
  induction bs generalizing n with
  | nil => simp [digits]
  | cons b bs ih =>
    cases n with
    | zero => rfl
    | succ n =>
      have hcons (cs : Bytes) : digits (b :: cs) =
          digit (b.toNat / 16) :: digit (b.toNat % 16) :: digits cs := rfl
      rw [List.take_succ_cons, hcons, hcons, Nat.mul_succ, List.take_succ_cons,
        List.take_succ_cons, ih]

private theorem isLower_digit : ∀ n < 16,
    '0' ≤ digit n ∧ digit n ≤ '9' ∨ 'a' ≤ digit n ∧ digit n ≤ 'f' := by
  decide

/-- Digits are figures and small letters. -/
theorem isLower_of_mem_digits {bs : Bytes} {c : Char} (h : c ∈ digits bs) :
    '0' ≤ c ∧ c ≤ '9' ∨ 'a' ≤ c ∧ c ≤ 'f' := by
  obtain ⟨b, -, hc⟩ := List.mem_flatMap.mp h
  have hb : b.toNat < 256 := b.toNat_lt
  have hhi : b.toNat / 16 < 16 := by omega
  have hlo : b.toNat % 16 < 16 := by omega
  simp only [byteDigits, List.mem_cons, List.not_mem_nil, or_false] at hc
  rcases hc with rfl | rfl
  · exact isLower_digit _ hhi
  · exact isLower_digit _ hlo

end Hex

end MessageGateway

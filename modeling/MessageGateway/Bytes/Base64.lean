import MessageGateway.Bytes.Basic

/-!
# Base-64 text

Base 64 writes three bytes as four digits of six bits; a last group of one or two bytes takes two
or three digits and is padded with `=` to four (`Base64.encode`).

Reading (`Base64.decodeChars?`) is strict: the digits are those of the alphabet, and behind them is
nothing but the padding of the last group. Only behind complete groups, which need none, padding is
passed over. Bits that a last group holds beyond its bytes are dropped. A text whose padding may have
got lost is completed before it is read (`Base64.complete`), by as many signs as fill the whole text
up to groups of four.

## Main definitions

* `MessageGateway.Base64.encode`.
* `MessageGateway.Base64.decodeChars?`, `MessageGateway.Base64.complete`.
-/

namespace MessageGateway

namespace Base64

/-- The sixty-four digits, in order of their values. -/
def alphabet : List Char :=
  "ABCDEFGHIJKLMNOPQRSTUVWXYZabcdefghijklmnopqrstuvwxyz0123456789+/".toList

/-- The digit of a number below sixty-four. -/
def digit (n : Nat) : Char :=
  alphabet.getD n 'A'

/-- The number that a digit stands for. -/
def digitValue? (c : Char) : Option Nat :=
  if 'A' ≤ c ∧ c ≤ 'Z' then some (c.toNat - 65)
  else if 'a' ≤ c ∧ c ≤ 'z' then some (c.toNat - 71)
  else if '0' ≤ c ∧ c ≤ '9' then some (c.toNat + 4)
  else if c = '+' then some 62
  else if c = '/' then some 63
  else none

/-- The standard text of a byte string, fully padded. -/
def encodeChars : Bytes → List Char
  | [] => []
  | [a] => [digit (a.toNat / 4), digit (a.toNat % 4 * 16), '=', '=']
  | [a, b] =>
    [digit (a.toNat / 4), digit (a.toNat % 4 * 16 + b.toNat / 16), digit (b.toNat % 16 * 4), '=']
  | a :: b :: c :: rest =>
    digit (a.toNat / 4) :: digit (a.toNat % 4 * 16 + b.toNat / 16) ::
      digit (b.toNat % 16 * 4 + c.toNat / 64) :: digit (c.toNat % 64) :: encodeChars rest

/-- The standard text of a byte string, fully padded. -/
def encode (bs : Bytes) : String :=
  String.ofList (encodeChars bs)

/-- The bytes that fill up with the given six-bit values, in order. -/
def pack : List Nat → Bytes
  | a :: b :: c :: d :: rest =>
    UInt8.ofNat (a * 4 + b / 16) :: UInt8.ofNat (b % 16 * 16 + c / 4) ::
      UInt8.ofNat (c % 4 * 64 + d) :: pack rest
  | [a, b, c] => [UInt8.ofNat (a * 4 + b / 16), UInt8.ofNat (b % 16 * 16 + c / 4)]
  | [a, b] => [UInt8.ofNat (a * 4 + b / 16)]
  | _ => []

/-- Whether `count` digits may be followed by `pads` padding signs: a last group of two or three
digits is filled up to four, and one of a single digit holds no byte. Behind complete groups any
number is passed over, but padding alone is no text. -/
def takesPadding (count pads : Nat) : Bool :=
  match count % 4 with
  | 0 => pads == 0 || count != 0
  | 2 => pads == 2
  | 3 => pads == 1
  | _ => false

/-- The byte string of a text without blanks: digits, then padding signs only. -/
def decodeChars? (text : List Char) : Option Bytes :=
  let body := text.takeWhile (· != '=')
  let padding := text.dropWhile (· != '=')
  if padding.all (· == '=') && takesPadding body.length padding.length then
    (body.mapM digitValue?).map pack
  else none

/-- How many characters a text of the given length lacks to be made of groups of four. -/
def lacking (length : Nat) : Nat :=
  (4 - length % 4) % 4

/-- A text, filled up with padding signs to groups of four. -/
def complete (text : List Char) : List Char :=
  text ++ List.replicate (lacking text.length) '='

/-! ### Examples -/

example : encode [0x4d, 0x61] = "TWE=" := by decide +kernel

example : decodeChars? "TWE=".toList = some [0x4d, 0x61] ∧ decodeChars? "TWE".toList = none ∧
    decodeChars? "TWFuT===".toList = none ∧ decodeChars? "TW=E".toList = none := by
  decide +kernel

example : complete "TWE".toList = "TWE=".toList ∧ complete "TWFu=".toList = "TWFu====".toList := by
  decide +kernel

end Base64

end MessageGateway

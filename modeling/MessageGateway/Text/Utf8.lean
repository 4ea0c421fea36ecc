import MessageGateway.Bytes.Basic

/-!
# UTF-8

A text as bytes in UTF-8 (`Utf8.encode`), and bytes as text (`Utf8.decode`). Reading never fails:
where the bytes are no text, the longest stretch that could have begun a character, or a single
byte that could not, becomes one replacement character `U+FFFD`, and reading goes on behind it.

The reader goes through the bytes one by one. Between two characters it waits for a first byte;
within a character it knows the bits so far, the range in which the next byte has to lie, and how
many bytes are to follow that one.

## Main definitions

* `MessageGateway.Utf8.encode`, `MessageGateway.Utf8.decode`.
* `MessageGateway.Utf8.State`, `MessageGateway.Utf8.step`.
-/

namespace MessageGateway

namespace Utf8

/-- The bytes of a text. -/
def encode (s : String) : Bytes :=
  s.toList.flatMap String.utf8EncodeChar

/-- Where the reader stands between two bytes. -/
inductive State where
  /-- Between two characters. -/
  | between
  /-- Within a character: its bits so far, the least and the greatest byte that may come next, and
  how many bytes follow that one. -/
  | within (bits low high more : Nat)

/-- The character that takes the place of bytes that are no text. -/
def replacement : Char := '\ufffd'

/-- What a first byte gives: a character of its own, the start of one, or a replacement. The ranges
of the second byte leave out overlong forms, surrogates and numbers above the last character. -/
def first (b : UInt8) : List Char × State :=
  let n := b.toNat
  if n < 0x80 then ([Char.ofNat n], .between)
  else if n < 0xc2 then ([replacement], .between)
  else if n < 0xe0 then ([], .within (n - 0xc0) 0x80 0xbf 0)
  else if n = 0xe0 then ([], .within 0 0xa0 0xbf 1)
  else if n = 0xed then ([], .within 0xd 0x80 0x9f 1)
  else if n < 0xf0 then ([], .within (n - 0xe0) 0x80 0xbf 1)
  else if n = 0xf0 then ([], .within 0 0x90 0xbf 2)
  else if n < 0xf4 then ([], .within (n - 0xf0) 0x80 0xbf 2)
  else if n = 0xf4 then ([], .within 4 0x80 0x8f 2)
  else ([replacement], .between)

/-- The characters that a byte completes, and the state after it. -/
def step : State → UInt8 → List Char × State
  | .between, b => first b
  | .within bits low high more, b =>
    if low ≤ b.toNat ∧ b.toNat ≤ high then
      let bits := 64 * bits + b.toNat % 64
      match more with
      | 0 => ([Char.ofNat bits], .between)
      | more + 1 => ([], .within bits 0x80 0xbf more)
    else
      let (cs, s) := first b
      (replacement :: cs, s)

/-- The characters of the bytes from a state on; an unfinished one is replaced at the end. -/
def decodeFrom : State → Bytes → List Char
  | .between, [] => []
  | .within .., [] => [replacement]
  | s, b :: bs =>
    let (cs, s) := step s b
    cs ++ decodeFrom s bs

/-- The text of a byte string. -/
def decode (bs : Bytes) : String :=
  String.ofList (decodeFrom .between bs)

/-! ### Examples -/

example : decode [0x41, 0xe2, 0x82, 0xac] = "A€" := by decide +kernel

example : decode [0xe2, 0x82, 0x41, 0xc0, 0x80] = "\ufffdA\ufffd\ufffd" := by decide +kernel

end Utf8

end MessageGateway

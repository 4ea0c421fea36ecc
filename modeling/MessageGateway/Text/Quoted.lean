import MessageGateway.Bytes.Hex
import MessageGateway.Text.Printable

/-!
# Quoted text

A text or byte string as a message shows it. It stands in single quotes, or in double quotes when
it holds a single quote and no double one. The quote in use and the backslash are escaped by a
backslash, line feed, carriage return and tab have letters of their own, and what cannot be printed
is shown by its number in hexadecimal.

## Main definitions

* `MessageGateway.Quoted.text`, `MessageGateway.Quoted.bytes`.
-/

namespace MessageGateway

namespace Quoted

/-- The quote for the given characters. -/
def quoteFor (cs : List Char) : Char :=
  if cs.contains '\'' && !cs.contains '"' then '"' else '\''

/-- The last `width` hexadecimal digits of a number. -/
def hexDigits (width n : Nat) : List Char :=
  (List.range width).reverse.map fun i => Hex.digit (n / 16 ^ i % 16)

/-- The number of a character after a backslash, in two, four or eight digits. -/
def numbered (n : Nat) : List Char :=
  if n < 0x100 then '\\' :: 'x' :: hexDigits 2 n
  else if n < 0x10000 then '\\' :: 'u' :: hexDigits 4 n
  else '\\' :: 'U' :: hexDigits 8 n

/-- One character as it stands between the quotes. -/
def escape (printable : Char → Bool) (quote c : Char) : List Char :=
  if c = quote ∨ c = '\\' then ['\\', c]
  else if c = '\n' then ['\\', 'n']
  else if c = '\r' then ['\\', 'r']
  else if c = '\t' then ['\\', 't']
  else if printable c then [c]
  else numbered c.toNat

/-- Characters between quotes. -/
def quoted (printable : Char → Bool) (cs : List Char) : List Char :=
  let quote := quoteFor cs
  quote :: cs.flatMap (escape printable quote) ++ [quote]

/-- A text between quotes. -/
def text (s : String) : String :=
  String.ofList (quoted isPrintable s.toList)

/-- Whether a byte stands for a printable character of its own. -/
def isPrintableAscii (c : Char) : Bool :=
  ' ' ≤ c && c ≤ '~'

/-- A byte string between quotes and marked by a `b`; a byte is shown as the character of its
number where that is printable, and by its number otherwise. -/
def bytes (bs : Bytes) : String :=
  String.ofList ('b' :: quoted isPrintableAscii (bs.map fun b => Char.ofNat b.toNat))

/-! ### Examples -/

example : text "it's" = "\x22it's\x22" := by decide +kernel

example : text "a\\b\u00e9\u0085" = "'a\\\\b\u00e9\\x85'" := by decide +kernel

example : bytes [0x41, 0x00, 0xe9] = "b'A\\x00\\xe9'" := by decide +kernel

end Quoted

end MessageGateway

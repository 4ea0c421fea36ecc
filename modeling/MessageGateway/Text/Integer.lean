import MessageGateway.Text.Blank
import MessageGateway.Text.DecimalDigit

/-!
# Integers as text

An integer is written in decimal digits, after a minus sign where it is negative. It is read more
freely (`Integer.parse?`): spaces around it, a plus sign, leading zeros, the digits of every script,
and a single low line between two digits are accepted. Information separators do not count as spaces
here.

No more than `Integer.maxDigits` digits are written or read, so only the integers that have no more
of them (`Integer.Writable`) have a text. The numbers in messages take sixteen bytes at most, and all
of these can be written (`Integer.natAbs_lt_of_width`).

## Main definitions

* `MessageGateway.Integer.Writable`.
* `MessageGateway.Integer.render`, `MessageGateway.Integer.render?`.
* `MessageGateway.Integer.parse?`.
-/

namespace MessageGateway

namespace Integer

/-- The largest number of digits that are written, and that are read, leading zeros included. -/
def maxDigits : Nat := 4300

/-- An integer with no more digits than are written. -/
abbrev Writable := {n : Int // n.natAbs < 10 ^ maxDigits}

/-- The decimal text of an integer. -/
def render (n : Writable) : String :=
  toString n.val

/-- An integer as text, unless it has too many digits to be written. -/
def render? (n : Int) : Option String :=
  if h : n.natAbs < 10 ^ maxDigits then some (render ⟨n, h⟩) else none

theorem render?_of_lt {n : Int} (h : n.natAbs < 10 ^ maxDigits) :
    render? n = some (render ⟨n, h⟩) :=
  dif_pos h

theorem render?_of_le {n : Int} (h : 10 ^ maxDigits ≤ n.natAbs) : render? n = none :=
  dif_neg (Nat.not_lt_of_le h)

-- The bound is a number of thousands of digits, which nothing should compute to decide a case.
attribute [irreducible] render?

/-- A number of at most sixteen bytes can be written. -/
theorem natAbs_lt_of_width {width n : Nat} (hwidth : width ≤ 16) (h : n < 256 ^ width) :
    (n : Int).natAbs < 10 ^ maxDigits :=
  calc n < 256 ^ width := h
    _ ≤ 256 ^ 16 := Nat.pow_le_pow_right (by decide) hwidth
    _ ≤ 10 ^ 39 := by decide
    _ ≤ 10 ^ maxDigits := Nat.pow_le_pow_right (by decide) (by decide)

/-- A number of at most sixteen bytes. -/
def Writable.ofWidth {width : Nat} (n : Nat) (hwidth : width ≤ 16) (h : n < 256 ^ width) : Writable :=
  ⟨n, natAbs_lt_of_width hwidth h⟩

/-- The values of digits, at least one, between any two of which a low line may stand. -/
def digitValues? : List Char → Option (List Nat)
  | [] => none
  | [c] => (DecimalDigit.value? c).map fun v => [v]
  | c :: d :: rest =>
    match DecimalDigit.value? c with
    | none => none
    | some v => (if d = '_' then digitValues? rest else digitValues? (d :: rest)).map (v :: ·)

/-- The number with the given digits, most significant first. -/
def ofDigits (values : List Nat) : Nat :=
  values.foldl (fun n v => 10 * n + v) 0

/-- The number of an unsigned text. -/
def magnitude? (cs : List Char) : Option Nat :=
  match digitValues? cs with
  | none => none
  | some values => if values.length ≤ maxDigits then some (ofDigits values) else none

/-- The number of a text without spaces around it. -/
def parseSigned? : List Char → Option Int
  | '-' :: cs => (magnitude? cs).map fun n => -(n : Int)
  | '+' :: cs => (magnitude? cs).map fun n => (n : Int)
  | cs => (magnitude? cs).map fun n => (n : Int)

/-- The integer that a text stands for. -/
def parse? (text : String) : Option Int :=
  parseSigned? (stripWhile isSpace text.toList)

/-! ### Examples -/

example : parse? "\t+1_0\u00a0" = some 10 := by decide +kernel

example : parse? "1__0" = none ∧ parse? "\x1c1" = none ∧ parse? "" = none := by decide +kernel

end Integer

end MessageGateway

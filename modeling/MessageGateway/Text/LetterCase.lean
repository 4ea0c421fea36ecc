import MessageGateway.Text.LetterCase.Table

/-!
# Capital and small letters

Texts in capital letters (`LetterCase.upper`) and in small letters (`LetterCase.lower`), for the
letters of every script. A letter may become several. The only letter whose small form depends on
its neighbours is the capital sigma, which takes its final form at the end of a word.

## Main definitions

* `MessageGateway.LetterCase.upper`, `MessageGateway.LetterCase.lower`.
-/

namespace MessageGateway

namespace LetterCase

/-- The partner of a code point in a list of runs, itself where it has none. -/
def partner (runs : List CaseRun) (code : Nat) : Nat :=
  (runs.findSome? fun r => r.partner? code).getD code

/-- The capital form of a character. -/
def upperChar (c : Char) : List Char :=
  match capitalExpansions.lookup c.toNat with
  | some codes => codes.map Char.ofNat
  | none => [Char.ofNat (partner capitalRuns c.toNat)]

/-- A text in capital letters. -/
def upper (s : String) : String :=
  String.ofList (s.toList.flatMap upperChar)

/-- Whether the first character that counts is a letter with a case. -/
def meetsCased (cs : List Char) : Bool :=
  match cs.dropWhile (CharRange.covers caseIgnorableRanges) with
  | [] => false
  | c :: _ => CharRange.covers casedRanges c

/-- The small form of a character between the characters `before`, nearest first, and `after`. -/
def lowerChar (before : List Char) (c : Char) (after : List Char) : List Char :=
  if c = 'Σ' then
    if meetsCased before && !meetsCased after then ['ς'] else ['σ']
  else if c = 'İ' then ['i', '\u0307']
  else [Char.ofNat (partner smallRuns c.toNat)]

/-- The small forms of characters that follow the characters `before`, nearest first. -/
def lowerFrom (before : List Char) : List Char → List Char
  | [] => []
  | c :: after => lowerChar before c after ++ lowerFrom (c :: before) after

/-- A text in small letters. -/
def lower (s : String) : String :=
  String.ofList (lowerFrom [] s.toList)

/-! ### Examples -/

example : upper "straße" = "STRASSE" := by decide +kernel

example : lower "ΣΑΣ Σ" = "σας σ" := by decide +kernel

end LetterCase

end MessageGateway

/-!
# Blanks

A *blank* is a character that separates words and has no mark of its own: the controls from tab to
carriage return, the four information separators, the space, and the spaces and line breaks of
other scripts. Stripping (`strip`) takes all blanks off both ends of a text.

## Main definitions

* `MessageGateway.isBlank`, `MessageGateway.strip`, `MessageGateway.stripWhile`.
-/

namespace MessageGateway

/-- The four information separators, from file to unit. -/
def isInformationSeparator (c : Char) : Bool :=
  '\x1c' ≤ c && c ≤ '\x1f'

/-- The blanks that are not information separators. -/
def isSpace (c : Char) : Bool :=
  ('\t' ≤ c && c ≤ '\r') || c == ' ' || c == '\u0085' || c == '\u00a0' || c == '\u1680' ||
    ('\u2000' ≤ c && c ≤ '\u200a') || c == '\u2028' || c == '\u2029' || c == '\u202f' ||
    c == '\u205f' || c == '\u3000'

/-- The blanks. -/
def isBlank (c : Char) : Bool :=
  isSpace c || isInformationSeparator c

/-- The characters between the first and the last one without the property. -/
def stripWhile (p : Char → Bool) (cs : List Char) : List Char :=
  ((cs.dropWhile p).reverse.dropWhile p).reverse

/-- The characters between the first and the last one that is no blank. -/
def strip (cs : List Char) : List Char :=
  stripWhile isBlank cs

end MessageGateway

/-!
# Ranges of characters

Classes of characters are given as lists of ranges of code points, both ends included.

## Main definitions

* `MessageGateway.CharRange`, `MessageGateway.CharRange.covers`.
-/

namespace MessageGateway

/-- The code points from `first` to `last`. -/
structure CharRange where
  first : Nat
  last : Nat

/-- Whether a character lies in one of the ranges. -/
def CharRange.covers (ranges : List CharRange) (c : Char) : Bool :=
  ranges.any fun r => r.first ≤ c.toNat && c.toNat ≤ r.last

end MessageGateway

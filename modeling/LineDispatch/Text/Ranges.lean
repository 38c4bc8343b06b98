import LineDispatch.Text

/-!
# Ranges of code points

A class of characters is given by the ranges of code points that it is made
of, in increasing order.
-/

namespace LineDispatch

/-- A class of characters: the first and the last code point of each of its ranges. -/
abbrev CodeRanges := List (Nat × Nat)

namespace CodeRanges

/-- Whether a character is in one of the ranges. -/
def holds (ranges : CodeRanges) (c : Char) : Bool :=
  ranges.any fun (first, last) => first ≤ c.toNat && c.toNat ≤ last

end CodeRanges

end LineDispatch

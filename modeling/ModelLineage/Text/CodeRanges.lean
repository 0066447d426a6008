/-!
# Ranges of code points

A class of characters is given by the ranges of its code points.
-/

namespace ModelLineage

/-- Code points as ascending ranges, each with both of its ends. -/
abbrev CodeRanges := List (Nat × Nat)

namespace CodeRanges

/-- Whether the code point of a character is in one of the ranges. -/
def contains (ranges : CodeRanges) (char : Char) : Bool :=
  ranges.any fun range => range.1 ≤ char.toNat && char.toNat ≤ range.2

end CodeRanges

end ModelLineage

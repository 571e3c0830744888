/-!
# Ranges of characters

A property of characters is given by a list of ranges of code points, first and last;
`inRanges` tells whether a character has it.
-/

namespace RowFilter

/-- Whether one of some ranges holds a character. -/
def inRanges (ranges : List (Nat × Nat)) (c : Char) : Bool :=
  ranges.any fun range => range.1 ≤ c.toNat && c.toNat ≤ range.2

end RowFilter

/-!
# Classes of code points as intervals

A character class of the Unicode standard is given as a list of closed intervals of code points.
-/

namespace ValidityTables.Text

def inRanges (ranges : List (Nat × Nat)) (point : Nat) : Bool :=
  ranges.any fun range => range.1 ≤ point && point ≤ range.2

end ValidityTables.Text

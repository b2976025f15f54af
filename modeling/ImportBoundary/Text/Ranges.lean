/-!
Contract: sets of code points, written as lists of ranges.

Owns `inRanges`. Both ends of a range belong to it.
-/

namespace ImportBoundary.Text

def inRanges (ranges : List (Nat × Nat)) (codePoint : Nat) : Bool :=
  ranges.any fun range => range.1 ≤ codePoint && codePoint ≤ range.2

end ImportBoundary.Text

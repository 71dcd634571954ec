/-!
# Ranges of code points

Character properties are given as lists of closed ranges of code points.
-/

namespace MessageBoard
namespace Text

def inRanges (ranges : List (Nat × Nat)) (n : Nat) : Bool :=
  ranges.any fun range => range.1 ≤ n && n ≤ range.2

end Text
end MessageBoard

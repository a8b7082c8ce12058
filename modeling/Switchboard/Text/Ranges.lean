/-!
# Ranges of characters

Classes of characters that are given as ranges of code points.
-/

namespace Switchboard
namespace Text

/-- Whether a code point lies in one of the ranges. -/
def inRanges (ranges : List (Nat × Nat)) (point : Nat) : Bool :=
  ranges.any fun range => range.1 ≤ point && point ≤ range.2

end Text
end Switchboard

/-!
# Ranges of code points

Character properties are kept as ascending lists of closed ranges, in which code points are looked
up.
-/

namespace Orchestration.Text

/-- Closed ranges of code points, ascending and apart. -/
abbrev Ranges := List (Nat × Nat)

/-- The code point lies in one of the ranges. -/
def Ranges.contains (ranges : Ranges) (code : Nat) : Bool :=
  ranges.any fun range => range.1 ≤ code && code ≤ range.2

/-- The range that holds the code point, if there is one. -/
def Ranges.find? (ranges : Ranges) (code : Nat) : Option (Nat × Nat) :=
  List.find? (fun range => range.1 ≤ code && code ≤ range.2) ranges

end Orchestration.Text

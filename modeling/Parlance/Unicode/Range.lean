/-!
Sets of code points given by ascending ranges, the form in which the character database
publishes its properties.
-/

namespace Parlance.Unicode

/-- Code points from the first to the last of a pair, both included. -/
abbrev Range := Nat × Nat

def Range.holds (range : Range) (code : Nat) : Bool :=
  range.1 ≤ code && code ≤ range.2

def inRanges (ranges : List Range) (code : Nat) : Bool :=
  ranges.any fun range => range.holds code

end Parlance.Unicode

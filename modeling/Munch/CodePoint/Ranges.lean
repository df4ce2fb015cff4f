/-! # Sets of code points as sorted ranges

A property of characters is kept as the closed ranges of code points that have it, in ascending
order and without overlap. Membership is a binary search, so a look-up in the largest table takes
ten comparisons. -/
set_option autoImplicit false

namespace Munch.CodePoint

/-- Closed ranges of code points, in ascending order and without overlap. -/
structure Ranges where
  spans : Array (Nat × Nat)

namespace Ranges

def containsWithin (ranges : Ranges) (point low high : Nat) : Bool :=
  if low < high then
    let middle := low + (high - low) / 2
    match ranges.spans[middle]? with
    | none => false
    | some (first, last) =>
      if point < first then ranges.containsWithin point low middle
      else if last < point then ranges.containsWithin point (middle + 1) high
      else true
  else false
termination_by high - low

def contains (ranges : Ranges) (point : Nat) : Bool :=
  ranges.containsWithin point 0 ranges.spans.size

end Ranges

end Munch.CodePoint

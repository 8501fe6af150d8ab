/-!
# Sets of code points

Properties of characters are given as sets of code points, each a list of ranges in ascending
order.

* `CodeRanges.contains` — membership.
-/

namespace PhaseSplit

/-- A set of code points: the first and the last of each range. -/
abbrev CodeRanges := List (Nat × Nat)

/-- Whether a code point is in one of the ranges. -/
def CodeRanges.contains (ranges : CodeRanges) (code : Nat) : Bool :=
  ranges.any fun r => r.1 ≤ code && code ≤ r.2

end PhaseSplit

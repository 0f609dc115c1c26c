/-!
# Ranges of characters

A property of characters is kept as the ranges of code points that have it, in ascending order, and
looked up by bisection.
-/

namespace TieredPool.Text

/-- Inclusive ranges of code points, in ascending order. -/
abbrev Ranges := Array (Nat × Nat)

namespace Ranges

/-- Is the number in one of the ranges numbered `low` up to `high`? -/
def search (ranges : Ranges) (n low high : Nat) : Bool :=
  if low < high then
    let middle := (low + high) / 2
    match ranges[middle]? with
    | none => false
    | some (first, last) =>
      if n < first then search ranges n low middle
      else if last < n then search ranges n (middle + 1) high
      else true
  else false
termination_by high - low

def has (ranges : Ranges) (c : Char) : Bool := ranges.search c.toNat 0 ranges.size

end Ranges

end TieredPool.Text

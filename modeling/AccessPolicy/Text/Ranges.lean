/-!
# Ranges of code points

A property of characters is given by the code points that have it, as a list of ranges.

## Main definitions

* `Text.inRanges` — whether a code point lies in one of some ranges.
-/
namespace AccessPolicy.Text

/-- Whether a code point lies in one of the ranges, ends included. -/
def inRanges (ranges : List (Nat × Nat)) (n : Nat) : Bool :=
  ranges.any fun r => r.1 ≤ n ∧ n ≤ r.2

end AccessPolicy.Text

import ClassVerification.Text.Basic

/-!
Ranges of code point numbers, as the tables of character properties list them.
-/

namespace ClassVerification

/-- Inclusive ranges, first number and last. -/
abbrev Ranges := List (Nat × Nat)

/-- Whether a number lies in one of the ranges. -/
def Ranges.has (ranges : Ranges) (n : Nat) : Bool :=
  ranges.any fun (first, last) => first ≤ n && n ≤ last

/-- Inclusive ranges with a step: of their numbers those count that are a multiple of the step away
from the first. -/
abbrev SteppedRanges := List (Nat × Nat × Nat)

def SteppedRanges.has (ranges : SteppedRanges) (n : Nat) : Bool :=
  ranges.any fun (first, last, step) => first ≤ n && n ≤ last && (n - first) % step = 0

end ClassVerification

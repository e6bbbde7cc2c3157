/-!
# Intervals of code points

Classes of characters are given by closed intervals of code points.
-/

namespace DocCheck

/-- Whether a code point lies in one of the closed intervals. -/
def inIntervals (intervals : List (Nat × Nat)) (point : Nat) : Bool :=
  intervals.any fun interval =>
    interval.1 ≤ point && point ≤ interval.2

theorem inIntervals_iff {intervals : List (Nat × Nat)} {point : Nat} :
    inIntervals intervals point = true ↔
      ∃ interval ∈ intervals,
        interval.1 ≤ point ∧ point ≤ interval.2 := by
  simp [inIntervals]

end DocCheck

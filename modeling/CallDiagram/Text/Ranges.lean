/-! # Sets of code points

Character classes are kept as lists of closed ranges of code points, in ascending order.
-/

namespace CallDiagram.Text

/-- A set of code points: closed ranges, first and last code point of each. -/
abbrev CodeRanges := List (Nat × Nat)

def CodeRanges.holds (ranges : CodeRanges) (code : Nat) : Bool :=
  ranges.any fun (first, last) => decide (first ≤ code) && decide (code ≤ last)

theorem CodeRanges.holds_iff {ranges : CodeRanges} {code : Nat} :
    ranges.holds code = true ↔ ∃ r ∈ ranges, r.1 ≤ code ∧ code ≤ r.2 := by
  simp [CodeRanges.holds, List.any_eq_true]

end CallDiagram.Text

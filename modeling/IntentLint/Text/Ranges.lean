import IntentLint.Text.CodePoint

/-!
# `Text.Ranges` — sets of code points given by ranges

The character classes of this library are tables of closed ranges of code point numbers.
-/

namespace IntentLint

/-- A set of code points, as closed ranges of their numbers. -/
abbrev Ranges := List (Nat × Nat)

/-- A code point lies in one of the ranges. -/
def Ranges.contains (ranges : Ranges) (c : CodePoint) : Bool :=
  ranges.any fun (first, last) => first ≤ c.val && c.val ≤ last

theorem Ranges.contains_iff {ranges : Ranges} {c : CodePoint} :
    ranges.contains c = true ↔ ∃ r ∈ ranges, r.1 ≤ c.val ∧ c.val ≤ r.2 := by
  simp [Ranges.contains]

end IntentLint

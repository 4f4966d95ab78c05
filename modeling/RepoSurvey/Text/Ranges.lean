/-!
# Code point ranges

A character property of a standard is a list of code point ranges in increasing order.
-/

namespace RepoSurvey.Text

/-- Inclusive code point ranges. -/
abbrev Ranges := List (Nat × Nat)

/-- Whether a code point lies in one of the ranges. -/
def Ranges.contains : Ranges -> Nat -> Bool
  | [], _ => false
  | (first, last) :: rest, code =>
    (first ≤ code && code ≤ last) || Ranges.contains rest code

/-- Membership is lying between the ends of some range. -/
theorem Ranges.contains_iff (ranges : Ranges) (code : Nat) :
    ranges.contains code = true ↔ ∃ range ∈ ranges, range.1 ≤ code ∧ code ≤ range.2 := by
  induction ranges with
  | nil => simp [contains]
  | cons range rest inductionHypothesis =>
    obtain ⟨first, last⟩ := range
    simp [contains, inductionHypothesis]

end RepoSurvey.Text

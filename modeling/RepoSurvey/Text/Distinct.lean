import Std.Data.HashMap
import Std.Data.HashSet

/-!
# Counting distinct texts

Distinct texts are counted by the set of those that were met, and texts that stand in a list again by the number of
times that each of them occurs.
-/

namespace RepoSurvey.Text

/-- Count the texts that were not met before. -/
def countNew (met : Std.HashSet String) : List String -> Nat
  | [] => 0
  | text :: texts =>
    if met.contains text then countNew met texts else countNew (met.insert text) texts + 1

/-- The number of distinct texts in a list. -/
def distinctCount (texts : List String) : Nat := countNew ∅ texts

/-- There are no more distinct texts than texts. -/
theorem countNew_le_length (met : Std.HashSet String) (texts : List String) :
    countNew met texts ≤ texts.length := by
  induction texts generalizing met with
  | nil => simp [countNew]
  | cons text texts inductionHypothesis =>
    unfold countNew
    split
    · exact Nat.le_succ_of_le (inductionHypothesis met)
    · simpa using inductionHypothesis (met.insert text)

/-- How often each text of a list occurs. -/
def occurrences (texts : List String) : Std.HashMap String Nat :=
  texts.foldl (fun counts text => counts.insert text (counts.getD text 0 + 1)) ∅

/-- The number of texts in a list that occur there before. -/
def repeats (texts : List String) : Nat :=
  (occurrences texts).fold (fun total _ count => if 1 < count then total + (count - 1) else total) 0

end RepoSurvey.Text

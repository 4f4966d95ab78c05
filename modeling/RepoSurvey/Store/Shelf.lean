/-!
# Shelves

A shelf keeps values under names. A value put under a name takes the place of the one that was there;
new names come last.
-/

namespace RepoSurvey.Store

/-- Values under names. -/
abbrev Shelf (α : Type) := List (String × α)

namespace Shelf

variable {α : Type}

/-- The value under a name. -/
def get? (name : String) : Shelf α -> Option α
  | [] => none
  | (other, value) :: rest => if other = name then some value else get? name rest

/-- Put a value under a name. -/
def put (name : String) (value : α) : Shelf α -> Shelf α
  | [] => [(name, value)]
  | (other, old) :: rest =>
    if other = name then (name, value) :: rest else (other, old) :: put name value rest

/-- Remove the value under a name. -/
def remove (name : String) (shelf : Shelf α) : Shelf α := shelf.filter fun entry => entry.1 != name

/-- A value just put is found. -/
@[simp] theorem get?_put_self (name : String) (value : α) (shelf : Shelf α) :
    (shelf.put name value).get? name = some value := by
  induction shelf with
  | nil => simp [put, get?]
  | cons entry rest inductionHypothesis =>
    obtain ⟨other, old⟩ := entry
    by_cases same : other = name <;> simp [put, get?, same, inductionHypothesis]

/-- Putting a value leaves the others alone. -/
theorem get?_put_of_ne {name other : String} (different : other ≠ name) (value : α)
    (shelf : Shelf α) : (shelf.put name value).get? other = shelf.get? other := by
  induction shelf with
  | nil => simp [put, get?, Ne.symm different]
  | cons entry rest inductionHypothesis =>
    obtain ⟨held, old⟩ := entry
    by_cases same : held = name
    · subst same
      simp [put, get?, Ne.symm different]
    · simp [put, get?, same, inductionHypothesis]

/-- A removed value is not found. -/
@[simp] theorem get?_remove_self (name : String) (shelf : Shelf α) :
    (shelf.remove name).get? name = none := by
  induction shelf with
  | nil => rfl
  | cons entry rest inductionHypothesis =>
    obtain ⟨other, old⟩ := entry
    by_cases same : other = name <;>
      simp_all [remove, get?]

/-- Removing a value leaves the others alone. -/
theorem get?_remove_of_ne {name other : String} (different : other ≠ name) (shelf : Shelf α) :
    (shelf.remove name).get? other = shelf.get? other := by
  induction shelf with
  | nil => rfl
  | cons entry rest inductionHypothesis =>
    obtain ⟨held, old⟩ := entry
    by_cases same : held = name
    · subst same
      simpa [remove, get?, Ne.symm different] using inductionHypothesis
    · by_cases found : held = other <;> simp_all [remove, get?]

end Shelf

end RepoSurvey.Store

import RepoSurvey.Number.Binary64

/-!
# JSON values

Integers are unbounded and are told apart from double-precision numbers, and the members of an object
keep the order in which their names first appeared.
-/

namespace RepoSurvey

open Number (Binary64)

/-- A JSON value. -/
inductive Json where
  | null
  | bool (value : Bool)
  | int (value : Int)
  | float (value : Binary64)
  | str (value : String)
  | arr (items : List Json)
  | obj (members : List (String × Json))
  deriving Inhabited, Repr

namespace Json

mutual

/-- Whether two values are the same value, member order included. -/
def same : Json -> Json -> Bool
  | .null, .null => true
  | .bool left, .bool right => left == right
  | .int left, .int right => left == right
  | .float left, .float right => left == right
  | .str left, .str right => left == right
  | .arr left, .arr right => sameItems left right
  | .obj left, .obj right => sameMembers left right
  | _, _ => false

/-- Whether two item lists are the same. -/
def sameItems : List Json -> List Json -> Bool
  | [], [] => true
  | left :: lefts, right :: rights => same left right && sameItems lefts rights
  | _, _ => false

/-- Whether two member lists are the same, in the same order. -/
def sameMembers : List (String × Json) -> List (String × Json) -> Bool
  | [], [] => true
  | (leftName, left) :: lefts, (rightName, right) :: rights =>
    leftName == rightName && same left right && sameMembers lefts rights
  | _, _ => false

end

mutual

/-- Values found the same are equal. -/
theorem eq_of_same : (left right : Json) -> same left right = true -> left = right
  | .null, right, found => by cases right <;> simp_all [same]
  | .bool _, right, found => by cases right <;> simp_all [same]
  | .int _, right, found => by cases right <;> simp_all [same]
  | .float _, right, found => by cases right <;> simp_all [same]
  | .str _, right, found => by cases right <;> simp_all [same]
  | .arr left, .arr right, found => by
    simp only [same] at found
    rw [eq_of_sameItems left right found]
  | .obj left, .obj right, found => by
    simp only [same] at found
    rw [eq_of_sameMembers left right found]
  | .arr _, .null, found | .arr _, .bool _, found | .arr _, .int _, found
  | .arr _, .float _, found | .arr _, .str _, found | .arr _, .obj _, found
  | .obj _, .null, found | .obj _, .bool _, found | .obj _, .int _, found
  | .obj _, .float _, found | .obj _, .str _, found | .obj _, .arr _, found => by
    simp [same] at found

/-- Item lists found the same are equal. -/
theorem eq_of_sameItems : (left right : List Json) -> sameItems left right = true -> left = right
  | [], [], _ => rfl
  | left :: lefts, right :: rights, found => by
    simp only [sameItems, Bool.and_eq_true] at found
    rw [eq_of_same left right found.1, eq_of_sameItems lefts rights found.2]
  | [], _ :: _, found | _ :: _, [], found => by simp [sameItems] at found

/-- Member lists found the same are equal. -/
theorem eq_of_sameMembers :
    (left right : List (String × Json)) -> sameMembers left right = true -> left = right
  | [], [], _ => rfl
  | (leftName, left) :: lefts, (rightName, right) :: rights, found => by
    simp only [sameMembers, Bool.and_eq_true, beq_iff_eq] at found
    rw [found.1.1, eq_of_same left right found.1.2, eq_of_sameMembers lefts rights found.2]
  | [], _ :: _, found | _ :: _, [], found => by simp [sameMembers] at found

end

mutual

/-- A value is the same as itself. -/
theorem same_refl : (value : Json) -> same value value = true
  | .null => rfl
  | .bool _ | .int _ | .float _ | .str _ => by simp [same]
  | .arr items => by simpa [same] using sameItems_refl items
  | .obj members => by simpa [same] using sameMembers_refl members

/-- An item list is the same as itself. -/
theorem sameItems_refl : (items : List Json) -> sameItems items items = true
  | [] => rfl
  | item :: items => by simp [sameItems, same_refl item, sameItems_refl items]

/-- A member list is the same as itself. -/
theorem sameMembers_refl : (members : List (String × Json)) -> sameMembers members members = true
  | [] => rfl
  | (_, value) :: members => by simp [sameMembers, same_refl value, sameMembers_refl members]

end

instance : DecidableEq Json := fun left right =>
  if found : same left right = true then .isTrue (eq_of_same left right found)
  else .isFalse fun equal => found (equal ▸ same_refl left)

/-- The value of a member in a member list. -/
def lookup (name : String) : List (String × Json) -> Option Json
  | [] => none
  | (other, value) :: members => if other = name then some value else lookup name members

/-- Set a member: replace its value where it stands, or add it at the end. -/
def assign (name : String) (value : Json) : List (String × Json) -> List (String × Json)
  | [] => [(name, value)]
  | (other, old) :: members =>
    if other = name then (other, value) :: members else (other, old) :: assign name value members

/-- A set member is found again. -/
@[simp] theorem lookup_assign_self (name : String) (value : Json)
    (members : List (String × Json)) : lookup name (assign name value members) = some value := by
  induction members with
  | nil => simp [assign, lookup]
  | cons member members inductionHypothesis =>
    obtain ⟨other, old⟩ := member
    by_cases same : other = name <;> simp [assign, lookup, same, inductionHypothesis]

/-- Setting a member leaves the others alone. -/
theorem lookup_assign_of_ne {name other : String} (different : other ≠ name) (value : Json)
    (members : List (String × Json)) :
    lookup other (assign name value members) = lookup other members := by
  induction members with
  | nil => simp [assign, lookup, Ne.symm different]
  | cons member members inductionHypothesis =>
    obtain ⟨held, old⟩ := member
    by_cases same : held = name
    · subst same
      simp [assign, lookup, Ne.symm different]
    · simp [assign, lookup, same, inductionHypothesis]

/-- The names of a member list with each name once, later values replacing earlier ones. -/
def mergeMembers (members : List (String × Json)) : List (String × Json) :=
  members.foldl (fun merged member => assign member.1 member.2 merged) []

/-- The member of an object, nothing for other values. -/
def get? (value : Json) (name : String) : Option Json :=
  match value with
  | .obj members => lookup name members
  | _ => none

/-- Whether a value counts as present: all but null, false, zero and empty texts, arrays and
objects. -/
def isPresent : Json -> Bool
  | .null => false
  | .bool value => value
  | .int value => value != 0
  | .float value => !value.isZero
  | .str value => value != ""
  | .arr items => !items.isEmpty
  | .obj members => !members.isEmpty

end Json

end RepoSurvey

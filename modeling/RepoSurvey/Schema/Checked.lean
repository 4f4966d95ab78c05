import RepoSurvey.Json.Value
import RepoSurvey.Schema.Issue

/-!
# Checked values

The outcome of a check is a value or all the issues found. Checks of independent parts are combined
so that the issues of every part are kept, in order.
-/

namespace RepoSurvey.Schema

/-- The outcome of checking a value. -/
inductive Checked (α : Type) where
  | valid (value : α)
  | invalid (issues : List Issue)
  deriving DecidableEq, Repr

namespace Checked

variable {α β γ : Type}

/-- Apply a function to a valid value. -/
def map (change : α -> β) : Checked α -> Checked β
  | .valid value => .valid (change value)
  | .invalid issues => .invalid issues

/-- Combine two checks, keeping the issues of both. -/
def both (left : Checked α) (right : Checked β) : Checked (α × β) :=
  match left, right with
  | .valid value, .valid other => .valid (value, other)
  | .valid _, .invalid issues => .invalid issues
  | .invalid issues, .valid _ => .invalid issues
  | .invalid issues, .invalid others => .invalid (issues ++ others)

/-- Continue with a valid value. -/
def andThen (checked : Checked α) (next : α -> Checked β) : Checked β :=
  match checked with
  | .valid value => next value
  | .invalid issues => .invalid issues

/-- A single misfit at the value itself. -/
def misfit (found : Misfit) : Checked α := .invalid [⟨[], found⟩]

/-- Place the issues of a part under its name. -/
def under (name : String) : Checked α -> Checked α
  | .valid value => .valid value
  | .invalid issues => .invalid (issues.map fun issue => { issue with path := name :: issue.path })

/-- The value or a report of the issues. -/
def toExcept (record : String) : Checked α -> Except Report α
  | .valid value => .ok value
  | .invalid issues => .error ⟨record, issues⟩

/-- The value, if there is one. -/
def toOption : Checked α -> Option α
  | .valid value => some value
  | .invalid _ => none

/-- Check every item of a list, each under its position. -/
def items (check : Json -> Checked α) (values : List Json) : Checked (List α) :=
  go 0 values
where
  /-- Check the items from a position on. -/
  go (position : Nat) : List Json -> Checked (List α)
    | [] => .valid []
    | value :: values =>
      ((check value).under (Number.natText position) |>.both (go (position + 1) values)).map
        fun (value, values) => value :: values

/-- Check every value of a dictionary, each under its name. -/
def entries (check : Json -> Checked α) : List (String × Json) -> Checked (List (String × α))
  | [] => .valid []
  | (name, value) :: members =>
    ((check value).under name |>.both (entries check members)).map
      fun (value, members) => (name, value) :: members

@[simp] theorem map_valid (change : α -> β) (value : α) :
    (Checked.valid value).map change = .valid (change value) := rfl

@[simp] theorem both_valid (value : α) (other : β) :
    (Checked.valid value).both (.valid other) = .valid (value, other) := rfl

@[simp] theorem under_valid (name : String) (value : α) :
    (Checked.valid value).under name = .valid value := rfl

@[simp] theorem andThen_valid (value : α) (next : α -> Checked β) :
    (Checked.valid value).andThen next = next value := rfl

end Checked

end RepoSurvey.Schema

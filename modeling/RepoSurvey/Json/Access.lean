import RepoSurvey.Json.Value

/-!
# Parts of values

Parts of a value that need not have the expected shape: what is not there counts as null or as empty.
-/

namespace RepoSurvey.Json

/-- The member of an object; null when there is none. -/
def member (value : Json) (name : String) : Json := (value.get? name).getD .null

/-- The members of an object; none for other values. -/
def members : Json -> List (String × Json)
  | .obj members => members
  | _ => []

/-- The items of an array; none for other values. -/
def items : Json -> List Json
  | .arr items => items
  | _ => []

/-- The item of an array at a position; null when there is none. -/
def item (value : Json) (position : Nat) : Json := value.items.getD position .null

/-- The text of a string. -/
def string? : Json -> Option String
  | .str text => some text
  | _ => none

/-- The value of an integer. -/
def integer? : Json -> Option Int
  | .int value => some value
  | _ => none

/-- The integer of a member, or else a default. -/
def integerOr (value : Json) (name : String) (otherwise : Int) : Int :=
  (value.member name).integer?.getD otherwise

/-- A text, or null. -/
def ofText? (text : Option String) : Json := (text.map Json.str).getD .null

/-- An array of texts. -/
def ofTexts (texts : List String) : Json := .arr (texts.map .str)

end RepoSurvey.Json

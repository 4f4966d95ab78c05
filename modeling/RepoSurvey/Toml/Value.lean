import RepoSurvey.Json.Display
import RepoSurvey.Toml.Temporal

/-!
# TOML values

Texts, numbers, truth values, dates and times, arrays and tables, and how each is shown.
-/

namespace RepoSurvey.Toml

open Number (Binary64 Layout intText)
open Text (quoted)

/-- A TOML value. -/
inductive Value where
  | text (value : String)
  | integer (value : Int)
  | float (value : Binary64)
  | truth (value : Bool)
  | temporal (value : Temporal)
  | array (items : List Value)
  | table (members : List (String × Value))
  deriving Inhabited, Repr

/-- The members of a table. -/
abbrev Members := List (String × Value)

/-- The value of a member. -/
def Members.find? (name : String) : Members -> Option Value
  | [] => none
  | (other, value) :: members => if other = name then some value else find? name members

namespace Value

mutual

/-- A value as a literal. -/
def literal : Value -> String
  | .text value => quoted value
  | .integer value => intText value
  | .float value => Layout.plain.text value
  | .truth value => if value then "True" else "False"
  | .temporal value => value.literal
  | .array items => "[" ++ String.intercalate ", " (literals items) ++ "]"
  | .table members => "\x7b" ++ String.intercalate ", " (memberLiterals members) ++ "\x7d"

/-- The items of an array as literals. -/
def literals : List Value -> List String
  | [] => []
  | item :: items => literal item :: literals items

/-- The members of a table as literals. -/
def memberLiterals : List (String × Value) -> List String
  | [] => []
  | (name, value) :: members => (quoted name ++ ": " ++ literal value) :: memberLiterals members

end

/-- A value inside running text. -/
def display : Value -> String
  | .text value => value
  | .temporal value => value.text
  | other => literal other

/-- Whether a value counts as present: all but false, zero and empty texts, arrays and tables. -/
def isPresent : Value -> Bool
  | .text value => value != ""
  | .integer value => value != 0
  | .float value => !value.isZero
  | .truth value => value
  | .temporal _ => true
  | .array items => !items.isEmpty
  | .table members => !members.isEmpty

/-- What kind of value stands where another was expected. -/
def kindName : Value -> String
  | .text _ => "str"
  | .integer _ => "int"
  | .float _ => "float"
  | .truth _ => "bool"
  | .temporal value => value.kindName
  | .array _ => "list"
  | .table _ => "dict"

end Value

end RepoSurvey.Toml

import RepoSurvey.Json.Value
import RepoSurvey.Number.Decimal
import RepoSurvey.Text.Quoted

/-!
# Showing values

Where a value is shown inside running text, a string stands for itself, the absent value and the truth
values have capitalised names, and arrays and objects list their parts as literals.
-/

namespace RepoSurvey.Json

open Number (intText Layout)
open Text (quoted)

mutual

/-- A value as a literal. -/
def literal : Json -> String
  | .null => "None"
  | .bool value => if value then "True" else "False"
  | .int value => intText value
  | .float value => Layout.plain.text value
  | .str value => quoted value
  | .arr items => "[" ++ String.intercalate ", " (literals items) ++ "]"
  | .obj members => "\x7b" ++ String.intercalate ", " (memberLiterals members) ++ "\x7d"

/-- The items of an array as literals. -/
def literals : List Json -> List String
  | [] => []
  | item :: items => literal item :: literals items

/-- The members of an object as literals. -/
def memberLiterals : List (String × Json) -> List String
  | [] => []
  | (name, value) :: members => (quoted name ++ ": " ++ literal value) :: memberLiterals members

end

/-- A value inside running text. -/
def display : Json -> String
  | .str value => value
  | other => literal other

end RepoSurvey.Json

namespace RepoSurvey.Text

/-- A list of texts as a literal. -/
def quotedList (texts : List String) : String :=
  "[" ++ String.intercalate ", " (texts.map quoted) ++ "]"

end RepoSurvey.Text

import RepoSurvey.Clock.Timestamp.Reader

/-!
# Issues of checked data

Data that comes from outside is checked against the record it should be. Every part that does not fit
is an issue with its place, and all issues of a value are reported together.
-/

namespace RepoSurvey.Schema

open Clock (Timestamp)
open Number (natText intText)

/-- How a part of a value does not fit. -/
inductive Misfit where
  | missing
  | notText
  | shortText (least : Nat)
  | notList
  | shortList (least : Nat) (length : Nat)
  | notDictionary
  | notRecord (record : String)
  | notChoice (choices : List String)
  | notInteger
  | fractionalInteger
  | unreadableInteger
  | oversizedInteger
  | belowLeast (least : Int)
  | aboveGreatest (greatest : Int)
  | notNumber
  | unreadableNumber
  | infiniteNumber
  | notTruth
  | unreadableTruth
  | notMoment
  | unreadableMoment (flaw : Timestamp.Flaw)
  | impossibleMoment (flaw : Timestamp.Flaw)
  deriving DecidableEq, Repr

namespace Misfit

/-- The category of a misfit. -/
def category : Misfit -> String
  | .missing => "missing"
  | .notText => "string_type"
  | .shortText _ => "string_too_short"
  | .notList => "list_type"
  | .shortList _ _ => "too_short"
  | .notDictionary => "dict_type"
  | .notRecord _ => "model_type"
  | .notChoice _ => "enum"
  | .notInteger => "int_type"
  | .fractionalInteger => "int_from_float"
  | .unreadableInteger => "int_parsing"
  | .oversizedInteger => "int_parsing_size"
  | .belowLeast _ => "greater_than_equal"
  | .aboveGreatest _ => "less_than_equal"
  | .notNumber => "float_type"
  | .unreadableNumber => "float_parsing"
  | .infiniteNumber => "finite_number"
  | .notTruth => "bool_type"
  | .unreadableTruth => "bool_parsing"
  | .notMoment => "datetime_type"
  | .unreadableMoment _ => "datetime_from_date_parsing"
  | .impossibleMoment _ => "datetime_parsing"

/-- A list of quoted alternatives, the last one after "or". -/
def alternatives : List String -> String
  | [] => ""
  | [choice] => "'" ++ choice ++ "'"
  | [choice, last] => "'" ++ choice ++ "' or '" ++ last ++ "'"
  | choice :: choices => "'" ++ choice ++ "', " ++ alternatives choices

/-- A count with its noun. -/
def counted (count : Nat) (noun : String) : String :=
  natText count ++ " " ++ noun ++ (if count = 1 then "" else "s")

/-- The wording of a misfit. -/
def message : Misfit -> String
  | .missing => "Field required"
  | .notText => "Input should be a valid string"
  | .shortText least => "String should have at least " ++ counted least "character"
  | .notList => "Input should be a valid list"
  | .shortList least length =>
    "List should have at least " ++ counted least "item" ++ " after validation, not " ++
      natText length
  | .notDictionary => "Input should be a valid dictionary"
  | .notRecord record => "Input should be a valid dictionary or instance of " ++ record
  | .notChoice choices => "Input should be " ++ alternatives choices
  | .notInteger => "Input should be a valid integer"
  | .fractionalInteger => "Input should be a valid integer, got a number with a fractional part"
  | .unreadableInteger => "Input should be a valid integer, unable to parse string as an integer"
  | .oversizedInteger => "Unable to parse input string as an integer, exceeded maximum size"
  | .belowLeast least => "Input should be greater than or equal to " ++ intText least
  | .aboveGreatest greatest => "Input should be less than or equal to " ++ intText greatest
  | .notNumber => "Input should be a valid number"
  | .unreadableNumber => "Input should be a valid number, unable to parse string as a number"
  | .infiniteNumber => "Input should be a finite number"
  | .notTruth => "Input should be a valid boolean"
  | .unreadableTruth => "Input should be a valid boolean, unable to interpret input"
  | .notMoment => "Input should be a valid datetime"
  | .unreadableMoment flaw => "Input should be a valid datetime or date, " ++ flaw.message
  | .impossibleMoment flaw => "Input should be a valid datetime, " ++ flaw.message

end Misfit

/-- A misfit and the names and positions that lead to it. -/
structure Issue where
  path : List String
  misfit : Misfit
  deriving DecidableEq, Repr

/-- The place of an issue, its names and positions joined by points. -/
def Issue.place (issue : Issue) : String := String.intercalate "." issue.path

/-- All issues of a value that should have been a record. -/
structure Report where
  record : String
  issues : List Issue
  deriving DecidableEq, Repr

/-- The report as text: the number of issues, then each with its place, wording and category. -/
def Report.text (report : Report) : String :=
  let heading := Misfit.counted report.issues.length "validation error" ++ " for " ++ report.record
  report.issues.foldl (fun text issue =>
    text ++ "\n" ++ issue.place ++ "\n  " ++ issue.misfit.message ++ " [type=" ++
      issue.misfit.category ++ "]") heading

end RepoSurvey.Schema

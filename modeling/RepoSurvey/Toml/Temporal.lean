import RepoSurvey.Clock.Timestamp

/-!
# Dates and times of a configuration file

A date, a time of day, or both together, the last with or without its distance from universal time.
A value is shown in one way on its own and in another inside an array or a table.
-/

namespace RepoSurvey.Toml

open Clock (Date Offset)
open Number (natText padZeros)

/-- A time of day. -/
structure TimeOfDay where
  hour : Nat
  minute : Nat
  second : Nat
  microsecond : Nat
  deriving DecidableEq, Repr

namespace TimeOfDay

/-- Hours, minutes and seconds, with the microseconds when there are any. -/
def text (time : TimeOfDay) : String :=
  let two (value : Nat) := padZeros 2 (natText value)
  two time.hour ++ ":" ++ two time.minute ++ ":" ++ two time.second ++
    (if time.microsecond = 0 then "" else "." ++ padZeros 6 (natText time.microsecond))

/-- The parts that have to be named: seconds only when they or the microseconds are not zero. -/
def parts (time : TimeOfDay) : List Nat :=
  [time.hour, time.minute] ++
    (if time.microsecond ≠ 0 then [time.second, time.microsecond]
    else if time.second ≠ 0 then [time.second] else [])

end TimeOfDay

/-- A distance from universal time as a literal: whole days, rounded down, and the seconds that
remain. -/
def offsetLiteral (offset : Offset) : String :=
  if offset.minutes = 0 then "datetime.timezone.utc"
  else
    let seconds := natText ((offset.minutes % 1440).toNat * 60)
    "datetime.timezone(datetime.timedelta(" ++
      (if offset.minutes < 0 then "days=-1, " else "") ++ "seconds=" ++ seconds ++ "))"

/-- A date, a time of day or both. -/
inductive Temporal where
  | date (day : Date)
  | time (clock : TimeOfDay)
  | dateTime (day : Date) (clock : TimeOfDay) (offset : Option Offset)
  deriving DecidableEq, Repr

namespace Temporal

/-- A value on its own. -/
def text : Temporal -> String
  | .date day => day.text
  | .time clock => clock.text
  | .dateTime day clock offset => day.text ++ " " ++ clock.text ++ (offset.map Offset.text).getD ""

/-- The parts of a date. -/
def dateParts (day : Date) : List Nat := [day.year.toNat, day.month, day.day]

/-- The name of the kind of a value. -/
def kindName : Temporal -> String
  | .date _ => "datetime.date"
  | .time _ => "datetime.time"
  | .dateTime _ _ _ => "datetime.datetime"

/-- The parts of a value that its literal names. -/
def parts : Temporal -> List Nat
  | .date day => dateParts day
  | .time clock => clock.parts
  | .dateTime day clock _ => dateParts day ++ clock.parts

/-- The distance from universal time, where a value has one. -/
def offset? : Temporal -> Option Offset
  | .dateTime _ _ offset => offset
  | _ => none

/-- A value as a literal: its kind and its parts. -/
def literal (value : Temporal) : String :=
  let zone := (value.offset?.map fun offset => "tzinfo=" ++ offsetLiteral offset).toList
  value.kindName ++ "(" ++ String.intercalate ", " (value.parts.map natText ++ zone) ++ ")"

example : (Temporal.time ⟨7, 32, 0, 0⟩).parts = [7, 32] := rfl
example : (Temporal.time ⟨0, 32, 0, 500000⟩).parts = [0, 32, 0, 500000] := rfl

end Temporal

end RepoSurvey.Toml

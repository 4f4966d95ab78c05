import RepoSurvey.Number.Decimal

/-!
# Moments

A moment is an exact number of microseconds since the start of 1970, without a zone. Its text is a
calendar date and a time of day; the microseconds appear only when there are any.
-/

namespace RepoSurvey.Clock

open Number (natText padZeros)

/-- A point in time. -/
structure Moment where
  microseconds : Int
  deriving DecidableEq, Repr, Inhabited

/-- A calendar date. -/
structure Date where
  year : Int
  month : Nat
  day : Nat
  deriving DecidableEq, Repr

namespace Date

/-- The date a number of days after the start of 1970. Years are counted from March, so that a leap
day ends its year, and in eras of four hundred years. -/
def ofDays (days : Int) : Date :=
  let shifted := days + 719468
  let era := shifted / 146097
  let dayOfEra := (shifted % 146097).toNat
  let yearOfEra := (dayOfEra - dayOfEra / 1460 + dayOfEra / 36524 - dayOfEra / 146096) / 365
  let dayOfYear := dayOfEra - (365 * yearOfEra + yearOfEra / 4 - yearOfEra / 100)
  let monthFromMarch := (5 * dayOfYear + 2) / 153
  let day := dayOfYear - (153 * monthFromMarch + 2) / 5 + 1
  let month := if monthFromMarch < 10 then monthFromMarch + 3 else monthFromMarch - 9
  ⟨yearOfEra + era * 400 + (if month ≤ 2 then 1 else 0), month, day⟩

/-- The number of days from the start of 1970 to a date. -/
def toDays (date : Date) : Int :=
  let year := if date.month ≤ 2 then date.year - 1 else date.year
  let era := year / 400
  let yearOfEra := (year % 400).toNat
  let monthFromMarch := if 2 < date.month then date.month - 3 else date.month + 9
  let dayOfYear := (153 * monthFromMarch + 2) / 5 + date.day - 1
  let dayOfEra := yearOfEra * 365 + yearOfEra / 4 - yearOfEra / 100 + dayOfYear
  era * 146097 + dayOfEra - 719468

/-- Whether a year has a leap day. -/
def isLeapYear (year : Int) : Bool := year % 4 == 0 && (year % 100 != 0 || year % 400 == 0)

/-- The number of days of a month. -/
def daysInMonth (year : Int) (month : Nat) : Nat :=
  if month = 2 then if isLeapYear year then 29 else 28
  else if month = 4 || month = 6 || month = 9 || month = 11 then 30 else 31

/-- Year, month and day, joined by hyphens. -/
def text (date : Date) : String :=
  padZeros 4 (natText date.year.toNat) ++ "-" ++ padZeros 2 (natText date.month) ++ "-" ++
    padZeros 2 (natText date.day)

end Date

namespace Moment

/-- The microseconds of a second. -/
def perSecond : Int := 1000000

/-- The microseconds of a day. -/
def perDay : Int := 86400 * perSecond

/-- The calendar date of a moment. -/
def date (moment : Moment) : Date := Date.ofDays (moment.microseconds / perDay)

/-- The moment some microseconds later. -/
def after (moment : Moment) (microseconds : Int) : Moment := ⟨moment.microseconds + microseconds⟩

/-- The microseconds from one moment to a later one. -/
def since (later earlier : Moment) : Int := later.microseconds - earlier.microseconds

/-- The start of a day. -/
def ofDate (date : Date) : Moment := ⟨date.toDays * perDay⟩

/-- Date and time of day. -/
def text (moment : Moment) : String :=
  let inDay := (moment.microseconds % perDay).toNat
  let seconds := inDay / 1000000
  let fraction := inDay % 1000000
  let two (value : Nat) := padZeros 2 (natText value)
  moment.date.text ++ "T" ++ two (seconds / 3600) ++ ":" ++ two (seconds / 60 % 60) ++ ":" ++
    two (seconds % 60) ++ (if fraction = 0 then "" else "." ++ padZeros 6 (natText fraction))

/-- A fixed number of plain digits at the head of a text. -/
def takeNumber? (width : Nat) (chars : List Char) : Option (Nat × List Char) :=
  let digits := chars.take width
  if digits.length = width && digits.all Char.isDigit then
    some (Number.ofDigits (digits.map (·.toNat - 48)), chars.drop width)
  else none

/-- Step over one expected character. -/
def takeMark? (allowed : List Char) : List Char -> Option (List Char)
  | c :: rest => if allowed.contains c then some rest else none
  | [] => none

example : (Date.ofDays 19723).text = "2024-01-01" := by decide +kernel

end Moment

end RepoSurvey.Clock

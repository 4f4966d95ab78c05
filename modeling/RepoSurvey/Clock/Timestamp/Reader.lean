import RepoSurvey.Clock.Timestamp
import RepoSurvey.Number.Numeral

/-!
# Reading timestamps

A timestamp is read from a date, from a date with a time of day, or from a number that counts from the
start of 1970: seconds up to twenty thousand million of them, milliseconds beyond. What a number
stands for is told in universal time. A text that is neither is refused for what is wrong with it as
a date; its length is counted in bytes.
-/

namespace RepoSurvey.Clock.Timestamp

open Number (Binary64)
open Moment (takeMark? takeNumber?)

/- Powers are the core library's, whichever other structures of the numbers are in scope. -/
attribute [local instance (2000)] instPowNat

/-- Why there is no timestamp. -/
inductive Flaw where
  | tooShort
  | yearDigit
  | dateSeparator
  | monthDigit
  | dayDigit
  | monthRange
  | dayRange
  | excess
  | tooEarly
  | tooLate
  | undefined
  | yearZero
  deriving DecidableEq, Repr

/-- The wording of a flaw. -/
def Flaw.message : Flaw -> String
  | .tooShort => "input is too short"
  | .yearDigit => "invalid character in year"
  | .dateSeparator => "invalid date separator, expected `-`"
  | .monthDigit => "invalid character in month"
  | .dayDigit => "invalid character in day"
  | .monthRange => "month value is outside expected range of 1-12"
  | .dayRange => "day value is outside expected range"
  | .excess => "unexpected extra characters at the end of the input"
  | .tooEarly => "dates before 0000 are not supported as unix timestamps"
  | .tooLate => "dates after 9999 are not supported as unix timestamps"
  | .undefined => "NaN values not permitted"
  | .yearZero => "year 0 is out of range"

/-! ## Numbers -/

/-- The greatest number that counts seconds. -/
def greatestSeconds : Int := 20000000000

/-- The first second of the year 0. -/
def firstSecond : Int := -62167219200

/-- The last second of the year 9999. -/
def lastSecond : Int := 253402300799

/-- The timestamp of a whole number and some microseconds more. -/
def ofWhole (number : Int) (microseconds : Int) : Except Flaw Timestamp :=
  let total :=
    if number.natAbs ≤ greatestSeconds.natAbs then number * Moment.perSecond + microseconds
    else number * 1000 + microseconds
  let seconds := total / Moment.perSecond
  if seconds < firstSecond then .error .tooEarly
  else if lastSecond < seconds then .error .tooLate
  else .ok ⟨⟨total⟩, some ⟨0⟩⟩

/-- The nearest whole number to a double, a half going away from zero. -/
def nearestWhole (value : Binary64) : Int :=
  let exact := value.toRat
  if exact < 0 then -((-exact + 1 / 2).floor) else (exact + 1 / 2).floor

/-- The timestamp of a double: its whole part, rounded down, and the size of its fraction. -/
def ofDouble (value : Binary64) : Except Flaw Timestamp :=
  match value with
  | .nan => .error .undefined
  | .infinite negative => .error (if negative then .tooEarly else .tooLate)
  | .finite .. =>
    let exact := value.toRat
    let fraction := if exact < 0 then exact.ceil - exact else exact - exact.floor
    ofWhole exact.floor (nearestWhole (Binary64.ofRat (fraction * 1000000)))

/-- The timestamp of a decimal with a fraction or an exponent. Many seconds are milliseconds, of which
the seconds are taken first. -/
def ofDecimal (value : Binary64) : Except Flaw Timestamp :=
  let exact := value.toRat
  let seconds := if (greatestSeconds : Rat) < (if exact < 0 then -exact else exact)
    then (Binary64.ofRat (exact / 1000)).toRat else exact
  let rest := Binary64.ofRat (seconds - (seconds.floor : Rat))
  ofWhole seconds.floor (nearestWhole (Binary64.ofRat (rest.toRat * 1000000)))

/-- The whole number that digits with an optional sign stand for, if it has 64 bits. -/
def wholeNumeral? (chars : List Char) : Option Int :=
  let (negative, digits) := Number.splitSign chars
  let magnitude := Number.ofDigits (digits.map (·.toNat - 48))
  if digits.isEmpty || !digits.all Char.isDigit || 2 ^ (63 : Nat) ≤ magnitude then none
  else some (Number.signed negative magnitude)

/-- Whether digits are followed by at least one digit after a point, if there is a point. -/
def hasPlainFraction (chars : List Char) : Bool :=
  match (chars.dropWhile Char.isDigit) with
  | '.' :: rest => (rest.head?.map Char.isDigit).getD false
  | _ => true

/-- The double a decimal stands for: no plus sign and no needless zero leads, and digits stand on both
sides of a point. -/
def decimalNumeral? (chars : List Char) : Option Binary64 :=
  let (negative, body) : Bool × List Char :=
    match chars with
    | '-' :: rest => (true, rest)
    | rest => (false, rest)
  match body with
  | first :: rest =>
    if !first.isDigit || (first == '0' && (rest.head?.map Char.isDigit).getD false) ||
        !hasPlainFraction body then none
    else (Number.realMagnitude? negative body).filter Binary64.isFinite
  | [] => none

/-- The timestamp of a numeral; nothing for other texts and for numbers out of range. -/
def ofNumeral? (chars : List Char) : Option Timestamp :=
  match wholeNumeral? chars with
  | some number => (ofWhole number 0).toOption
  | none => (decimalNumeral? chars).bind fun value => (ofDecimal value).toOption

/-! ## Dates and times of day -/

/-- A date at the head of a text, and the rest of the text. -/
def spanDate (chars : List Char) : Except Flaw (Date × List Char) := do
  if chars.length < 10 then throw .tooShort
  let expected {α : Type} (flaw : Flaw) (found : Option α) : Except Flaw α :=
    match found with
    | some value => .ok value
    | none => .error flaw
  let (year, rest) <- expected .yearDigit (takeNumber? 4 chars)
  let rest <- expected .dateSeparator (takeMark? ['-'] rest)
  let (month, rest) <- expected .monthDigit (takeNumber? 2 rest)
  let rest <- expected .dateSeparator (takeMark? ['-'] rest)
  let (day, rest) <- expected .dayDigit (takeNumber? 2 rest)
  if month = 0 || 12 < month then throw .monthRange
  if day = 0 || Date.daysInMonth year month < day then throw .dayRange
  pure (⟨year, month, day⟩, rest)

/-- The microseconds of a fraction of a second at the head of a text: a point or a comma and digits,
of which six count. -/
def spanFraction? : List Char -> Option (Nat × List Char)
  | mark :: rest =>
    if mark = '.' || mark = ',' then
      let digits := rest.takeWhile Char.isDigit
      if digits.isEmpty then none
      else
        let counted := (digits ++ List.replicate 6 '0').take 6
        some (Number.ofDigits (counted.map (·.toNat - 48)), rest.dropWhile Char.isDigit)
    else some (0, mark :: rest)
  | [] => some (0, [])

/-- The microseconds of a time of day at the head of a text: hours and minutes, with or without
seconds and their fraction. -/
def spanTime? (chars : List Char) : Option (Int × List Char) := do
  let (hour, rest) <- takeNumber? 2 chars
  let rest <- takeMark? [':'] rest
  let (minute, rest) <- takeNumber? 2 rest
  if 23 < hour || 59 < minute then none
  let minutes : Int := (hour * 60 + minute : Nat)
  match rest with
  | ':' :: rest =>
    let (second, rest) <- takeNumber? 2 rest
    if 59 < second then none
    let (fraction, rest) <- spanFraction? rest
    pure ((minutes * 60 + second) * Moment.perSecond + fraction, rest)
  | rest => pure (minutes * 60 * Moment.perSecond, rest)

/-- The sign of an offset, true for behind: a plus sign, a hyphen, or the three bytes of a minus
sign. -/
def spanOffsetSign? : List Char -> Option (Bool × List Char)
  | '+' :: rest => some (false, rest)
  | '-' :: rest => some (true, rest)
  | '\xe2' :: '\x88' :: '\x92' :: rest => some (true, rest)
  | _ => none

/-- The offset that a text is: none, a letter for universal time, or a sign, hours and minutes, with
or without a colon between them. -/
def readOffset? (chars : List Char) : Option (Option Offset) :=
  match chars with
  | [] => some none
  | ['Z'] | ['z'] => some (some ⟨0⟩)
  | _ => do
    let (behind, rest) <- spanOffsetSign? chars
    let (hours, rest) <- takeNumber? 2 rest
    let (minutes, rest) <- takeNumber? 2 ((takeMark? [':'] rest).getD rest)
    if !rest.isEmpty || 23 < hours || 59 < minutes then none
    pure (some ⟨Number.signed behind (hours * 60 + minutes)⟩)

/-- The timestamp of a date with a time of day; nothing for other texts. -/
def ofDateTime? (chars : List Char) : Option Timestamp := do
  let (date, rest) <- (spanDate chars).toOption
  let rest <- takeMark? ['T', 't', ' ', '_'] rest
  let (microseconds, rest) <- spanTime? rest
  let offset <- readOffset? rest
  pure ⟨(Moment.ofDate date).after microseconds, offset⟩

/-- The timestamp of midnight of a date; otherwise what is wrong with the text as a date. -/
def ofDateAlone (chars : List Char) : Except Flaw Timestamp :=
  let read : Except Flaw Timestamp := do
    let (date, rest) <- spanDate chars
    if rest.isEmpty then pure (ofMoment (Moment.ofDate date)) else throw .excess
  match read, wholeNumeral? chars with
  | .error _, some number => ofWhole number 0
  | outcome, _ => outcome

/-- Read a timestamp from the bytes of a text. -/
def ofText (text : String) : Except Flaw Timestamp :=
  let bytes := text.toUTF8.data.toList.map fun byte => Char.ofNat byte.toNat
  match (ofDateTime? bytes).or (ofNumeral? bytes) with
  | some stamp => .ok stamp
  | none => ofDateAlone bytes

/-- Whether a timestamp is of the year 0, which no calendar has. -/
def isOfYearZero (stamp : Timestamp) : Bool := stamp.reading.date.year == 0

example : (ofText "2024-02-29t23:59,5").toOption = none := by decide +kernel
example : (ofText "2024-02-29_23:59:59,5-0800").toOption.map Timestamp.text =
    some "2024-02-29T23:59:59.500000-08:00" := by decide +kernel

end RepoSurvey.Clock.Timestamp

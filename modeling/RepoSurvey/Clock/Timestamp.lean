import RepoSurvey.Clock.Moment

/-!
# Timestamps

A timestamp is what a calendar and a clock show somewhere, with or without the clock's distance from
universal time. It is written as a date and a time of day; a distance follows when it is known, a
letter standing for none.
-/

namespace RepoSurvey.Clock

open Number (natText padZeros)

/-- How many minutes a clock is ahead of universal time. -/
structure Offset where
  minutes : Int
  deriving DecidableEq, Repr

namespace Offset

/-- A sign, hours and minutes. -/
def text (offset : Offset) : String :=
  let size := offset.minutes.natAbs
  (if offset.minutes < 0 then "-" else "+") ++ padZeros 2 (natText (size / 60)) ++ ":" ++
    padZeros 2 (natText (size % 60))

/-- The offset as it follows a time of day. -/
def suffix (offset : Offset) : String := if offset.minutes = 0 then "Z" else offset.text

end Offset

/-- What a calendar and a clock show, and how far the clock is ahead of universal time, if that is
known. -/
structure Timestamp where
  reading : Moment
  offset : Option Offset
  deriving DecidableEq, Repr, Inhabited

namespace Timestamp

/-- The timestamp of a moment, which says nothing about a distance. -/
def ofMoment (moment : Moment) : Timestamp := ⟨moment, none⟩

/-- Date, time of day and distance. -/
def text (stamp : Timestamp) : String :=
  stamp.reading.text ++ (stamp.offset.map Offset.suffix).getD ""

/-- The timestamp of a moment is written like the moment. -/
@[simp] theorem text_ofMoment (moment : Moment) : (ofMoment moment).text = moment.text := by
  simp [text, ofMoment]

end Timestamp

end RepoSurvey.Clock

import RepoSurvey.Clock.Moment
import RepoSurvey.Json.Compare

/-!
# Lifetimes

For how long a value is kept is said in seconds. Any number will do: a value of a negative lifetime is
over at once, and one of an undefined lifetime never is. A lifetime that is no number is only found out
when it is compared to a time or added to one.
-/

namespace RepoSurvey.Store

open Clock (Moment)
open Json (Amount ShapeFault)

/-- For how long a value is kept. -/
inductive Lifetime where
  /-- For an amount of seconds. -/
  | seconds (amount : Amount)
  /-- For something that is no number, of some kind. -/
  | strange (kind : String)
  deriving DecidableEq, Repr

namespace Lifetime

/-- A whole number of seconds. -/
def ofSeconds (seconds : Int) : Lifetime := .seconds (.exact seconds)

/-- The lifetime that a value stands for. -/
def ofJson (value : Json) : Lifetime :=
  match value.amount? with
  | some amount => .seconds amount
  | none => .strange value.kindName

/-- Some microseconds in seconds. -/
def inSeconds (microseconds : Int) : Rat := (microseconds : Rat) / (Moment.perSecond : Rat)

/-- Whether a lifetime is over after some microseconds. -/
def isOver (lifetime : Lifetime) (microseconds : Int) : Except ShapeFault Bool :=
  match lifetime with
  | .seconds amount => .ok ((Amount.exact (inSeconds microseconds)).exceeds amount)
  | .strange kind => .error (.incomparable ">" "float" kind)

/-- The time at which a lifetime from now ends, in seconds since the start of 1970. -/
def endFrom (lifetime : Lifetime) (now : Moment) : Except ShapeFault Amount :=
  match lifetime with
  | .seconds (.exact amount) => .ok (.exact (inSeconds now.microseconds + amount))
  | .seconds amount => .ok amount
  | .strange kind => .error (.notAddable "float" kind)

/-- Whole seconds are over when more microseconds have passed than they have. -/
theorem isOver_ofSeconds (seconds microseconds : Int) :
    (ofSeconds seconds).isOver microseconds =
      .ok (decide (seconds * Moment.perSecond < microseconds)) := by
  have positive : (0 : Rat) < (Moment.perSecond : Rat) := by decide
  have same : ((seconds : Rat) < inSeconds microseconds) ↔
      seconds * Moment.perSecond < microseconds := by
    unfold inSeconds
    rw [Rat.lt_div_iff positive, ← Rat.intCast_mul, Rat.intCast_lt_intCast]
  simp [isOver, ofSeconds, same]

end Lifetime

end RepoSurvey.Store

/-!
# Double-precision numbers

A quotient of naturals is rounded to the nearest natural; a half goes to the even neighbour.

A finite number is a significand below `2 ^ 53` times a power of two from `2 ^ -1074` to `2 ^ 971`;
the significand is at least `2 ^ 52` unless the power is the smallest one. Every operation gives the
number nearest to the exact result, the one with an even significand when two are equally near.
-/

namespace RepoSurvey.Number

/-- The natural nearest to a quotient, the even one of two equally near. -/
def roundHalfEven (numerator denominator : Nat) : Nat :=
  let below := numerator / denominator
  let twice := 2 * (numerator % denominator)
  if twice < denominator then below
  else if denominator < twice then below + 1
  else if below % 2 = 0 then below else below + 1

/-- The rounded quotient is at most half a unit above the exact one. -/
theorem roundHalfEven_le (numerator denominator : Nat) (positive : 0 < denominator) :
    2 * (roundHalfEven numerator denominator * denominator) ≤ 2 * numerator + denominator := by
  have division := Nat.div_add_mod numerator denominator
  have small := Nat.mod_lt numerator positive
  have commuted := Nat.mul_comm denominator (numerator / denominator)
  unfold roundHalfEven
  simp only
  repeat' split
  all_goals (try simp only [Nat.add_mul, Nat.one_mul]); omega

/-- The rounded quotient is at most half a unit below the exact one. -/
theorem le_roundHalfEven (numerator denominator : Nat) (positive : 0 < denominator) :
    2 * numerator ≤ 2 * (roundHalfEven numerator denominator * denominator) + denominator := by
  have division := Nat.div_add_mod numerator denominator
  have small := Nat.mod_lt numerator positive
  have commuted := Nat.mul_comm denominator (numerator / denominator)
  unfold roundHalfEven
  simp only
  repeat' split
  all_goals (try simp only [Nat.add_mul, Nat.one_mul]); omega

/-- An exact quotient is left alone. -/
@[simp] theorem roundHalfEven_mul (value denominator : Nat) (positive : 0 < denominator) :
    roundHalfEven (value * denominator) denominator = value := by
  simp [roundHalfEven, Nat.mul_div_cancel value positive, positive]

end RepoSurvey.Number

namespace RepoSurvey.Number

/- Powers are the core library's, whichever other structures of the numbers are in scope. -/
attribute [local instance (2000)] instPowNat

/-- A double-precision number. -/
inductive Binary64 where
  | finite (negative : Bool) (significand : Nat) (exponent : Int)
  | infinite (negative : Bool)
  | nan
  deriving DecidableEq, Repr, Inhabited

namespace Binary64

/-- The power of the smallest positive number. -/
def leastExponent : Int := -1074

/-- The greatest power of a finite number. -/
def greatestExponent : Int := 971

/-- Positive zero. -/
def zero : Binary64 := .finite false 0 leastExponent

/-- A quotient divided by a power of two, as a quotient again. -/
def scaleDown (numerator denominator : Nat) (exponent : Int) : Nat × Nat :=
  if 0 ≤ exponent then (numerator, denominator * 2 ^ exponent.toNat)
  else (numerator * 2 ^ (-exponent).toNat, denominator)

/-- The power of two for a positive quotient: its scaled value has 53 bits, or fewer at the smallest
power. -/
def exponentFor (numerator denominator : Nat) : Int :=
  let guess := (Nat.log2 numerator : Int) - (Nat.log2 denominator : Int) - 52
  let scaled := scaleDown numerator denominator guess
  max leastExponent (if scaled.1 < 2 ^ (52 : Nat) * scaled.2 then guess - 1 else guess)

/-- The number nearest to a quotient. -/
def ofRatio (negative : Bool) (numerator denominator : Nat) : Binary64 :=
  if numerator = 0 then .finite negative 0 leastExponent
  else
    let exponent := exponentFor numerator denominator
    let scaled := scaleDown numerator denominator exponent
    let significand := roundHalfEven scaled.1 scaled.2
    let (significand, exponent) :=
      if significand = 2 ^ (53 : Nat) then (2 ^ (52 : Nat), exponent + 1) else (significand, exponent)
    if greatestExponent < exponent then .infinite negative
    else .finite negative significand exponent

/-- The number nearest to a rational. -/
def ofRat (value : Rat) : Binary64 := ofRatio (value.num < 0) value.num.natAbs value.den

/-- The number nearest to an integer. -/
def ofInt (value : Int) : Binary64 := ofRatio (value < 0) value.natAbs 1

/-- The rational a finite number stands for; nothing for the others. -/
def toRat? : Binary64 -> Option Rat
  | .finite negative significand exponent =>
    let magnitude : Rat :=
      if 0 ≤ exponent then ((significand * 2 ^ exponent.toNat : Nat) : Rat)
      else (significand : Rat) / ((2 ^ (-exponent).toNat : Nat) : Rat)
    some (if negative then -magnitude else magnitude)
  | _ => none

/-- The rational a finite number stands for, zero for the others. -/
def toRat (value : Binary64) : Rat := value.toRat?.getD 0

/-- Whether a number is neither infinite nor undefined. -/
def isFinite : Binary64 -> Bool
  | .finite .. => true
  | _ => false

/-- Whether a number is positive or negative zero. -/
def isZero : Binary64 -> Bool
  | .finite _ 0 _ => true
  | _ => false

/-- The integer a number equals, if it equals one. -/
def toInt? (value : Binary64) : Option Int :=
  match value.toRat? with
  | some exact => if exact.den = 1 then some exact.num else none
  | none => none

/-- Round to a number of decimal places, a half of the exact value going to the even digit. -/
def roundPlaces (places : Nat) : Binary64 -> Binary64
  | .finite negative significand exponent =>
    let exact := scaleDown (significand * 10 ^ places) 1 (-exponent)
    ofRatio negative (roundHalfEven exact.1 exact.2) (10 ^ places)
  | other => other

end Binary64

end RepoSurvey.Number

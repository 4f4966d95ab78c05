import RepoSurvey.Number.Binary64

/-!
# Decimal text of numbers

A double-precision number is written with the fewest significant digits that read back as the same
number, the nearest such decimal when there are several. The grids of the multiples of ten, one,
a tenth and so on are tried from the coarsest; on each only the two neighbours of the number can lie
in the interval of reals that round to it.
-/

namespace RepoSurvey.Number

/- Powers are the core library's, whichever other structures of the numbers are in scope. -/
attribute [local instance (2000)] instPowNat

/-- The value of decimal digits, most significant first. -/
def ofDigits (digits : List Nat) : Nat := digits.foldl (fun value digit => value * 10 + digit) 0

/-- The decimal digits of a natural as text. -/
def natText (value : Nat) : String := String.ofList (Nat.toDigits 10 value)

/-- An integer as text, with a sign only when it is negative. -/
def intText (value : Int) : String :=
  if value < 0 then "-" ++ natText value.natAbs else natText value.natAbs

/-- Pad a text with zeros on the left. -/
def padZeros (width : Nat) (text : String) : String :=
  String.ofList (List.replicate (width - text.length) '0') ++ text

/-- An integer with a comma between groups of three digits. -/
def groupedText (value : Nat) : String :=
  let rec group : List Char -> List Char
    | a :: b :: c :: d :: rest => a :: b :: c :: ',' :: group (d :: rest)
    | short => short
  String.ofList (group (Nat.toDigits 10 value).reverse).reverse

/-- A decimal: digits without trailing zeros times a power of ten. -/
structure Decimal where
  digits : Nat
  exponent : Int
  deriving DecidableEq, Repr

namespace Decimal

/-- Move trailing zeros into the exponent, at most `fuel` of them. -/
def trimZeros : (fuel : Nat) -> Decimal -> Decimal
  | 0, decimal => decimal
  | fuel + 1, decimal =>
    if decimal.digits ≠ 0 ∧ decimal.digits % 10 = 0 then
      trimZeros fuel ⟨decimal.digits / 10, decimal.exponent + 1⟩
    else decimal

/-- Where a number and the ends of its rounding interval lie on a decimal grid, as multiples of one
`scale`-th of the grid's step. -/
structure Placement where
  lower : Nat
  value : Nat
  upper : Nat
  scale : Nat

/-- Place a positive number `significand * 2 ^ exponent` on the grid of multiples of
`10 ^ gridExponent`. The interval reaches half-way to the neighbours; the lower neighbour of a power
of two is closer. -/
def place (significand : Nat) (exponent gridExponent : Int) : Placement :=
  let factor := 2 ^ (exponent - 2).toNat * 10 ^ (-gridExponent).toNat
  let below := if significand = 2 ^ (52 : Nat) ∧ Binary64.leastExponent < exponent then 1 else 2
  { lower := (4 * significand - below) * factor
    value := 4 * significand * factor
    upper := (4 * significand + 2) * factor
    scale := 2 ^ (2 - exponent).toNat * 10 ^ gridExponent.toNat }

/-- Whether a grid point reads back as the number: inside the interval, whose ends belong to it when
the significand is even. -/
def Placement.accepts (placement : Placement) (closed : Bool) (point : Nat) : Bool :=
  let scaled := point * placement.scale
  if closed then placement.lower ≤ scaled && scaled ≤ placement.upper
  else placement.lower < scaled && scaled < placement.upper

/-- The grid point next to the number that reads back as it, the nearer of two, the even one of two
equally near. -/
def Placement.nearest? (placement : Placement) (closed : Bool) : Option Nat :=
  let floor := placement.value / placement.scale
  let down := 0 < floor && placement.accepts closed floor
  let up := placement.accepts closed (floor + 1)
  let downDistance := placement.value - floor * placement.scale
  let upDistance := (floor + 1) * placement.scale - placement.value
  match down, up with
  | true, true =>
    if downDistance < upDistance then some floor
    else if upDistance < downDistance then some (floor + 1)
    else if floor % 2 = 0 then some floor else some (floor + 1)
  | true, false => some floor
  | false, true => some (floor + 1)
  | false, false => none

/-- The first hit on ever finer grids. -/
def search (significand : Nat) (exponent : Int) : (fuel : Nat) -> (gridExponent : Int) -> Decimal
  | 0, gridExponent => ⟨significand, gridExponent⟩
  | fuel + 1, gridExponent =>
    match (place significand exponent gridExponent).nearest? (significand % 2 = 0) with
    | some point => trimZeros 20 ⟨point, gridExponent⟩
    | none => search significand exponent fuel (gridExponent - 1)

/-- The shortest decimal of a positive number `significand * 2 ^ exponent`. -/
def shortest (significand : Nat) (exponent : Int) : Decimal :=
  let magnitude := ((Nat.log2 significand : Int) + exponent) * 1233 / 4096
  search significand exponent 24 (magnitude + 2)

/-- A positive number `significand * 2 ^ exponent` rounded to a number of significant digits. -/
def rounded (places : Nat) (significand : Nat) (exponent : Int) : Decimal :=
  let near := shortest significand exponent
  let gridExponent := near.exponent + (Nat.toDigits 10 near.digits).length - places
  let numerator := significand * 2 ^ exponent.toNat * 10 ^ (-gridExponent).toNat
  let denominator := 2 ^ (-exponent).toNat * 10 ^ gridExponent.toNat
  trimZeros places ⟨roundHalfEven numerator denominator, gridExponent⟩

end Decimal

/-- How a decimal is laid out: which exponents are written positionally, whether whole numbers keep a
fraction, with an exponent or without, and how many digits an exponent has at least. -/
structure Layout where
  positionalFrom : Int
  positionalBelow : Int
  wholeFraction : String
  scaledFraction : String
  exponentDigits : Nat
  undefined : String
  infinity : String

namespace Layout

/-- Lay out a decimal without its sign. -/
def decimalText (layout : Layout) (decimal : Decimal) : String :=
  let digits := Nat.toDigits 10 decimal.digits
  let scientific := decimal.exponent + digits.length - 1
  if layout.positionalFrom ≤ scientific ∧ scientific < layout.positionalBelow then
    if 0 ≤ decimal.exponent then
      String.ofList (digits ++ List.replicate decimal.exponent.toNat '0') ++ layout.wholeFraction
    else if 0 ≤ scientific then
      let whole := (scientific + 1).toNat
      String.ofList (digits.take whole) ++ "." ++ String.ofList (digits.drop whole)
    else
      "0." ++ String.ofList (List.replicate (-scientific - 1).toNat '0' ++ digits)
  else
    let fraction :=
      if digits.length ≤ 1 then layout.scaledFraction else "." ++ String.ofList (digits.drop 1)
    String.ofList (digits.take 1) ++ fraction ++ "e" ++ (if scientific < 0 then "-" else "+") ++
      padZeros layout.exponentDigits (natText scientific.natAbs)

/-- Lay out a number. -/
def text (layout : Layout) : Binary64 -> String
  | .finite negative significand exponent =>
    let unsigned :=
      if significand = 0 then "0" ++ layout.wholeFraction
      else layout.decimalText (Decimal.shortest significand exponent)
    if negative then "-" ++ unsigned else unsigned
  | .infinite negative => if negative then "-" ++ layout.infinity else layout.infinity
  | .nan => layout.undefined

/-- Numbers shown to people: positional from `10 ^ -4` to below `10 ^ 16`, always with a fraction or
an exponent of at least two digits. -/
def plain : Layout := ⟨-4, 16, ".0", "", 2, "nan", "inf"⟩

/-- Numbers in exchanged data: as shown to people, with the names of the extended numbers. -/
def exchange : Layout := { plain with undefined := "NaN", infinity := "Infinity" }

end Layout

/-- The number nearest to `digits * 10 ^ exponent`. Beyond the four-hundredth power of ten the result is
infinite or zero without being computed. -/
def Binary64.ofDecimal (negative : Bool) (digits : Nat) (exponent : Int) : Binary64 :=
  if digits = 0 then .finite negative 0 leastExponent
  else if 400 < exponent then .infinite negative
  else if exponent + (Nat.log2 digits / 3 + 1 : Nat) < -400 then .finite negative 0 leastExponent
  else if 0 ≤ exponent then ofRatio negative (digits * 10 ^ exponent.toNat) 1
  else ofRatio negative digits (10 ^ (-exponent).toNat)

example : Layout.plain.text (Binary64.ofDecimal false 1 (-5)) = "1e-05" := by decide +kernel
example : Layout.plain.text (Binary64.ofDecimal false 1 16) = "1e+16" := by decide +kernel
example : Layout.plain.text (Binary64.ofDecimal true 25 (-1)) = "-2.5" := by decide +kernel
example : Layout.exchange.text (Binary64.ofDecimal false 1 400) = "Infinity" := by decide +kernel

end RepoSurvey.Number

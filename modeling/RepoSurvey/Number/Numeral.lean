import RepoSurvey.Number.Decimal
import RepoSurvey.Text.Blank

/-!
# Numerals

Numbers written by people: white space around them, a sign, digits in groups joined by single
underscores, and for real numbers a point, an exponent or the name of an extended number.

Every script's decimal digits come in runs of ten consecutive code points, zero first.
-/

namespace RepoSurvey.Text

/-- Code points of the zeros of all scripts, in increasing order. -/
def digitZeros : List Nat := [
  48, 1632, 1776, 1984, 2406, 2534, 2662, 2790, 2918, 3046, 3174, 3302, 3430, 3558,
  3664, 3792, 3872, 4160, 4240, 6112, 6160, 6470, 6608, 6784, 6800, 6992, 7088, 7232,
  7248, 42528, 43216, 43264, 43472, 43504, 43600, 44016, 65296, 66720, 68912, 69734, 69872, 69942,
  70096, 70384, 70736, 70864, 71248, 71360, 71472, 71904, 72016, 72784, 73040, 73120, 92768, 92864,
  93008, 120782, 120792, 120802, 120812, 120822, 123200, 123632, 125264, 130032]

/-- The value of a decimal digit of any script. -/
def digitValue? (c : Char) : Option Nat :=
  if c.toNat < 128 then
    if c.isDigit then some (c.toNat - 48) else none
  else
    (digitZeros.find? fun start => start ≤ c.toNat && c.toNat < start + 10).map (c.toNat - ·)

/-- A digit's value is below ten. -/
theorem digitValue?_lt {c : Char} {value : Nat} (digit : digitValue? c = some value) :
    value < 10 := by
  unfold digitValue? at digit
  split at digit
  · next small =>
    split at digit
    · next isDigit =>
      have bounds : 48 ≤ c.toNat ∧ c.toNat ≤ 57 := by
        simp only [Char.isDigit, ge_iff_le, Bool.and_eq_true, decide_eq_true_eq] at isDigit
        exact ⟨isDigit.1, isDigit.2⟩
      simp only [Option.some.injEq] at digit
      omega
    · simp at digit
  · simp only [Option.map_eq_some_iff] at digit
    obtain ⟨start, found, rfl⟩ := digit
    have inside := List.find?_some found
    simp only [Bool.and_eq_true, decide_eq_true_eq] at inside
    omega

end RepoSurvey.Text

namespace RepoSurvey.Number

/-- White space allowed around a numeral: blank characters other than the information separators. -/
def isNumeralSpace (c : Char) : Bool :=
  Text.isBlank c && !(0x1C ≤ c.toNat && c.toNat ≤ 0x1F)

/-- Remove the white space around a numeral. -/
def trimNumeral (chars : List Char) : List Char := Text.trimBy isNumeralSpace chars

/-- Split off a sign; true for a minus. -/
def splitSign : List Char -> Bool × List Char
  | '-' :: rest => (true, rest)
  | '+' :: rest => (false, rest)
  | rest => (false, rest)

/-- Apply a sign to a magnitude. -/
def signed (negative : Bool) (magnitude : Nat) : Int :=
  if negative then -(magnitude : Int) else magnitude

/-- The value of a seven-bit decimal digit. -/
def plainDigit? (c : Char) : Option Nat := if c.isDigit then some (c.toNat - 48) else none

/-- The digits at the head of a text, single underscores between them allowed, and what follows them.
Nothing if an underscore does not stand between two digits. -/
def spanGroups (digit? : Char -> Option Nat) (afterDigit : Bool) :
    List Char -> Option (List Nat × List Char)
  | [] => some ([], [])
  | c :: rest =>
    match digit? c with
    | some digit => (spanGroups digit? true rest).map fun found => (digit :: found.1, found.2)
    | none =>
      if c = '_' then
        if afterDigit && (rest.head?.bind digit?).isSome then spanGroups digit? false rest else none
      else some ([], c :: rest)

/-- Why a text is no integer. -/
inductive IntegerFlaw where
  | malformed
  | overlong (digits : Nat)
  deriving DecidableEq, Repr

/-- Read an integer in the digits of any script, of at most `limit` digits. -/
def readInteger (limit : Nat) (text : List Char) : Except IntegerFlaw Int :=
  let (negative, body) := splitSign (trimNumeral text)
  match spanGroups Text.digitValue? false body with
  | none => .error .malformed
  | some (digits, rest) =>
    if limit < digits.length then .error (.overlong digits.length)
    else if digits.isEmpty || !rest.isEmpty then .error .malformed
    else .ok (signed negative (ofDigits digits))

/-- Split off leading seven-bit digits. -/
def splitDigits (chars : List Char) : List Nat × List Char :=
  ((chars.takeWhile Char.isDigit).map (·.toNat - 48), chars.dropWhile Char.isDigit)

/-- The exponent of a real numeral, which must reach the end of the text. -/
def realExponent? : List Char -> Option Int
  | [] => some 0
  | mark :: rest =>
    if mark = 'e' || mark = 'E' then
      let (negative, body) := splitSign rest
      let (digits, after) := splitDigits body
      if digits.isEmpty || !after.isEmpty then none else some (signed negative (ofDigits digits))
    else none

/-- Read an unsigned decimal: digits on at least one side of an optional point and an optional
exponent. -/
def realMagnitude? (negative : Bool) (chars : List Char) : Option Binary64 :=
  let (whole, rest) := splitDigits chars
  let (fraction, rest) : List Nat × List Char :=
    match rest with
    | '.' :: rest => splitDigits rest
    | rest => ([], rest)
  if whole.isEmpty && fraction.isEmpty then none
  else
    (realExponent? rest).map fun exponent =>
      Binary64.ofDecimal negative (ofDigits (whole ++ fraction)) (exponent - fraction.length)

/-- Read a real numeral in plain digits without underscores. -/
def readReal? (chars : List Char) : Option Binary64 :=
  let (negative, body) := splitSign chars
  let name := String.ofList (body.map Char.toLower)
  if name = "inf" || name = "infinity" then some (.infinite negative)
  else if name = "nan" then some .nan
  else realMagnitude? negative body

/-- Drop underscores that stand between two digits; nothing if one stands elsewhere. -/
def joinGroups? (previous : Char) : List Char -> Option (List Char)
  | [] => if previous = '_' then none else some []
  | c :: rest =>
    if c = '_' then if previous.isDigit then joinGroups? c rest else none
    else if previous = '_' && !c.isDigit then none
    else (joinGroups? c rest).map (c :: ·)

/-- Read a real numeral in the digits of any script, with underscores between digits. -/
def readGroupedReal? (text : List Char) : Option Binary64 :=
  let plain := (trimNumeral text).map fun c =>
    match Text.digitValue? c with
    | some digit => Char.ofNat (48 + digit)
    | none => c
  (joinGroups? ' ' plain).bind readReal?

example : readInteger 10 " -1_000 ".toList = .ok (-1000) := by cbv
example : readInteger 10 "1__0".toList = .error .malformed := by cbv

end RepoSurvey.Number

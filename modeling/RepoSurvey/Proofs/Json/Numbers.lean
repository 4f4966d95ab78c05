import RepoSurvey.Json.Reader
import RepoSurvey.Json.Writer
import RepoSurvey.Proofs.Number.Digits
import RepoSurvey.Proofs.Number.Shortest

/-!
# Numbers of JSON

A written number is read back: an integer as the same integer, a double in canonical form as the same
double, negative zero, the infinities and the undefined number included.
-/

namespace RepoSurvey.Json

open Number (Binary64 Decimal Layout StopsDigits dropWhile_digits intText isDigit_toDigits natText
  ofDigits ofDigits_append ofDigits_toDigits padded stopsDigits_cons takeWhile_digits toList_natText)

/-- What a reading comes to: a value, with a rest of the text still to be read. -/
def Reaches {α : Type} (reading : Reading α) (value : α) (rest : List Char) : Prop :=
  ∃ position, reading = .ok (value, ⟨rest, position⟩)

/-- A text at whose head a number does not go on. -/
def StopsNumber (rest : List Char) : Prop :=
  ∀ c ∈ rest.head?, c.isDigit = false ∧ c ≠ '.' ∧ c ≠ 'e' ∧ c ≠ 'E'

/-- A number does not go on in nothing. -/
@[simp] theorem stopsNumber_nil : StopsNumber [] := by simp [StopsNumber]

/-- Where a number does not go on, no digit stands. -/
theorem StopsNumber.digits {rest : List Char} (stops : StopsNumber rest) : StopsDigits rest :=
  fun c head => (stops c head).1

/-! ## Spellings -/

/-- How a number is spelled: digits, a fraction, and an exponent, which is negative or not. -/
structure Spelling where
  whole : List Char
  fraction : List Char
  exponent : Option (Bool × List Char)

namespace Spelling

/-- The exponent with its mark and its sign. -/
def exponentText (spelling : Spelling) : List Char :=
  match spelling.exponent with
  | none => []
  | some (negative, digits) => 'e' :: (if negative then '-' else '+') :: digits

/-- The fraction with its point. -/
def fractionText (spelling : Spelling) : List Char :=
  if spelling.fraction.isEmpty then [] else '.' :: spelling.fraction

/-- The text of a spelling. -/
def text (spelling : Spelling) : List Char :=
  spelling.whole ++ spelling.fractionText ++ spelling.exponentText

/-- The power of ten that the exponent stands for. -/
def scale (spelling : Spelling) : Int :=
  match spelling.exponent with
  | none => 0
  | some (negative, digits) =>
    if negative then -(ofDigits (digits.map (·.toNat - 48)) : Int)
    else ofDigits (digits.map (·.toNat - 48))

/-- All digits, those of the fraction included, as a number. -/
def digits (spelling : Spelling) : Nat :=
  ofDigits ((spelling.whole ++ spelling.fraction).map (·.toNat - 48))

/-- The power of ten of the last digit. -/
def power (spelling : Spelling) : Int := spelling.scale - spelling.fraction.length

/-- The rational that is spelled. -/
def value (spelling : Spelling) : ℚ := spelling.digits * 10 ^ spelling.power

/-- A spelling with digits where digits belong, and without needless zeros at the beginning. -/
structure Regular (spelling : Spelling) : Prop where
  whole : spelling.whole = ['0'] ∨ spelling.whole ≠ [] ∧ spelling.whole.head? ≠ some '0'
  wholeDigits : ∀ c ∈ spelling.whole, c.isDigit = true
  fractionDigits : ∀ c ∈ spelling.fraction, c.isDigit = true
  exponentDigits : ∀ negative digits, spelling.exponent = some (negative, digits) ->
    digits ≠ [] ∧ ∀ c ∈ digits, c.isDigit = true

variable {spelling : Spelling} {rest : List Char}

/-- A fraction is split off. -/
theorem spanFraction_text (regular : spelling.Regular) (stops : StopsDigits rest)
    (noPoint : rest.head? ≠ some '.') :
    spanFraction (spelling.fractionText ++ rest) =
      (spelling.fraction.map (·.toNat - 48), rest) := by
  unfold fractionText
  by_cases none : spelling.fraction = []
  · rw [none, List.isEmpty_nil, if_pos rfl, List.nil_append]
    cases rest with
    | nil => rfl
    | cons c rest =>
      have other : c ≠ '.' := by simpa using noPoint
      simp [spanFraction, other]
  · have some : spelling.fraction.isEmpty = false := by simpa using none
    simp only [some, Bool.false_eq_true, if_false, List.cons_append, spanFraction, spanDigits,
      takeWhile_digits regular.fractionDigits stops, dropWhile_digits regular.fractionDigits stops]
    simp [none]

/-- An exponent is split off. -/
theorem spanExponent_text (regular : spelling.Regular) (stops : StopsNumber rest) :
    spanExponent (spelling.exponentText ++ rest) =
      (spelling.exponent.map fun exponent => (spelling.scale, 2 + exponent.2.length), rest) := by
  unfold exponentText scale
  split
  · rename_i none
    rw [none, List.nil_append]
    cases rest with
    | nil => rfl
    | cons c rest =>
      obtain ⟨-, -, noMark, noGreatMark⟩ := stops c rfl
      unfold spanExponent
      split
      · rename_i same
        exact absurd (List.cons.inj same).1 noMark
      · rename_i same
        exact absurd (List.cons.inj same).1 noGreatMark
      · rfl
  · rename_i negative digits some
    obtain ⟨nonempty, allDigits⟩ := regular.exponentDigits negative digits some
    have present : (digits.map fun c => c.toNat - 48).isEmpty = false := by simpa using nonempty
    cases negative <;>
      simp [spanExponent, spanDigits, takeWhile_digits allDigits stops.digits,
        dropWhile_digits allDigits stops.digits, some, nonempty]

/-- A spelling begins with a digit. -/
theorem Regular.first (regular : spelling.Regular) :
    ∃ c others, spelling.whole = c :: others ∧ c.isDigit = true := by
  rcases regular.whole with zero | ⟨nonempty, -⟩
  · exact ⟨'0', [], zero, rfl⟩
  · obtain ⟨c, others, found⟩ := List.exists_cons_of_ne_nil nonempty
    exact ⟨c, others, found, regular.wholeDigits c (by rw [found]; exact .head _)⟩

/-- What a spelling is read as: an integer when it has neither a fraction nor an exponent. -/
def number (negative : Bool) (spelling : Spelling) : Json :=
  if spelling.fraction.isEmpty ∧ spelling.exponent.isNone then
    .int (if negative then -(spelling.digits : Int) else spelling.digits)
  else .float (Binary64.ofDecimal negative spelling.digits spelling.power)

/-- The text of a spelling behind its sign. -/
def signedText (negative : Bool) (spelling : Spelling) : List Char :=
  if negative then '-' :: spelling.text else spelling.text

/-- The digits before the fraction are split off. -/
theorem spanWhole?_text (regular : spelling.Regular) (stops : StopsDigits rest) :
    spanWhole? (spelling.whole ++ rest) = some (spelling.whole.map (·.toNat - 48), rest) := by
  rcases regular.whole with zero | ⟨nonempty, noZero⟩
  · rw [zero]
    rfl
  · obtain ⟨c, others, found⟩ := List.exists_cons_of_ne_nil nonempty
    have isDigit : c.isDigit = true := regular.wholeDigits c (by rw [found]; exact .head _)
    have spanned : spanDigits (spelling.whole ++ rest) = (spelling.whole.map (·.toNat - 48), rest) := by
      rw [spanDigits, takeWhile_digits regular.wholeDigits stops,
        dropWhile_digits regular.wholeDigits stops]
    rw [← spanned, found, List.cons_append, spanWhole?.eq_def]
    split
    · rename_i same
      rw [found, (List.cons.inj same).1] at noZero
      exact absurd rfl noZero
    · rename_i same
      cases same
      rw [if_pos isDigit]
    · rename_i same
      cases same

/-- A minus sign is split off. -/
theorem splitMinus_signedText (negative : Bool) (regular : spelling.Regular) :
    splitMinus (spelling.signedText negative ++ rest) = (negative, spelling.text ++ rest) := by
  cases negative with
  | true => rfl
  | false =>
    obtain ⟨c, others, found, isDigit⟩ := regular.first
    have noSign : c ≠ '-' := by
      rintro rfl
      cases isDigit
    simp only [signedText, Bool.false_eq_true, if_false, text, found, List.cons_append]
    rw [splitMinus.eq_def]
    split
    · rename_i same
      exact absurd (List.cons.inj same).1 noSign
    · rfl

/-- A spelled number is read back, unless it is an integer of too many digits. -/
theorem reaches_readNumber {negative : Bool} {position : Nat} (regular : spelling.Regular)
    (stops : StopsNumber rest)
    (short : spelling.fraction = [] -> spelling.exponent = none ->
      spelling.whole.length ≤ integerDigitLimit) :
    Reaches (readNumber ⟨spelling.signedText negative ++ rest, position⟩)
      (spelling.number negative) rest := by
  have behindFraction : ∀ c ∈ (spelling.exponentText ++ rest).head?,
      c.isDigit = false ∧ c ≠ '.' := by
    intro c head
    cases exponent : spelling.exponent with
    | none =>
      simp only [exponentText, exponent, List.nil_append] at head
      exact ⟨(stops c head).1, (stops c head).2.1⟩
    | some given =>
      simp only [exponentText, exponent, List.cons_append, List.head?_cons, Option.mem_some_iff] at head
      subst head
      decide
  have behindWhole : StopsDigits (spelling.fractionText ++ (spelling.exponentText ++ rest)) := by
    unfold fractionText
    split
    · exact fun c head => (behindFraction c head).1
    · rw [List.cons_append, stopsDigits_cons]
      decide
  have noPoint : (spelling.exponentText ++ rest).head? ≠ some '.' :=
    fun head => (behindFraction '.' head).2 rfl
  have stopsFraction : StopsDigits (spelling.exponentText ++ rest) :=
    fun c head => (behindFraction c head).1
  simp only [Reaches, readNumber, splitMinus_signedText negative regular, text, List.append_assoc,
    spanWhole?_text regular behindWhole, spanFraction_text regular stopsFraction noPoint,
    spanExponent_text regular stops]
  by_cases plain : spelling.fraction = [] ∧ spelling.exponent = none
  · obtain ⟨noFraction, noExponent⟩ := plain
    have fits : ¬ integerDigitLimit < spelling.whole.length :=
      Nat.not_lt.mpr (short noFraction noExponent)
    simp [noFraction, noExponent, fits, number, digits]
  · have notPlain : ¬ ((spelling.fraction.map (·.toNat - 48)).isEmpty = true ∧
        (spelling.exponent.map fun exponent => (spelling.scale, 2 + exponent.2.length)).isNone =
          true) := by
      simpa using plain
    have notInteger : ¬ (spelling.fraction.isEmpty = true ∧ spelling.exponent.isNone = true) := by
      simpa using plain
    rw [if_neg notPlain, number, if_neg notInteger]
    have power : ((spelling.exponent.map fun exponent =>
        (spelling.scale, 2 + exponent.2.length)).map (·.1)).getD 0 = spelling.scale := by
      cases exponent : spelling.exponent <;> simp [scale, exponent]
    simp only [power, List.length_map, ← List.map_append]
    exact ⟨_, rfl⟩

end Spelling

/-! ## Decimals -/

/-- The first written digit of a positive number is no zero. -/
theorem head?_toDigits {value : Nat} (positive : 0 < value) :
    (Nat.toDigits 10 value).head? ≠ some '0' := by
  induction value using Nat.strong_induction_on with
  | _ value inductionHypothesis =>
    rw [Nat.toDigits_eq_if (by decide)]
    split
    · simp only [List.head?_cons, ne_eq, Option.some.injEq, Nat.digitChar_eq_zero]
      omega
    · rw [List.head?_append_of_ne_nil _ Nat.toDigits_ne_nil]
      exact inductionHypothesis (value / 10) (by omega) (by omega)

/-- Digits followed by zeros stand for a multiple of a power of ten. -/
theorem ofDigits_zeros_behind (value count : Nat) :
    ofDigits ((Nat.toDigits 10 value ++ List.replicate count '0').map (·.toNat - 48)) =
      value * 10 ^ count := by
  rw [Number.ofDigits_map, Nat.ofDigitChars_append, Nat.ofDigitChars_ten_toDigits,
    Nat.ofDigitChars_replicate_zero, Nat.mul_comm]

/-- Zeros before digits do not count. -/
theorem ofDigits_zeros_before (value count : Nat) :
    ofDigits ((List.replicate count '0' ++ Nat.toDigits 10 value).map (·.toNat - 48)) = value := by
  rw [Number.ofDigits_map, Nat.ofDigitChars_append, Nat.ofDigitChars_replicate_zero, Nat.mul_zero,
    Nat.ofDigitChars_ten_toDigits]

/-- Zeros are digits. -/
theorem isDigit_zeros (count : Nat) : ∀ c ∈ List.replicate count '0', c.isDigit = true := by
  intro c member
  rw [List.eq_of_mem_replicate member]
  rfl

namespace Spelling

variable {decimal : Decimal}

/-- The spelling of a decimal whose digits, with zeros behind them, all stand before the point. -/
def ofWhole (decimal : Decimal) : Spelling :=
  ⟨Nat.toDigits 10 decimal.digits ++ List.replicate decimal.exponent.toNat '0', ['0'], none⟩

/-- The spelling of a decimal whose first digits stand before the point. -/
def ofSplit (decimal : Decimal) (count : Nat) (exponent : Option (Bool × List Char)) : Spelling :=
  ⟨(Nat.toDigits 10 decimal.digits).take count, (Nat.toDigits 10 decimal.digits).drop count, exponent⟩

/-- The spelling of a decimal whose digits, with zeros before them, all stand behind the point. -/
def ofFraction (decimal : Decimal) (zeros : Nat) : Spelling :=
  ⟨['0'], List.replicate zeros '0' ++ Nat.toDigits 10 decimal.digits, none⟩

/-- The spelling of a whole decimal is regular. -/
theorem regular_ofWhole (positive : 0 < decimal.digits) : (ofWhole decimal).Regular where
  whole := by
    refine .inr ⟨by simp [ofWhole], ?_⟩
    rw [ofWhole, List.head?_append_of_ne_nil _ Nat.toDigits_ne_nil]
    exact head?_toDigits positive
  wholeDigits := by
    intro c member
    rcases List.mem_append.mp member with member | member
    · exact isDigit_toDigits c member
    · exact isDigit_zeros _ c member
  fractionDigits := by simp [ofWhole]
  exponentDigits := by simp [ofWhole]

/-- The value of a whole decimal is spelled. -/
theorem value_ofWhole (whole : 0 ≤ decimal.exponent) : (ofWhole decimal).value = decimal.value := by
  obtain ⟨power, isPower⟩ := Int.eq_ofNat_of_zero_le whole
  have digits : (ofWhole decimal).digits = decimal.digits * 10 ^ (power + 1) := by
    rw [Spelling.digits, ofWhole, List.append_assoc, isPower, Int.toNat_natCast,
      ← List.replicate_succ', ofDigits_zeros_behind]
  have tens : (ofWhole decimal).power = -1 := rfl
  rw [value, Decimal.value, digits, tens, isPower]
  push_cast
  rw [pow_succ, zpow_natCast]
  norm_num
  ring

/-- The spelling of a decimal that is split is regular, if its exponent is. -/
theorem regular_ofSplit {count : Nat} {exponent : Option (Bool × List Char)}
    (positive : 0 < decimal.digits) (some : 0 < count)
    (exponentDigits : ∀ negative digits, exponent = .some (negative, digits) ->
      digits ≠ [] ∧ ∀ c ∈ digits, c.isDigit = true) : (ofSplit decimal count exponent).Regular where
  whole := by
    obtain ⟨first, others, found⟩ :=
      List.exists_cons_of_ne_nil (Nat.toDigits_ne_nil (n := decimal.digits) (b := 10))
    have noZero := head?_toDigits positive
    obtain ⟨count, rfl⟩ := Nat.exists_eq_succ_of_ne_zero some.ne'
    rw [found] at noZero
    refine .inr ⟨?_, ?_⟩
    · simp [ofSplit, found]
    · simpa [ofSplit, found] using noZero
  wholeDigits := fun c member => isDigit_toDigits c (List.mem_of_mem_take member)
  fractionDigits := fun c member => isDigit_toDigits c (List.mem_of_mem_drop member)
  exponentDigits := exponentDigits

/-- The digits of a decimal that is split are its digits. -/
theorem digits_ofSplit (count : Nat) (exponent : Option (Bool × List Char)) :
    (ofSplit decimal count exponent).digits = decimal.digits := by
  rw [Spelling.digits, ofSplit, List.take_append_drop, ofDigits_toDigits]

/-- The spelling of a decimal behind the point is regular. -/
theorem regular_ofFraction (zeros : Nat) : (ofFraction decimal zeros).Regular where
  whole := .inl rfl
  wholeDigits := by simp [ofFraction]
  fractionDigits := by
    intro c member
    rcases List.mem_append.mp member with member | member
    · exact isDigit_zeros _ c member
    · exact isDigit_toDigits c member
  exponentDigits := by simp [ofFraction]

/-- The digits of a decimal behind the point are its digits. -/
theorem digits_ofFraction (zeros : Nat) : (ofFraction decimal zeros).digits = decimal.digits :=
  ofDigits_zeros_before decimal.digits (zeros + 1)

/-- A spelling with the digits and the power of a decimal has its value. -/
theorem value_eq {spelling : Spelling} (digits : spelling.digits = decimal.digits)
    (power : spelling.power = decimal.exponent) : spelling.value = decimal.value := by
  rw [value, Decimal.value, digits, power]

end Spelling

/-- A decimal that is laid out is spelled regularly, with a fraction or an exponent, and with its value. -/
theorem spelling_decimalText {layout : Layout} (wholeFraction : layout.wholeFraction = ".0")
    (scaledFraction : layout.scaledFraction = "") {decimal : Decimal} (positive : 0 < decimal.digits) :
    ∃ spelling : Spelling, spelling.Regular ∧
      ¬ (spelling.fraction = [] ∧ spelling.exponent = none) ∧
      (layout.decimalText decimal).toList = spelling.text ∧ spelling.value = decimal.value := by
  have long : 0 < (Nat.toDigits 10 decimal.digits).length := Nat.length_toDigits_pos
  simp only [Layout.decimalText]
  split
  · split
    · rename_i whole
      refine ⟨.ofWhole decimal, Spelling.regular_ofWhole positive, by simp [Spelling.ofWhole], ?_,
        Spelling.value_ofWhole whole⟩
      simp [wholeFraction, Spelling.text, Spelling.fractionText, Spelling.exponentText,
        Spelling.ofWhole]
    · split
      · rename_i notWhole above
        have some : 0 < (decimal.exponent + (Nat.toDigits 10 decimal.digits).length - 1 + 1).toNat := by
          omega
        have more : (decimal.exponent + (Nat.toDigits 10 decimal.digits).length - 1 + 1).toNat <
            (Nat.toDigits 10 decimal.digits).length := by omega
        generalize count : (decimal.exponent + (Nat.toDigits 10 decimal.digits).length - 1 + 1).toNat =
          places at *
        have fraction : (Nat.toDigits 10 decimal.digits).drop places ≠ [] := by
          simpa [List.drop_eq_nil_iff] using more
        refine ⟨.ofSplit decimal places none,
          Spelling.regular_ofSplit positive some (by simp), by simp [Spelling.ofSplit, fraction], ?_,
          Spelling.value_eq (Spelling.digits_ofSplit _ _) ?_⟩
        · simp [Spelling.text, Spelling.fractionText, Spelling.exponentText, Spelling.ofSplit,
            fraction]
        · simp only [Spelling.power, Spelling.scale, Spelling.ofSplit, List.length_drop]
          omega
      · rename_i notWhole below
        generalize count : (-(decimal.exponent + (Nat.toDigits 10 decimal.digits).length - 1) - 1).toNat =
          zeros at *
        refine ⟨.ofFraction decimal zeros, Spelling.regular_ofFraction zeros,
          by simp [Spelling.ofFraction], ?_,
          Spelling.value_eq (Spelling.digits_ofFraction _) ?_⟩
        · simp [Spelling.text, Spelling.fractionText, Spelling.exponentText, Spelling.ofFraction]
        · simp only [Spelling.power, Spelling.scale, Spelling.ofFraction, List.length_append,
            List.length_replicate]
          omega
  · generalize isScientific : decimal.exponent + (Nat.toDigits 10 decimal.digits).length - 1 =
      scientific at *
    refine ⟨.ofSplit decimal 1 (some (decide (scientific < 0), padded layout.exponentDigits scientific.natAbs)),
      Spelling.regular_ofSplit positive one_pos ?_, by simp [Spelling.ofSplit], ?_,
      Spelling.value_eq (Spelling.digits_ofSplit _ _) ?_⟩
    · rintro negative digits same
      cases same
      exact ⟨by simp [padded], Number.isDigit_padded⟩
    · by_cases short : (Nat.toDigits 10 decimal.digits).length ≤ 1
      · have nothing : (Nat.toDigits 10 decimal.digits).tail = [] := by
          rw [← List.drop_one]
          exact List.drop_eq_nil_iff.mpr short
        by_cases negative : scientific < 0 <;>
          simp [short, scaledFraction, Spelling.text, Spelling.fractionText, Spelling.exponentText,
            Spelling.ofSplit, nothing, Number.toList_padZeros, negative]
      · have some : (Nat.toDigits 10 decimal.digits).tail ≠ [] := by
          rw [← List.drop_one]
          exact fun nothing => short (List.drop_eq_nil_iff.mp nothing)
        by_cases negative : scientific < 0 <;>
          simp [short, Spelling.text, Spelling.fractionText, Spelling.exponentText,
            Spelling.ofSplit, some, Number.toList_padZeros, negative]
    · simp only [Spelling.power, Spelling.scale, Spelling.ofSplit, Number.ofDigits_padded,
        List.length_drop, decide_eq_true_eq]
      split <;> omega

/-! ## Written numbers -/

/-- A text that begins like a number: with a digit, or with a minus sign and a digit. -/
def StartsNumber (text : List Char) : Prop :=
  ∃ c others, c.isDigit = true ∧ (text = c :: others ∨ text = '-' :: c :: others)

/-- What is spelled regularly begins like a number. -/
theorem Spelling.Regular.startsNumber {spelling : Spelling} (regular : spelling.Regular)
    (negative : Bool) : StartsNumber (spelling.signedText negative) := by
  obtain ⟨c, others, found, isDigit⟩ := regular.first
  refine ⟨c, others ++ spelling.fractionText ++ spelling.exponentText, isDigit, ?_⟩
  cases negative
  · exact .inl (by simp [signedText, text, found])
  · exact .inr (by simp [signedText, text, found])

/-- The digits of an integer are a spelling. -/
def integerSpelling (value : Nat) : Spelling := ⟨Nat.toDigits 10 value, [], none⟩

/-- The spelling of an integer is regular. -/
theorem regular_integerSpelling (value : Nat) : (integerSpelling value).Regular where
  whole := by
    rcases Nat.eq_zero_or_pos value with rfl | positive
    · exact .inl rfl
    · exact .inr ⟨Nat.toDigits_ne_nil, head?_toDigits positive⟩
  wholeDigits := isDigit_toDigits
  fractionDigits := by simp [integerSpelling]
  exponentDigits := by simp [integerSpelling]

/-- The digits of an integer are read as the integer. -/
theorem number_integerSpelling (value : Int) :
    (integerSpelling value.natAbs).number (decide (value < 0)) = .int value := by
  have digits : (integerSpelling value.natAbs).digits = value.natAbs := by
    simp [Spelling.digits, integerSpelling]
  rw [Spelling.number, if_pos ⟨rfl, rfl⟩, digits]
  congr 1
  by_cases negative : value < 0
  · simp only [negative, decide_true, if_true]
    omega
  · simp only [negative, decide_false, Bool.false_eq_true, if_false]
    omega

variable {rest : List Char} {position : Nat}

/-- A written integer is the spelling of its digits behind its sign. -/
theorem toList_intText (value : Int) :
    (intText value).toList = (integerSpelling value.natAbs).signedText (decide (value < 0)) := by
  by_cases negative : value < 0 <;>
    simp [intText, negative, Spelling.signedText, Spelling.text, Spelling.fractionText,
      Spelling.exponentText, integerSpelling]

/-- A written integer begins like a number. -/
theorem startsNumber_intText (value : Int) : StartsNumber (intText value).toList := by
  rw [toList_intText]
  exact (regular_integerSpelling _).startsNumber _

/-- A written integer is read back. -/
theorem reaches_readNumber_int {value : Int} (fits : integerFits value = true)
    (stops : StopsNumber rest) :
    Reaches (readNumber ⟨(intText value).toList ++ rest, position⟩) (.int value) rest := by
  rw [toList_intText, ← number_integerSpelling value]
  refine Spelling.reaches_readNumber (regular_integerSpelling _) stops fun _ _ => ?_
  have positive : 0 < writtenDigitLimit := by decide
  exact (Nat.length_toDigits_le_iff (by decide) positive).mpr (of_decide_eq_true fits)

/-- A decimal that is laid out begins with a digit. -/
theorem decimalText_begins (layout : Layout) (decimal : Decimal) :
    ∃ c others, c.isDigit = true ∧ (layout.decimalText decimal).toList = c :: others := by
  have appended : ∀ {text rest : String}, (∃ c others, c.isDigit = true ∧ text.toList = c :: others) ->
      ∃ c others, c.isDigit = true ∧ (text ++ rest).toList = c :: others := by
    rintro text rest ⟨c, others, isDigit, begins⟩
    exact ⟨c, others ++ rest.toList, isDigit, by rw [String.toList_append, begins, List.cons_append]⟩
  obtain ⟨first, more, digits⟩ : ∃ first more, Nat.toDigits 10 decimal.digits = first :: more :=
    List.exists_cons_of_ne_nil Nat.toDigits_ne_nil
  have isDigit : first.isDigit = true := @isDigit_toDigits decimal.digits first (by rw [digits]; exact .head _)
  unfold Layout.decimalText
  rw [digits]
  dsimp only
  split
  · split
    · exact appended ⟨first, _, isDigit, by rw [String.toList_ofList, List.cons_append]⟩
    · split
      · next positional =>
        obtain ⟨size, isSize⟩ : ∃ size, (decimal.exponent + (first :: more).length - 1 + 1).toNat = size + 1 :=
          ⟨_, (Nat.succ_pred_eq_of_pos (by omega)).symm⟩
        rw [isSize]
        exact appended (appended ⟨first, _, isDigit, by rw [String.toList_ofList, List.take_succ_cons]⟩)
      · exact appended ⟨'0', _, rfl, rfl⟩
  · exact appended (appended (appended (appended ⟨first, _, isDigit, String.toList_ofList⟩)))

/-- A written finite double begins like a number. -/
theorem startsNumber_finite (negative : Bool) (significand : Nat) (exponent : Int) :
    StartsNumber (Layout.exchange.text (.finite negative significand exponent)).toList := by
  obtain ⟨c, others, isDigit, begins⟩ : ∃ c others, c.isDigit = true ∧
      (if significand = 0 then "0" ++ Layout.exchange.wholeFraction
        else Layout.exchange.decimalText (Decimal.shortest significand exponent)).toList = c :: others := by
    split
    · exact ⟨'0', _, rfl, rfl⟩
    · exact decimalText_begins _ _
  refine ⟨c, others, isDigit, ?_⟩
  unfold Layout.text
  dsimp only
  cases negative with
  | false => exact .inl begins
  | true =>
    refine .inr ?_
    rw [if_pos rfl, String.toList_append, begins]
    rfl

/-- A written finite double is read back. -/
theorem reaches_readNumber_finite {negative : Bool} {significand : Nat} {exponent : Int}
    (canonical : Binary64.Canonical significand exponent) (stops : StopsNumber rest) :
    Reaches (readNumber ⟨(Layout.exchange.text (.finite negative significand exponent)).toList ++ rest, position⟩)
      (.float (.finite negative significand exponent)) rest := by
  have signed {unsigned : String} {spelling : Spelling} (text : unsigned.toList = spelling.text) :
      (if negative then "-" ++ unsigned else unsigned).toList = spelling.signedText negative := by
    cases negative <;> simp [Spelling.signedText, text]
  by_cases zero : significand = 0
  · subst zero
    have least : exponent = Binary64.leastExponent := by
      rcases canonical.full with impossible | least
      · exact absurd impossible (by decide)
      · exact least
    have text : ("0" ++ Layout.exchange.wholeFraction).toList = Spelling.text ⟨['0'], ['0'], none⟩ := rfl
    have zeros : ∀ c ∈ ['0'], c.isDigit = true := List.forall_mem_singleton.mpr rfl
    have regular : Spelling.Regular ⟨['0'], ['0'], none⟩ := ⟨.inl rfl, zeros, zeros, by simp⟩
    rw [Layout.text, if_pos rfl, signed text, least]
    exact Spelling.reaches_readNumber regular stops (by simp)
  · have positive : 0 < significand := Nat.pos_of_ne_zero zero
    have near := Decimal.near_shortest canonical positive
    have digits : 0 < (Decimal.shortest significand exponent).digits := by
      have bound := (near.bounds canonical positive).1
      have : (0 : ℚ) < 2 ^ (-1075 : Int) := by positivity
      by_contra none
      have none : (Decimal.shortest significand exponent).digits = 0 := by omega
      rw [Decimal.value, none, Nat.cast_zero, zero_mul] at bound
      linarith
    obtain ⟨spelling, regular, notInteger, text, value⟩ :=
      @spelling_decimalText Layout.exchange rfl rfl _ digits
    rw [Layout.text, if_neg zero, signed text]
    rw [← value] at near
    have read := @Spelling.reaches_readNumber _ _ negative position regular stops
      fun noFraction noExponent => absurd ⟨noFraction, noExponent⟩ notInteger
    rw [Spelling.number, if_neg (by simpa using notInteger),
      Binary64.ofDecimal_of_near canonical positive near] at read
    exact read

end RepoSurvey.Json

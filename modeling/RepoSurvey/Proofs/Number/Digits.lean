import Mathlib
import RepoSurvey.Clock.Moment

/-!
# Digits

Decimal digits that are written are read back as the number they were written for, alone, behind other
digits, and padded with zeros to a width.
-/

namespace RepoSurvey.Number

/-- A text at whose head no digit stands. -/
def StopsDigits (rest : List Char) : Prop := ∀ c ∈ rest.head?, c.isDigit = false

/-- No digit stands at the head of nothing. -/
@[simp] theorem stopsDigits_nil : StopsDigits [] := by simp [StopsDigits]

/-- A digit stands at the head or not. -/
@[simp] theorem stopsDigits_cons {c : Char} {rest : List Char} :
    StopsDigits (c :: rest) ↔ c.isDigit = false := by simp [StopsDigits]

/-- The digits at the head of a text are all digits up to where they stop. -/
theorem takeWhile_digits {digits rest : List Char} (allDigits : ∀ c ∈ digits, c.isDigit = true)
    (stops : StopsDigits rest) : (digits ++ rest).takeWhile Char.isDigit = digits := by
  rw [List.takeWhile_append_of_pos allDigits]
  cases rest with
  | nil => simp
  | cons c rest => simp [stopsDigits_cons.mp stops]

/-- What follows the digits at the head of a text. -/
theorem dropWhile_digits {digits rest : List Char} (allDigits : ∀ c ∈ digits, c.isDigit = true)
    (stops : StopsDigits rest) : (digits ++ rest).dropWhile Char.isDigit = rest := by
  rw [List.dropWhile_append_of_pos allDigits]
  cases rest with
  | nil => simp
  | cons c rest => simp [stopsDigits_cons.mp stops]

/-- The written digits of a number are digits. -/
theorem isDigit_toDigits {value : Nat} : ∀ c ∈ Nat.toDigits 10 value, c.isDigit = true :=
  fun _ member => Nat.isDigit_of_mem_toDigits (by decide) (by decide) member

/-- Digits stand for a number as their characters do. -/
theorem ofDigits_map (chars : List Char) :
    ofDigits (chars.map (·.toNat - 48)) = Nat.ofDigitChars 10 chars 0 := by
  have general : ∀ (chars : List Char) (initial : Nat),
      (chars.map (·.toNat - 48)).foldl (fun value digit => value * 10 + digit) initial =
        Nat.ofDigitChars 10 chars initial := by
    intro chars
    induction chars with
    | nil => intro initial; rfl
    | cons c chars inductionHypothesis =>
      intro initial
      rw [List.map_cons, List.foldl_cons, inductionHypothesis, Nat.ofDigitChars_cons,
        Nat.mul_comm 10]
      rfl
  exact general chars 0

/-- Written digits stand for the number they were written for. -/
@[simp] theorem ofDigits_toDigits (value : Nat) :
    ofDigits ((Nat.toDigits 10 value).map (·.toNat - 48)) = value := by
  rw [ofDigits_map, Nat.ofDigitChars_ten_toDigits]

/-- Further digits move the earlier ones up. -/
theorem ofDigits_append (left right : List Nat) :
    ofDigits (left ++ right) = ofDigits left * 10 ^ right.length + ofDigits right := by
  have general : ∀ (right : List Nat) (initial : Nat),
      right.foldl (fun value digit => value * 10 + digit) initial =
        initial * 10 ^ right.length + ofDigits right := by
    intro right
    induction right with
    | nil => simp [ofDigits]
    | cons digit right inductionHypothesis =>
      intro initial
      have alone : ofDigits (digit :: right) = digit * 10 ^ right.length + ofDigits right := by
        rw [ofDigits, List.foldl_cons, inductionHypothesis, Nat.zero_mul, Nat.zero_add]
      rw [List.foldl_cons, inductionHypothesis, alone, List.length_cons, Nat.pow_succ]
      ring
  rw [ofDigits, List.foldl_append, general right]
  rfl

/-- Digits stand for a number of no more digits. -/
theorem ofDigits_lt {chars : List Char} (allDigits : ∀ c ∈ chars, c.isDigit = true) :
    ofDigits (chars.map (·.toNat - 48)) < 10 ^ chars.length := by
  induction chars with
  | nil => decide
  | cons c chars inductionHypothesis =>
    have smaller := inductionHypothesis fun other member => allDigits other (.tail _ member)
    have digit : c.toNat - 48 ≤ 9 := by
      have isDigit := allDigits c (.head _)
      simp only [Char.isDigit, Bool.and_eq_true, decide_eq_true_eq] at isDigit
      have small : c.val.toNat ≤ 57 := UInt32.le_iff_toNat_le.mp isDigit.2
      exact Nat.sub_le_sub_right small 48
    rw [List.map_cons, ← List.singleton_append, ofDigits_append, List.length_map, List.length_cons,
      Nat.pow_succ]
    have alone : ofDigits [c.toNat - 48] = c.toNat - 48 := by simp [ofDigits]
    have scaled := Nat.mul_le_mul_right (10 ^ chars.length) digit
    rw [alone]
    omega

/-- A natural is written in its digits. -/
@[simp] theorem toList_natText (value : Nat) : (natText value).toList = Nat.toDigits 10 value := by
  simp [natText]

/-! ## Digits of a fixed width -/

/-- The digits of a number with zeros before them. -/
def padded (width value : Nat) : List Char :=
  List.replicate (width - (Nat.toDigits 10 value).length) '0' ++ Nat.toDigits 10 value

/-- A padded text consists of padded digits. -/
theorem toList_padZeros (width value : Nat) :
    (padZeros width (natText value)).toList = padded width value := by
  simp [padZeros, padded, natText, String.length_ofList]

/-- Padded digits fill the width. -/
theorem length_padded {width value : Nat} (positive : 0 < width) (fits : value < 10 ^ width) :
    (padded width value).length = width := by
  have short := (Nat.length_toDigits_le_iff (b := 10) (by decide) positive).mpr fits
  simp only [padded, List.length_append, List.length_replicate]
  omega

/-- Padded digits are digits. -/
theorem isDigit_padded {width value : Nat} : ∀ c ∈ padded width value, c.isDigit = true := by
  intro c member
  rcases List.mem_append.mp member with zero | digit
  · obtain rfl := List.eq_of_mem_replicate zero
    rfl
  · exact isDigit_toDigits c digit

/-- Padded digits stand for the number. -/
theorem ofDigits_padded (width value : Nat) :
    ofDigits ((padded width value).map (·.toNat - 48)) = value := by
  rw [ofDigits_map, padded, Nat.ofDigitChars_append, Nat.ofDigitChars_replicate_zero, Nat.mul_zero,
    Nat.ofDigitChars_ten_toDigits]

/-- A number of a fixed width has no more digits. -/
theorem lt_of_takeNumber? {width value : Nat} {chars rest : List Char}
    (taken : Clock.Moment.takeNumber? width chars = some (value, rest)) : value < 10 ^ width := by
  simp only [Clock.Moment.takeNumber?] at taken
  split at taken
  · next fits =>
    rw [Bool.and_eq_true, decide_eq_true_eq] at fits
    obtain ⟨rfl, -⟩ := Prod.mk.inj (Option.some.inj taken)
    have less := ofDigits_lt (List.all_eq_true.mp fits.2)
    rw [fits.1] at less
    exact less
  · nomatch taken

/-- A number of a fixed width is read back. -/
theorem takeNumber?_padded (width value : Nat) (positive : 0 < width) (fits : value < 10 ^ width)
    (rest : List Char) :
    Clock.Moment.takeNumber? width (padded width value ++ rest) = some (value, rest) := by
  have length := length_padded positive fits
  have taken : (padded width value ++ rest).take width = padded width value := by
    rw [List.take_append_of_le_length (by omega), List.take_of_length_le (by omega)]
  have dropped : (padded width value ++ rest).drop width = rest := by
    rw [List.drop_append_of_le_length (by omega), List.drop_of_length_le (by omega), List.nil_append]
  have digits : (padded width value).all Char.isDigit = true := List.all_eq_true.mpr isDigit_padded
  simp only [Clock.Moment.takeNumber?, taken, dropped, length, digits, ofDigits_padded,
    decide_true, Bool.and_true, if_true]

end RepoSurvey.Number

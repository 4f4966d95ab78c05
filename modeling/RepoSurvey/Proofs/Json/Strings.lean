import Mathlib
import RepoSurvey.Json.Reader
import RepoSurvey.Json.Writer

/-!
# Strings of JSON

A string is read back from its text, whether the characters beyond the seven-bit range were written as
they are or escaped: each written character is read in one step, an escaped surrogate pair included.
-/

namespace RepoSurvey.Json

open Text (hexDigit hexDigits)

/-! ## Hexadecimal digits -/

/-- A written hexadecimal digit is read back. -/
theorem hexValue?_hexDigit {digit : Nat} (small : digit < 16) :
    hexValue? (hexDigit digit) = some digit := by
  have all : ∀ digit < 16, hexValue? (hexDigit digit) = some digit := by decide
  exact all digit small

/-- Four written hexadecimal digits are read back. -/
theorem hexQuad?_hexDigits {unit : Nat} (small : unit < 0x10000) (rest : List Char) :
    hexQuad? (hexDigits 4 unit ++ rest) = some unit := by
  simp only [hexDigits, List.nil_append, List.cons_append, hexQuad?,
    hexValue?_hexDigit (Nat.mod_lt _ (by decide : 0 < 16)), Option.bind_eq_bind, Option.bind_some,
    Option.pure_def, Option.some.injEq]
  omega

/-- What follows four written hexadecimal digits. -/
theorem drop_hexDigits (unit : Nat) (rest : List Char) : (hexDigits 4 unit ++ rest).drop 4 = rest := by
  rw [List.drop_append_of_le_length (by simp), List.drop_of_length_le (by simp), List.nil_append]

/-! ## Characters -/

/-- No character is a surrogate. -/
theorem toNat_bounds (c : Char) : c.toNat < 0xD800 ∨ 0xDFFF < c.toNat ∧ c.toNat < 0x110000 := by
  have valid : c.toNat.isValidChar := c.valid
  simpa [Nat.isValidChar] using valid

section Steps

variable {opening fuel position : Nat} {result rest : List Char}

/-- A written unit that is no surrogate is read as its character. -/
theorem readString_escapeUnit {c : Char} (small : c.toNat < 0x10000) (more : rest ≠ []) :
    readString opening (fuel + 1) result ⟨escapeUnit c.toNat ++ rest, position⟩ =
      readString opening fuel (c :: result) ⟨rest, position + 6⟩ := by
  have bounds := toNat_bounds c
  have noHigh : ¬ (0xD800 ≤ c.toNat ∧ c.toNat ≤ 0xDBFF) := by omega
  have noLow : ¬ (0xDC00 ≤ c.toNat ∧ c.toNat ≤ 0xDFFF) := by omega
  cases rest with
  | nil => exact absurd rfl more
  | cons next others =>
    simp only [escapeUnit, List.cons_append, readString, drop_hexDigits, hexQuad?_hexDigits small,
      if_neg noHigh, if_neg noLow, Char.ofNat_toNat]

/-- Two units that are a surrogate pair are read as one character. -/
theorem readString_units (high low : Nat) (isHigh : 0xD800 ≤ high ∧ high ≤ 0xDBFF)
    (isLow : 0xDC00 ≤ low ∧ low ≤ 0xDFFF) (more : rest ≠ []) :
    readString opening (fuel + 1) result
        ⟨'\\' :: 'u' :: (hexDigits 4 high ++ '\\' :: 'u' :: (hexDigits 4 low ++ rest)), position⟩ =
      readString opening fuel
        (Char.ofNat (0x10000 + (high - 0xD800) * 0x400 + (low - 0xDC00)) :: result)
        ⟨rest, position + 12⟩ := by
  have notEmpty : (rest.isEmpty = true) = False := by simpa using more
  have skipped : ('\\' :: 'u' :: (hexDigits 4 low ++ rest)).drop 6 = rest := drop_hexDigits low rest
  simp only [readString, drop_hexDigits, hexQuad?_hexDigits (by omega : high < 0x10000),
    if_pos isHigh, lowSurrogate?, hexQuad?_hexDigits (by omega : low < 0x10000), if_pos isLow,
    notEmpty, if_false, skipped]

/-- A written surrogate pair is read as its character. -/
theorem readString_escapePair {c : Char} (large : 0x10000 ≤ c.toNat) (more : rest ≠ []) :
    readString opening (fuel + 1) result ⟨escapeScalar c.toNat ++ rest, position⟩ =
      readString opening fuel (c :: result) ⟨rest, position + 12⟩ := by
  have bounds := toNat_bounds c
  have whole : 0x10000 + (0xD800 + (c.toNat - 0x10000) / 0x400 - 0xD800) * 0x400 +
      (0xDC00 + (c.toNat - 0x10000) % 0x400 - 0xDC00) = c.toNat := by omega
  have read := @readString_units opening fuel position result rest
    (0xD800 + (c.toNat - 0x10000) / 0x400) (0xDC00 + (c.toNat - 0x10000) % 0x400) (by omega)
    (by omega) more
  rw [whole, Char.ofNat_toNat] at read
  simpa only [escapeScalar, if_neg (Nat.not_lt.mpr large), escapeUnit, List.cons_append,
    List.append_assoc] using read

/-- A character that needs no escape is read as it stands. -/
theorem readString_plain {c : Char} (noQuote : c ≠ '"') (noBackslash : c ≠ '\\')
    (noControl : 32 ≤ c.toNat) :
    readString opening (fuel + 1) result ⟨c :: rest, position⟩ =
      readString opening fuel (c :: result) ⟨rest, position + 1⟩ := by
  rw [readString.eq_def]
  dsimp only
  split
  · contradiction
  · rename_i same
    exact absurd (List.cons.inj same).1 noQuote
  · rename_i same
    exact absurd (List.cons.inj same).1 noBackslash
  · rename_i same
    cases same
    rw [if_neg (Nat.not_lt.mpr noControl)]

/-- A character after a backslash is read as what it stands for. -/
theorem readString_escaped {c meant : Char} (noUnit : c ≠ 'u') (known : shortEscape? c = some meant) :
    readString opening (fuel + 1) result ⟨'\\' :: c :: rest, position⟩ =
      readString opening fuel (meant :: result) ⟨rest, position + 2⟩ := by
  rw [readString.eq_def]
  simp only [known]

/-- A written character is read in one step. -/
theorem readString_writeChar (asciiOnly : Bool) (c : Char) (more : rest ≠ []) :
    readString opening (fuel + 1) result ⟨writeChar asciiOnly c ++ rest, position⟩ =
      readString opening fuel (c :: result) ⟨rest, position + (writeChar asciiOnly c).length⟩ := by
  unfold writeChar
  split_ifs with marked newline return_ tab feed back control escaped
  · rcases (Bool.or_eq_true _ _).mp marked with quote | backslash
    · rw [beq_iff_eq] at quote
      subst quote
      exact readString_escaped (by decide) rfl
    · rw [beq_iff_eq] at backslash
      subst backslash
      exact readString_escaped (by decide) rfl
  · rw [beq_iff_eq] at newline
    subst newline
    exact readString_escaped (by decide) rfl
  · rw [beq_iff_eq] at return_
    subst return_
    exact readString_escaped (by decide) rfl
  · rw [beq_iff_eq] at tab
    subst tab
    exact readString_escaped (by decide) rfl
  · rw [beq_iff_eq] at feed
    subst feed
    exact readString_escaped (by decide) rfl
  · rw [beq_iff_eq] at back
    subst back
    exact readString_escaped (by decide) rfl
  · exact readString_escapeUnit (by omega) more
  · by_cases small : c.toNat < 0x10000
    · rw [escapeScalar, if_pos small]
      exact readString_escapeUnit small more
    · have length : (escapeScalar c.toNat).length = 12 := by
        simp [escapeScalar, small, escapeUnit]
      rw [length]
      exact readString_escapePair (Nat.not_lt.mp small) more
  · rw [Bool.or_eq_true, not_or, beq_iff_eq, beq_iff_eq] at marked
    exact readString_plain marked.1 marked.2 (Nat.not_lt.mp control)

/-- Written characters are read one after another up to the closing quote. -/
theorem readString_writeChars (asciiOnly : Bool) (text rest : List Char) (enough : text.length < fuel) :
    readString opening fuel result ⟨text.flatMap (writeChar asciiOnly) ++ '"' :: rest, position⟩ =
      .ok (String.ofList (result.reverse ++ text),
        ⟨rest, position + (text.flatMap (writeChar asciiOnly)).length + 1⟩) := by
  induction text generalizing fuel result position with
  | nil =>
    obtain ⟨fuel, rfl⟩ : ∃ left, fuel = left + 1 := ⟨fuel - 1, by omega⟩
    simp [readString]
  | cons c text inductionHypothesis =>
    obtain ⟨fuel, rfl⟩ : ∃ left, fuel = left + 1 := ⟨fuel - 1, by omega⟩
    rw [List.flatMap_cons, List.append_assoc, readString_writeChar asciiOnly c (by simp),
      inductionHypothesis (by simpa using enough)]
    simp [Nat.add_assoc]

end Steps

/-- A written string is read back. -/
theorem readString_writeString (asciiOnly : Bool) {fuel : Nat} (position : Nat) {text : String}
    (rest : List Char) (enough : text.length < fuel) :
    ∃ inside, writeString asciiOnly text ++ rest = '"' :: inside ∧
      readString position fuel [] ⟨inside, position + 1⟩ =
        .ok (text, ⟨rest, position + (writeString asciiOnly text).length⟩) := by
  refine ⟨text.toList.flatMap (writeChar asciiOnly) ++ '"' :: rest, ?_, ?_⟩
  · rw [writeString, List.cons_append, List.append_assoc]
    rfl
  · rw [readString_writeChars asciiOnly text.toList rest enough]
    simp [writeString, Nat.add_assoc, Nat.add_comm 1]

end RepoSurvey.Json

import Mathlib
import RepoSurvey.Proofs.Json.Strings
import RepoSurvey.Text.Encoding

/-!
# What was encoded comes back

What a character is encoded to is a whole sequence of bytes: the first one announces the length, the others continue it,
and their bits are the code of the character (`Utf8.head_encoded`). So an encoded text is decoded to itself, and it does
not matter what stands for faulty sequences: `Utf8.decodeWith_encoded`.

Bytes are read back from their digits in Base64, so that different bytes have different digits: `Base64.decode_encode`.

A text can be spelled in an address in many ways, with each character as it is or as the escapes of its bytes. It is
decoded to the same text, however it is spelled (`Percent.Spells.decode`), and the spelling that encoding chooses is one
of them (`Percent.spells_encode`). No spelling brings in marks that mean something in an address:
`Percent.Spells.notMem`.
-/

namespace RepoSurvey.Text

/-! ## Bytes of texts -/

/-- The bytes of an array as a list are those of the array. -/
theorem toList_bytes (bytes : ByteArray) : bytes.toList = bytes.data.toList := by
  have loop (index : Nat) (read : List UInt8) :
      ByteArray.toList.loop bytes index read = read.reverse ++ bytes.data.toList.drop index := by
    fun_induction ByteArray.toList.loop bytes index read with
    | case1 index read within inductionHypothesis =>
      have inBounds : index < bytes.data.toList.length := by simpa using within
      rw [inductionHypothesis, List.drop_eq_getElem_cons inBounds]
      simp [ByteArray.get!, within]
    | case2 index read notWithin =>
      rw [List.drop_eq_nil_of_le (by simpa using not_lt.mp notWithin), List.append_nil]
  simpa [ByteArray.toList] using loop 0 []

/-- Texts of the same bytes are the same. -/
theorem toList_toUTF8_injective : Function.Injective fun text : String => text.toUTF8.toList := by
  intro first second same
  dsimp only at same
  rw [toList_bytes, toList_bytes] at same
  exact String.toByteArray_inj.mp (ByteArray.ext (Array.toList_inj.mp same))

/-! ## UTF-8 -/

namespace Utf8

/-! ### Whole sequences -/

section Sequences

variable {first : Nat} {second : UInt8} {more rest : List UInt8}

/-- The length of the sequences that a byte stands at the head of. -/
theorem announcedLength?_eq_some_iff {length : Nat} : announcedLength? first = some length ↔
    (length = 1 ∧ first < 0x80) ∨ (length = 2 ∧ 0xC2 ≤ first ∧ first < 0xE0) ∨
      (length = 3 ∧ 0xE0 ≤ first ∧ first < 0xF0) ∨ (length = 4 ∧ 0xF0 ≤ first ∧ first < 0xF5) := by
  unfold announcedLength?
  split_ifs <;> simp <;> omega

/-- Which second bytes are possible. -/
theorem mayFollow_iff {second : Nat} : mayFollow first second = true ↔ (0x80 ≤ second ∧ second < 0xC0) ∧
    (first = 0xE0 -> 0xA0 ≤ second) ∧ (first = 0xED -> second < 0xA0) ∧ (first = 0xF0 -> 0x90 ≤ second) ∧
    (first = 0xF4 -> second < 0x90) := by
  simp only [mayFollow, continues, Bool.and_eq_true, decide_eq_true_eq]
  split_ifs <;> simp <;> omega

/-- Of a whole sequence all bytes after the first are possible. -/
theorem possibleBytes_whole (follows : mayFollow first second.toNat = true)
    (continued : ∀ byte ∈ more, continues byte.toNat = true) :
    possibleBytes first (more.length + 1) (second :: (more ++ rest)) = more.length + 1 := by
  have whole : more.takeWhile (fun byte => continues byte.toNat) = more := List.takeWhile_eq_self_iff.mpr continued
  rw [possibleBytes, if_pos follows, List.take_left, whole, Nat.add_comm]

/-- The bits of the first byte of a sequence with so many bytes after the second one. -/
def leadBits (first : Nat) : (further : Nat) -> Nat
  | 0 => first % 32
  | 1 => first % 16
  | _ => first % 8

/-- The code that the bytes of a sequence hold. -/
def codeOf (first : Nat) (second : UInt8) (more : List UInt8) : Nat :=
  (second :: more).foldl (fun code byte => code * 64 + byte.toNat % 64) (leadBits first more.length)

/-- A whole sequence is the character of its bits. -/
theorem head_whole (announced : announcedLength? first = some (more.length + 2))
    (follows : mayFollow first second.toNat = true) (continued : ∀ byte ∈ more, continues byte.toNat = true) :
    head first (second :: (more ++ rest)) = .scalar (Char.ofNat (codeOf first second more)) (more.length + 2) := by
  have possible := @possibleBytes_whole first second more rest follows continued
  have taken : (second :: (more ++ rest)).take (more.length + 1) = second :: more := by simp
  have after : more.length + 2 - 1 = more.length + 1 := rfl
  simp only [head, announced, after, possible, taken]
  rw [if_pos trivial, codeOf]
  rcases more with - | ⟨third, - | ⟨fourth, more⟩⟩ <;> rfl

end Sequences

/-! ### Encoded texts -/

/-- The number of a byte. -/
theorem toNat_byte {value : Nat} (small : value < 0x100) : (UInt8.ofNat value).toNat = value :=
  UInt8.toNat_ofNat_of_lt' small

/-- The byte that continues a sequence with the last six bits of a code. -/
def continuation (code : Nat) : UInt8 := UInt8.ofNat (code % 0x40 + 0x80)

/-- The number of a byte that continues a sequence. -/
theorem toNat_continuation (code : Nat) : (continuation code).toNat = code % 0x40 + 0x80 := toNat_byte (by omega)

/-- Such a byte continues a sequence. -/
theorem continues_continuation (code : Nat) : continues (continuation code).toNat = true := by
  rw [toNat_continuation, continues, Bool.and_eq_true, decide_eq_true_eq, decide_eq_true_eq]
  omega

/-- A sequence with the code of a character is this character. -/
theorem head_of_codeOf {c : Char} {first : Nat} {second : UInt8} {more : List UInt8}
    (announced : announcedLength? first = some (more.length + 2)) (follows : mayFollow first second.toNat = true)
    (continued : ∀ byte ∈ more, continues byte.toNat = true) (isCode : codeOf first second more = c.toNat)
    (rest : List UInt8) : head first (second :: more ++ rest) = .scalar c ((second :: more).length + 1) := by
  rw [List.cons_append, head_whole announced follows continued, isCode, Char.ofNat_toNat]
  rfl

/-- What a character is encoded to starts with it, whatever comes behind. -/
theorem head_encoded (c : Char) : ∃ first more, String.utf8EncodeChar c = first :: more ∧
    ∀ rest, head first.toNat (more ++ rest) = .scalar c (more.length + 1) := by
  have bounds := Json.toNat_bounds c
  simp only [String.utf8EncodeChar, show c.val.toNat = c.toNat from rfl, ← continuation.eq_def]
  -- The bounds of each case are those between which a first byte announces so many bytes.
  split_ifs with one two three
  · refine ⟨_, _, rfl, fun rest => ?_⟩
    have announced : announcedLength? c.toNat = some 1 := announcedLength?_eq_some_iff.mpr (by omega)
    rw [toNat_byte (by omega)]
    simp only [head, announced, Char.ofNat_toNat]
    rfl
  · refine ⟨_, _, rfl, head_of_codeOf ?_ (mayFollow_iff.mpr ?_) nofun ?_⟩ <;> rw [toNat_byte (by omega)]
    · exact announcedLength?_eq_some_iff.mpr (.inr (.inl ⟨rfl, by omega, by omega⟩))
    · rw [toNat_continuation]
      omega
    · simp only [codeOf, leadBits, List.length_nil, List.foldl, toNat_continuation]
      omega
  · refine ⟨_, _, rfl, head_of_codeOf ?_ (mayFollow_iff.mpr ?_) (by simp [continues_continuation]) ?_⟩ <;>
      rw [toNat_byte (by omega)]
    · exact announcedLength?_eq_some_iff.mpr (.inr (.inr (.inl ⟨rfl, by omega, by omega⟩)))
    · rw [toNat_continuation]
      omega
    · simp only [codeOf, leadBits, List.length_cons, List.length_nil, List.foldl, toNat_continuation]
      omega
  · refine ⟨_, _, rfl, head_of_codeOf ?_ (mayFollow_iff.mpr ?_) (by simp [continues_continuation]) ?_⟩ <;>
      rw [toNat_byte (by omega)]
    · exact announcedLength?_eq_some_iff.mpr (.inr (.inr (.inr ⟨rfl, by omega, by omega⟩)))
    · rw [toNat_continuation]
      omega
    · simp only [codeOf, leadBits, List.length_cons, List.length_nil, List.foldl, toNat_continuation]
      omega

/-- Whatever stands for faulty sequences, an encoded text is decoded to itself. -/
theorem decodeFrom_encoded (substitute : Option (List Char)) {text : List Char} {fuel : Nat}
    (enough : (text.flatMap String.utf8EncodeChar).length ≤ fuel) (position : Nat) (result : List Char) :
    decodeFrom substitute fuel position result (text.flatMap String.utf8EncodeChar) =
      .ok (result.reverse ++ text) := by
  induction text generalizing fuel position result with
  | nil => cases fuel <;> simp [decodeFrom]
  | cons c text inductionHypothesis =>
    obtain ⟨first, more, isEncoded, isHead⟩ := head_encoded c
    rw [List.flatMap_cons, isEncoded, List.length_append, List.length_cons] at enough
    obtain ⟨fuel, rfl⟩ := Nat.exists_eq_add_of_lt (Nat.lt_of_lt_of_le (by omega : 0 < _) enough)
    rw [List.flatMap_cons, isEncoded, List.cons_append, Nat.zero_add, decodeFrom, isHead]
    dsimp only
    rw [Nat.add_sub_cancel, List.drop_left, inductionHypothesis (by omega), List.reverse_cons, List.append_assoc,
      List.singleton_append]

/-- An encoded text is decoded to itself. -/
theorem decodeWith_encoded (substitute text : List Char) :
    decodeWith substitute (text.flatMap String.utf8EncodeChar) = text := by
  rw [decodeWith, decodeFrom_encoded (some substitute) (Nat.le_refl _)]
  rfl

end Utf8

/-! ## Base64 -/

namespace Base64

/-- The six bits of a digit; one more than there can be for an equals sign. -/
def bitsOf (c : Char) : Nat := ((List.range 64).find? fun bits => digit bits == c).getD 64

/-- Digits are told apart. -/
theorem bitsOf_digit {bits : Nat} (small : bits < 64) : bitsOf (digit bits) = bits := by
  have each : ∀ bits < 64, bitsOf (digit bits) = bits := by decide +kernel
  exact each bits small

/-- An equals sign is no digit. -/
theorem bitsOf_filling : bitsOf '=' = 64 := by decide +kernel

/-- The bytes that digits stand for. -/
def decode : List Char -> List UInt8
  | a :: b :: c :: d :: rest =>
    let first := UInt8.ofNat (bitsOf a * 4 + bitsOf b / 16)
    let second := UInt8.ofNat (bitsOf b % 16 * 16 + bitsOf c / 4)
    let third := UInt8.ofNat (bitsOf c % 4 * 64 + bitsOf d)
    if bitsOf c = 64 then [first]
    else if bitsOf d = 64 then [first, second]
    else first :: second :: third :: decode rest
  | _ => []

/-- Bytes are read back from their digits. -/
theorem decode_encode (bytes : List UInt8) : decode (encode bytes) = bytes := by
  induction bytes using encode.induct with
  | case1 => rfl
  | case2 a =>
    have small := a.toNat_lt
    have first : a.toNat / 4 * 4 + a.toNat % 4 * 16 / 16 = a.toNat := by omega
    rw [encode, decode, bitsOf_digit (by omega), bitsOf_digit (by omega), bitsOf_filling, if_pos rfl, first,
      UInt8.ofNat_toNat]
  | case3 a b =>
    have smallA := a.toNat_lt
    have smallB := b.toNat_lt
    have first : a.toNat / 4 * 4 + (a.toNat % 4 * 16 + b.toNat / 16) / 16 = a.toNat := by omega
    have second : (a.toNat % 4 * 16 + b.toNat / 16) % 16 * 16 + b.toNat % 16 * 4 / 4 = b.toNat := by omega
    rw [encode, decode, bitsOf_digit (by omega), bitsOf_digit (by omega), bitsOf_digit (by omega), bitsOf_filling,
      if_neg (by omega), if_pos rfl, first, second, UInt8.ofNat_toNat, UInt8.ofNat_toNat]
  | case4 a b c rest inductionHypothesis =>
    have smallA := a.toNat_lt
    have smallB := b.toNat_lt
    have smallC := c.toNat_lt
    have first : a.toNat / 4 * 4 + (a.toNat % 4 * 16 + b.toNat / 16) / 16 = a.toNat := by omega
    have second : (a.toNat % 4 * 16 + b.toNat / 16) % 16 * 16 + (b.toNat % 16 * 4 + c.toNat / 64) / 4 = b.toNat := by
      omega
    have third : (b.toNat % 16 * 4 + c.toNat / 64) % 4 * 64 + c.toNat % 64 = c.toNat := by omega
    rw [encode, decode, bitsOf_digit (by omega), bitsOf_digit (by omega), bitsOf_digit (by omega),
      bitsOf_digit (by omega), if_neg (by omega), if_neg (by omega), first, second, third, inductionHypothesis,
      UInt8.ofNat_toNat, UInt8.ofNat_toNat, UInt8.ofNat_toNat]

/-- Bytes that have the same digits are the same. -/
theorem encode_injective : Function.Injective encode := Function.LeftInverse.injective decode_encode

end Base64

/-! ## Percent escapes -/

namespace Percent

/-- Whether a character of a text can stand as it is in an address: no mark that means something between a path and what
is around it, and no control character. -/
structure StandsAsIs (c : Char) : Prop where
  noMark : c ≠ '%' ∧ c ≠ '?' ∧ c ≠ '#'
  visible : 31 < c.toNat ∧ c.toNat ≠ 127

instance (c : Char) : Decidable (StandsAsIs c) :=
  decidable_of_iff ((c ≠ '%' ∧ c ≠ '?' ∧ c ≠ '#') ∧ 31 < c.toNat ∧ c.toNat ≠ 127)
    ⟨fun ⟨noMark, visible⟩ => ⟨noMark, visible⟩, fun stands => ⟨stands.noMark, stands.visible⟩⟩

/-- Whether characters are the escapes of bytes, with digits in any case. -/
inductive Escapes : List Char -> List UInt8 -> Prop
  | nil : Escapes [] []
  | cons {high low : Char} {first second : Nat} {escapes : List Char} {bytes : List UInt8}
      (isHigh : digitValue? high = some first) (isLow : digitValue? low = some second)
      (onward : Escapes escapes bytes) :
      Escapes ('%' :: high :: low :: escapes) ((first * 16 + second).toUInt8 :: bytes)

/-- Whether a spelling in an address stands for a text. -/
inductive Spells : List Char -> List Char -> Prop
  | nil : Spells [] []
  | plain {c : Char} {spelling text : List Char} (stands : StandsAsIs c) (onward : Spells spelling text) :
      Spells (c :: spelling) (c :: text)
  | escaped {c : Char} {escapes spelling text : List Char} (bytes : Escapes escapes (bytesOf c))
      (onward : Spells spelling text) : Spells (escapes ++ spelling) (c :: text)

variable {escapes spelling text : List Char} {bytes : List UInt8}

/-! ### Spellings in a row -/

/-- Spellings in a row stand for the texts in a row. -/
theorem Spells.append {other rest : List Char} (first : Spells spelling text) (second : Spells other rest) :
    Spells (spelling ++ other) (text ++ rest) := by
  induction first with
  | nil => exact second
  | plain stands _ inductionHypothesis => exact .plain stands inductionHypothesis
  | escaped bytes _ inductionHypothesis =>
    rw [List.append_assoc]
    exact .escaped bytes inductionHypothesis

/-! ### Decoding -/

/-- The bytes of a character. -/
theorem bytesOf_eq (c : Char) : bytesOf c = String.utf8EncodeChar c := by
  rw [bytesOf, toList_bytes, String.toUTF8_eq_toByteArray, String.singleton_eq_ofList, String.toByteArray_ofList,
    List.utf8Encode_singleton, List.toList_data_toByteArray]

/-- Escapes are read as their bytes. -/
theorem Escapes.bytesFrom (areEscapes : Escapes escapes bytes) (rest : List Char) :
    bytesFrom 0 (escapes ++ rest) = bytes ++ bytesFrom 0 rest := by
  induction areEscapes with
  | nil => rfl
  | cons isHigh isLow _ inductionHypothesis =>
    simp [Percent.bytesFrom, escaped?, isHigh, isLow, inductionHypothesis]

/-- A spelling is read as the bytes of its text. -/
theorem Spells.bytesFrom (spells : Spells spelling text) : bytesFrom 0 spelling = text.flatMap bytesOf := by
  induction spells with
  | nil => rfl
  | @plain c spelling text stands _ inductionHypothesis =>
    have noEscape : escaped? (c :: spelling) = none := by
      unfold escaped?
      split
      · next isEscape => exact absurd (List.cons.inj isEscape).1 stands.noMark.1
      · rfl
    rw [Percent.bytesFrom, noEscape, inductionHypothesis, List.flatMap_cons]
  | escaped bytes _ inductionHypothesis => rw [bytes.bytesFrom, inductionHypothesis, List.flatMap_cons]

/-- A text is decoded from each of its spellings. -/
theorem Spells.decode (spells : Spells spelling text) : decode spelling = text := by
  rw [Percent.decode, spells.bytesFrom, funext bytesOf_eq, Utf8.decodeWith_encoded]

/-! ### Marks -/

/-- Escapes consist of percent signs and digits. -/
theorem Escapes.notMem {mark : Char} (areEscapes : Escapes escapes bytes) (noPercent : mark ≠ '%')
    (noDigit : digitValue? mark = none) : mark ∉ escapes := by
  induction areEscapes with
  | nil => exact List.not_mem_nil
  | @cons high low _ _ _ _ isHigh isLow _ inductionHypothesis =>
    have notHigh : mark ≠ high := by
      rintro rfl
      nomatch noDigit.symm.trans isHigh
    have notLow : mark ≠ low := by
      rintro rfl
      nomatch noDigit.symm.trans isLow
    simp [noPercent, notHigh, notLow, inductionHypothesis]

/-- A mark that is no part of escapes stands in a spelling only if it stands as it is in the text. -/
theorem Spells.notMem {mark : Char} (spells : Spells spelling text) (noPercent : mark ≠ '%')
    (noDigit : digitValue? mark = none) (absent : mark ∈ text -> ¬StandsAsIs mark) : mark ∉ spelling := by
  induction spells with
  | nil => exact List.not_mem_nil
  | plain stands _ inductionHypothesis =>
    rw [List.mem_cons, not_or]
    refine ⟨?_, inductionHypothesis fun member => absent (.tail _ member)⟩
    rintro rfl
    exact absent (.head _) stands
  | escaped bytes _ inductionHypothesis =>
    rw [List.mem_append, not_or]
    exact ⟨bytes.notMem noPercent noDigit, inductionHypothesis fun member => absent (.tail _ member)⟩

/-- A spelling that does not start with an escape starts as its text. -/
theorem Spells.head? {first : Char} {rest : List Char} (spells : Spells (first :: rest) text)
    (noPercent : first ≠ '%') : text.head? = some first := by
  generalize isSpelling : first :: rest = spelling at spells
  cases spells with
  | nil => nomatch isSpelling
  | plain => rw [(List.cons.inj isSpelling).1, List.head?_cons]
  | @escaped c _ _ _ bytes =>
    generalize areBytes : bytesOf c = encoded at bytes
    cases bytes with
    | nil =>
      rw [bytesOf_eq] at areBytes
      exact absurd areBytes String.utf8EncodeChar_ne_nil
    | cons => exact absurd (List.cons.inj isSpelling).1 noPercent

/-! ### Encoding -/

/-- A digit that is written is read. -/
theorem digitValue?_toUpper_hexDigit {digit : Nat} (small : digit < 16) :
    digitValue? (hexDigit digit).toUpper = some digit := by
  have all : ∀ digit < 16, digitValue? (hexDigit digit).toUpper = some digit := by decide
  exact all digit small

/-- Bytes are written as their escapes. -/
theorem escapes_escape (bytes : List UInt8) : Escapes (bytes.flatMap escape) bytes := by
  induction bytes with
  | nil => exact .nil
  | cons byte bytes inductionHypothesis =>
    have small := byte.toNat_lt
    have isByte : byte = (byte.toNat / 16 % 16 * 16 + byte.toNat % 16).toUInt8 := by
      rw [show byte.toNat / 16 % 16 * 16 + byte.toNat % 16 = byte.toNat by omega]
      exact UInt8.ofNat_toNat.symm
    rw [List.flatMap_cons, congrArg (Escapes _ <| · :: bytes) isByte]
    exact .cons (digitValue?_toUpper_hexDigit (Nat.mod_lt _ (by decide)))
      (digitValue?_toUpper_hexDigit (Nat.mod_lt _ (by decide))) inductionHypothesis

/-- What stands for itself when a text is encoded can stand as it is. -/
theorem standsAsIs_of_isPlain {c : Char} (plain : isPlain c = true) : StandsAsIs c := by
  have differs {mark : Char} (isMark : isPlain mark = false) : c ≠ mark := by
    rintro rfl
    nomatch plain.symm.trans isMark
  refine ⟨⟨differs (by decide), differs (by decide), differs (by decide)⟩, ?_⟩
  simp only [isPlain, Char.isAlphanum, Char.isAlpha, Char.isUpper, Char.isLower, Char.isDigit, Bool.or_eq_true,
    Bool.and_eq_true, decide_eq_true_eq, beq_iff_eq, ge_iff_le, UInt32.le_iff_toNat_le] at plain
  change (((((((65 ≤ c.toNat ∧ c.toNat ≤ 90) ∨ (97 ≤ c.toNat ∧ c.toNat ≤ 122)) ∨ (48 ≤ c.toNat ∧ c.toNat ≤ 57)) ∨
    c = '_') ∨ c = '.') ∨ c = '-') ∨ c = '~') ∨ c = '/' at plain
  rcases plain with ((((((upper | lower) | digit) | rfl) | rfl) | rfl) | rfl) | rfl
  · omega
  · omega
  · omega
  all_goals decide

/-- A text of such characters is a spelling of itself. -/
theorem spells_self (plain : text.all isPlain = true) : Spells text text := by
  induction text with
  | nil => exact .nil
  | cons c text inductionHypothesis =>
    rw [List.all_cons, Bool.and_eq_true] at plain
    exact .plain (standsAsIs_of_isPlain plain.1) (inductionHypothesis plain.2)

/-- Encoding spells a text. -/
theorem spells_encode (text : List Char) : Spells (encode text) text := by
  induction text with
  | nil => exact .nil
  | cons c text inductionHypothesis =>
    rw [encode, List.flatMap_cons]
    split
    · next plain => exact .plain (standsAsIs_of_isPlain plain) inductionHypothesis
    · exact .escaped (escapes_escape _) inductionHypothesis

end Percent

end RepoSurvey.Text

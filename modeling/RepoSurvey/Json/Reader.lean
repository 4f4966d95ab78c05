import RepoSurvey.Json.Value
import RepoSurvey.Number.Decimal

/-!
# Reading JSON

A text is read from left to right without backtracking. Beside the standard grammar the names of the
three extended numbers are read, later members of one name replace earlier ones, and an integer of
more than 4300 digits is refused as such. A problem is located by its character position, from which
the line and the column follow.
-/

namespace RepoSurvey.Json

open Number (Binary64 ofDigits)

/-- What is wrong with a text. -/
inductive Flaw where
  | expectingValue
  | expectingName
  | expectingColon
  | expectingComma
  | extraData
  | unterminatedString
  | controlCharacter
  | invalidEscape
  | invalidUnicodeEscape
  | byteOrderMark
  | overlongInteger (digits : Nat)
  deriving DecidableEq, Repr

/-- The wording of a flaw. -/
def Flaw.message : Flaw -> String
  | .expectingValue => "Expecting value"
  | .expectingName => "Expecting property name enclosed in double quotes"
  | .expectingColon => "Expecting ':' delimiter"
  | .expectingComma => "Expecting ',' delimiter"
  | .extraData => "Extra data"
  | .unterminatedString => "Unterminated string starting at"
  | .controlCharacter => "Invalid control character at"
  | .invalidEscape => "Invalid \\escape"
  | .invalidUnicodeEscape => "Invalid \\uXXXX escape"
  | .byteOrderMark => "Unexpected UTF-8 BOM (decode using utf-8-sig)"
  | .overlongInteger digits =>
    s!"Exceeds the limit (4300 digits) for integer string conversion: value has {digits} digits; " ++
      "use sys.set_int_max_str_digits() to increase the limit"

/-- The part of a text still to be read and the number of characters before it. -/
structure Cursor where
  rest : List Char
  position : Nat
  deriving DecidableEq, Repr

/-- A flaw and the character position it is reported at. -/
structure Fault where
  flaw : Flaw
  position : Nat
  deriving DecidableEq, Repr

/-- A piece of the grammar: what it stands for and where it ends. -/
abbrev Reading (α : Type) := Except Fault (α × Cursor)

namespace Cursor

/-- The start of a text. -/
def start (text : List Char) : Cursor := ⟨text, 0⟩

/-- Step over characters known to be there. -/
def advance (cursor : Cursor) (count : Nat) : Cursor :=
  ⟨cursor.rest.drop count, cursor.position + count⟩

/-- A fault at the cursor. -/
def fault (cursor : Cursor) (flaw : Flaw) : Fault := ⟨flaw, cursor.position⟩

/-- The white space of the grammar. -/
def isSpace (c : Char) : Bool := c == ' ' || c == '\t' || c == '\n' || c == '\r'

/-- Step over white space. -/
def skipSpace (cursor : Cursor) : Cursor := go cursor.rest cursor.position
where
  /-- Count the characters stepped over. -/
  go : List Char -> Nat -> Cursor
    | [], position => ⟨[], position⟩
    | c :: rest, position => if isSpace c then go rest (position + 1) else ⟨c :: rest, position⟩

end Cursor

/-- The value of a hexadecimal digit. -/
def hexValue? (c : Char) : Option Nat :=
  let code := c.toNat
  if 48 ≤ code ∧ code ≤ 57 then some (code - 48)
  else if 97 ≤ code ∧ code ≤ 102 then some (code - 87)
  else if 65 ≤ code ∧ code ≤ 70 then some (code - 55)
  else none

/-- Four hexadecimal digits at the head of a text. -/
def hexQuad? : List Char -> Option Nat
  | a :: b :: c :: d :: _ => do
    let a ← hexValue? a
    let b ← hexValue? b
    let c ← hexValue? c
    let d ← hexValue? d
    pure (((a * 16 + b) * 16 + c) * 16 + d)
  | _ => none

/-- The character a one-letter escape stands for. -/
def shortEscape? : Char -> Option Char
  | '"' => some '"'
  | '\\' => some '\\'
  | '/' => some '/'
  | 'b' => some '\x08'
  | 'f' => some '\x0c'
  | 'n' => some '\n'
  | 'r' => some '\r'
  | 't' => some '\t'
  | _ => none

/-- The second half of an escaped surrogate pair, when the text goes on with one and with more. -/
def lowSurrogate? : List Char -> Except Unit (Option Nat)
  | '\\' :: 'u' :: rest =>
    if (rest.drop 4).isEmpty then .ok none
    else match hexQuad? rest with
      | none => .error ()
      | some low => .ok (if 0xDC00 ≤ low ∧ low ≤ 0xDFFF then some low else none)
  | _ => .ok none

/-- Read the inside of a string up to its closing quote. The opening quote's position is kept for the
report of a missing end. -/
def readString (opening : Nat) (fuel : Nat) (result : List Char) (cursor : Cursor) :
    Reading String :=
  match fuel with
  | 0 => .error ⟨.unterminatedString, opening⟩
  | fuel + 1 =>
    match cursor.rest with
    | [] => .error ⟨.unterminatedString, opening⟩
    | '"' :: rest => .ok (String.ofList result.reverse, ⟨rest, cursor.position + 1⟩)
    | '\\' :: rest =>
      match rest with
      | [] => .error ⟨.unterminatedString, opening⟩
      | 'u' :: rest =>
        let here := cursor.position + 1
        match rest.drop 4 with
        | [] => .error ⟨.invalidUnicodeEscape, here⟩
        | after =>
          match hexQuad? rest with
          | none => .error ⟨.invalidUnicodeEscape, here⟩
          | some code =>
            if 0xD800 ≤ code ∧ code ≤ 0xDBFF then
              match lowSurrogate? after with
              | .error () => .error ⟨.invalidUnicodeEscape, here + 6⟩
              | .ok (some low) =>
                let scalar := 0x10000 + (code - 0xD800) * 0x400 + (low - 0xDC00)
                readString opening fuel (Char.ofNat scalar :: result)
                  ⟨after.drop 6, cursor.position + 12⟩
              | .ok none =>
                readString opening fuel ('\ufffd' :: result) ⟨after, cursor.position + 6⟩
            else
              let scalar := if 0xDC00 ≤ code ∧ code ≤ 0xDFFF then '\ufffd' else Char.ofNat code
              readString opening fuel (scalar :: result) ⟨after, cursor.position + 6⟩
      | c :: rest =>
        match shortEscape? c with
        | none => .error ⟨.invalidEscape, cursor.position⟩
        | some meant => readString opening fuel (meant :: result) ⟨rest, cursor.position + 2⟩
    | c :: rest =>
      if c.toNat < 32 then .error ⟨.controlCharacter, cursor.position⟩
      else readString opening fuel (c :: result) ⟨rest, cursor.position + 1⟩

/-- Split off the leading decimal digits of a text. -/
def spanDigits (text : List Char) : List Nat × List Char :=
  (text.takeWhile Char.isDigit |>.map (·.toNat - 48), text.dropWhile Char.isDigit)

/-- The fraction of a number: digits after a point, none unless a digit follows the point. -/
def spanFraction (text : List Char) : List Nat × List Char :=
  match text with
  | '.' :: rest =>
    let (digits, after) := spanDigits rest
    if digits.isEmpty then ([], text) else (digits, after)
  | _ => ([], text)

/-- The exponent of a number and the number of its characters, none unless a digit follows the mark
and its sign. -/
def spanExponent (text : List Char) : Option (Int × Nat) × List Char :=
  let digitsAfter (negative : Bool) (marks : Nat) (rest : List Char) :
      Option (Int × Nat) × List Char :=
    let (digits, after) := spanDigits rest
    if digits.isEmpty then (none, text)
    else
      let magnitude : Int := ofDigits digits
      (some (if negative then -magnitude else magnitude, marks + digits.length), after)
  match text with
  | 'e' :: rest | 'E' :: rest =>
    match rest with
    | '-' :: rest => digitsAfter true 2 rest
    | '+' :: rest => digitsAfter false 2 rest
    | rest => digitsAfter false 1 rest
  | _ => (none, text)

/-- The greatest number of digits of an integer that is read. -/
def integerDigitLimit : Nat := 4300

/-- Split off a minus sign; true when there is one. -/
def splitMinus : List Char -> Bool × List Char
  | '-' :: rest => (true, rest)
  | rest => (false, rest)

/-- The digits before a fraction: a zero alone, or all digits up to the first other character. Nothing if
no digit is there. -/
def spanWhole? : List Char -> Option (List Nat × List Char)
  | '0' :: rest => some ([0], rest)
  | c :: rest => if c.isDigit then some (spanDigits (c :: rest)) else none
  | [] => none

/-- Read a number. -/
def readNumber (cursor : Cursor) : Reading Json :=
  let (negative, unsigned) := splitMinus cursor.rest
  match spanWhole? unsigned with
  | none => .error (cursor.fault .expectingValue)
  | some (digits, rest) =>
    let (fraction, rest) := spanFraction rest
    let (exponent, rest) := spanExponent rest
    let length := (if negative then 1 else 0) + digits.length +
      (if fraction.isEmpty then 0 else fraction.length + 1) + (exponent.map (·.2)).getD 0
    let after : Cursor := ⟨rest, cursor.position + length⟩
    if fraction.isEmpty ∧ exponent.isNone then
      if integerDigitLimit < digits.length then
        .error (cursor.fault (.overlongInteger digits.length))
      else
        let magnitude : Int := ofDigits digits
        .ok (.int (if negative then -magnitude else magnitude), after)
    else
      let scale := (exponent.map (·.1)).getD 0 - fraction.length
      .ok (.float (Binary64.ofDecimal negative (ofDigits (digits ++ fraction)) scale), after)

/-- The fixed words and what they stand for. -/
def words : List (List Char × Json) :=
  [ ("null".toList, .null), ("true".toList, .bool true), ("false".toList, .bool false),
    ("NaN".toList, .float .nan), ("Infinity".toList, .float (.infinite false)),
    ("-Infinity".toList, .float (.infinite true)) ]

/-- The fixed word at the head of a text. -/
def word? (text : List Char) : Option (Json × Nat) :=
  (words.find? fun entry => entry.1.isPrefixOf text).map fun entry => (entry.2, entry.1.length)

mutual

/-- Read a value. Fuel of twice the number of remaining characters is never used up: a value inside an
array or an object takes two units and at least one character. -/
def readValue (fuel : Nat) (cursor : Cursor) : Reading Json :=
  match fuel with
  | 0 => .error (cursor.fault .expectingValue)
  | fuel + 1 =>
    match cursor.rest with
    | '"' :: rest =>
      match readString cursor.position fuel [] ⟨rest, cursor.position + 1⟩ with
      | .error fault => .error fault
      | .ok (text, after) => .ok (.str text, after)
    | '{' :: _ =>
      let inside := (cursor.advance 1).skipSpace
      match inside.rest with
      | '}' :: _ => .ok (.obj [], inside.advance 1)
      | _ => readMembers fuel [] inside
    | '[' :: _ =>
      let inside := (cursor.advance 1).skipSpace
      match inside.rest with
      | ']' :: _ => .ok (.arr [], inside.advance 1)
      | _ => readItems fuel [] inside
    | text =>
      match word? text with
      | some (value, length) => .ok (value, cursor.advance length)
      | none => readNumber cursor

/-- Read the items of an array from its first unread item on. -/
def readItems (fuel : Nat) (items : List Json) (cursor : Cursor) : Reading Json :=
  match fuel with
  | 0 => .error (cursor.fault .expectingValue)
  | fuel + 1 =>
    match readValue fuel cursor with
    | .error fault => .error fault
    | .ok (item, after) =>
      let after := after.skipSpace
      match after.rest with
      | ']' :: _ => .ok (.arr (item :: items).reverse, after.advance 1)
      | ',' :: _ => readItems fuel (item :: items) (after.advance 1).skipSpace
      | _ => .error (after.fault .expectingComma)

/-- Read the members of an object from its first unread name on. -/
def readMembers (fuel : Nat) (members : List (String × Json)) (cursor : Cursor) : Reading Json :=
  match fuel with
  | 0 => .error (cursor.fault .expectingName)
  | fuel + 1 =>
    match cursor.rest with
    | '"' :: rest =>
      match readString cursor.position fuel [] ⟨rest, cursor.position + 1⟩ with
      | .error fault => .error fault
      | .ok (name, after) =>
        let after := after.skipSpace
        match after.rest with
        | ':' :: _ =>
          match readValue fuel (after.advance 1).skipSpace with
          | .error fault => .error fault
          | .ok (value, after) =>
            let after := after.skipSpace
            match after.rest with
            | '}' :: _ =>
              .ok (.obj (mergeMembers ((name, value) :: members).reverse), after.advance 1)
            | ',' :: _ => readMembers fuel ((name, value) :: members) (after.advance 1).skipSpace
            | _ => .error (after.fault .expectingComma)
        | _ => .error (after.fault .expectingColon)
    | _ => .error (cursor.fault .expectingName)

end

/-- Read a whole text as one value, white space around it allowed. -/
def readAll (text : List Char) : Except Fault Json :=
  if text.head? = some '\ufeff' then .error ⟨.byteOrderMark, 0⟩
  else
    match readValue (2 * text.length + 2) (Cursor.start text).skipSpace with
    | .error fault => .error fault
    | .ok (value, after) =>
      let after := after.skipSpace
      if after.rest.isEmpty then .ok value else .error (after.fault .extraData)

/-- The line of a position, counted from one. -/
def lineOf (text : List Char) (position : Nat) : Nat := (text.take position).count '\n' + 1

/-- The column of a position, counted from one. -/
def columnOf (text : List Char) (position : Nat) : Nat :=
  ((text.take position).reverse.takeWhile (· != '\n')).length + 1

/-- The report of a fault in a text. An overlong integer is reported without its place. -/
def Fault.message (fault : Fault) (text : List Char) : String :=
  match fault.flaw with
  | .overlongInteger _ => fault.flaw.message
  | flaw =>
    let line := lineOf text fault.position
    let column := columnOf text fault.position
    s!"{flaw.message}: line {line} column {column} (char {fault.position})"

end RepoSurvey.Json

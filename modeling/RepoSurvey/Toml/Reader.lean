import RepoSurvey.Clock.Moment
import RepoSurvey.Json.Reader
import RepoSurvey.Number.Numeral
import RepoSurvey.Toml.Value

/-!
# Reading TOML values

Keys, strings, numbers, dates and times, arrays and inline tables. Each reader takes what stands at
the head of a text and gives back the rest of it.
-/

namespace RepoSurvey.Toml

open Clock (Date Offset)
open Number (Binary64 natText ofDigits padZeros signed splitSign)

/-- Why a text is no TOML document. -/
inductive Flaw where
  | malformed
  | overlongInteger (digits : Nat)
  deriving DecidableEq, Repr

/-- What was read and what follows it. -/
abbrev Reading (α : Type) := Except Flaw (α × List Char)

/-- Whether a character is a space or a tab. -/
def isSpace (c : Char) : Bool := c == ' ' || c == '\t'

/-- Step over spaces and tabs. -/
def skipSpaces (chars : List Char) : List Char := chars.dropWhile isSpace

/-- Step over spaces, tabs and line ends. -/
def skipSpacesAndLines (chars : List Char) : List Char :=
  chars.dropWhile fun c => isSpace c || c == '\n'

/-- Whether a character must not stand in a comment or in a string of one line. -/
def isControl (c : Char) : Bool := (c.toNat < 32 && c != '\t') || c.toNat == 127

/-- Step over a comment, up to the end of its line. -/
def skipComment (chars : List Char) : Except Flaw (List Char) :=
  match chars with
  | '#' :: rest =>
    let comment := rest.takeWhile (· != '\n')
    if comment.any isControl then .error .malformed else .ok (rest.drop comment.length)
  | _ => .ok chars

/-- Step over spaces, line ends and comments. -/
def skipBetween : (fuel : Nat) -> List Char -> Except Flaw (List Char)
  | 0, chars => .ok chars
  | fuel + 1, chars =>
    match skipComment (skipSpacesAndLines chars) with
    | .error flaw => .error flaw
    | .ok rest => if rest.length = chars.length then .ok rest else skipBetween fuel rest

/-- The scalar written by some hexadecimal digits. -/
def readHex (count : Nat) (chars : List Char) : Reading Char :=
  let digits := (chars.take count).filterMap Json.hexValue?
  let code := digits.foldl (fun code digit => code * 16 + digit) 0
  if digits.length ≠ count then .error .malformed
  else if code < 0xD800 || (0xDFFF < code && code < 0x110000) then
    .ok (Char.ofNat code, chars.drop count)
  else .error .malformed

/-- The character of a one-letter escape. -/
def escaped? : Char -> Option Char
  | 'b' => some '\x08'
  | 't' => some '\t'
  | 'n' => some '\n'
  | 'f' => some '\x0c'
  | 'r' => some '\r'
  | '"' => some '"'
  | '\\' => some '\\'
  | _ => none

/-- Read what follows a backslash: a character, or nothing for a line that is continued. -/
def readEscape (multiline : Bool) (chars : List Char) : Reading (Option Char) :=
  match chars with
  | [] => .error .malformed
  | c :: rest =>
    if multiline && (isSpace c || c == '\n') then
      match skipSpaces chars with
      | [] => .ok (none, [])
      | '\n' :: rest => .ok (none, skipSpacesAndLines rest)
      | _ => .error .malformed
    else if c = 'u' || c = 'U' then
      match readHex (if c = 'u' then 4 else 8) rest with
      | .error flaw => .error flaw
      | .ok (scalar, rest) => .ok (some scalar, rest)
    else
      match escaped? c with
      | none => .error .malformed
      | some meant => .ok (some meant, rest)

/-- Read the inside of a basic string and its closing mark. -/
def readBasic (multiline : Bool) : (fuel : Nat) -> (result : List Char) -> List Char ->
    Reading (List Char)
  | 0, _, _ | _, _, [] => .error .malformed
  | fuel + 1, result, c :: rest =>
    if c = '"' then
      if !multiline then .ok (result.reverse, rest)
      else
        match rest with
        | '"' :: '"' :: rest => .ok (result.reverse, rest)
        | _ => readBasic multiline fuel (c :: result) rest
    else if c = '\\' then
      match readEscape multiline rest with
      | .error flaw => .error flaw
      | .ok (none, rest) => readBasic multiline fuel result rest
      | .ok (some meant, rest) => readBasic multiline fuel (meant :: result) rest
    else if isControl c && !(multiline && c == '\n') then .error .malformed
    else readBasic multiline fuel (c :: result) rest

/-- Read the inside of a literal string of one line and its closing mark. -/
def readLiteral (chars : List Char) : Reading (List Char) :=
  let inside := chars.takeWhile (· != '\'')
  match chars.drop inside.length with
  | [] => .error .malformed
  | _ :: rest => if inside.any isControl then .error .malformed else .ok (inside, rest)

/-- Read the inside of a literal string of several lines and its closing mark. -/
def readLiteralLines (result : List Char) : List Char -> Reading (List Char)
  | [] => .error .malformed
  | '\'' :: '\'' :: '\'' :: rest => .ok (result.reverse, rest)
  | c :: rest =>
    if isControl c && c != '\n' then .error .malformed else readLiteralLines (c :: result) rest

/-- Up to two marks right after the closing one belong to a string of several lines. -/
def takeExtraMarks (mark : Char) (inside rest : List Char) : List Char × List Char :=
  match rest with
  | a :: b :: rest' =>
    if a = mark then
      if b = mark then (inside ++ [mark, mark], rest') else (inside ++ [mark], b :: rest')
    else (inside, rest)
  | [a] => if a = mark then (inside ++ [mark], []) else (inside, rest)
  | [] => (inside, rest)

/-- A line end right after the opening mark of a string of several lines is dropped. -/
def dropFirstLineEnd : List Char -> List Char
  | '\n' :: rest => rest
  | chars => chars

/-- Read a string. -/
def readString (chars : List Char) : Reading String :=
  let closeLines (mark : Char) (found : Reading (List Char)) : Reading String :=
    match found with
    | .error flaw => .error flaw
    | .ok (inside, rest) =>
      let (inside, rest) := takeExtraMarks mark inside rest
      .ok (String.ofList inside, rest)
  let closeLine (found : Reading (List Char)) : Reading String :=
    match found with
    | .error flaw => .error flaw
    | .ok (inside, rest) => .ok (String.ofList inside, rest)
  match chars with
  | '"' :: '"' :: '"' :: rest =>
    closeLines '"' (readBasic true rest.length [] (dropFirstLineEnd rest))
  | '"' :: rest => closeLine (readBasic false rest.length [] rest)
  | '\'' :: '\'' :: '\'' :: rest => closeLines '\'' (readLiteralLines [] (dropFirstLineEnd rest))
  | '\'' :: rest => closeLine (readLiteral rest)
  | _ => .error .malformed

/-- Whether a character may stand in a bare key. -/
def isBareKeyChar (c : Char) : Bool := (c.toNat < 128 && c.isAlphanum) || c == '-' || c == '_'

/-- Read one part of a key. -/
def readKeyPart (chars : List Char) : Reading String :=
  match chars with
  | '"' :: rest =>
    match readBasic false rest.length [] rest with
    | .error flaw => .error flaw
    | .ok (inside, rest) => .ok (String.ofList inside, rest)
  | '\'' :: rest =>
    match readLiteral rest with
    | .error flaw => .error flaw
    | .ok (inside, rest) => .ok (String.ofList inside, rest)
  | _ =>
    let bare := chars.takeWhile isBareKeyChar
    if bare.isEmpty then .error .malformed
    else .ok (String.ofList bare, chars.drop bare.length)

/-- Read further parts of a key, each after a point. -/
def readKeyParts : (fuel : Nat) -> (parts : List String) -> List Char -> Reading (List String)
  | 0, _, _ => .error .malformed
  | fuel + 1, parts, chars =>
    match readKeyPart chars with
    | .error flaw => .error flaw
    | .ok (part, rest) =>
      match skipSpaces rest with
      | '.' :: rest => readKeyParts fuel (part :: parts) (skipSpaces rest)
      | rest => .ok ((part :: parts).reverse, rest)

/-- Read a key: parts joined by points. It has at least one part. -/
def readKey (chars : List Char) : Reading (List String) := readKeyParts (chars.length + 1) [] chars

/-- Digits of a test at the head of a text, single underscores between them. -/
def spanDigits (isDigit : Char -> Bool) (afterDigit : Bool) : List Char -> List Char × List Char
  | [] => ([], [])
  | c :: rest =>
    if isDigit c then
      let (digits, after) := spanDigits isDigit true rest
      (c :: digits, after)
    else if afterDigit && c == '_' && rest.head?.any isDigit then spanDigits isDigit false rest
    else ([], c :: rest)

/-- Whether a character is a digit of a base. -/
def isDigitOf (base : Nat) (c : Char) : Bool := (Json.hexValue? c).any (· < base)

/-- The value of digits of a base. -/
def valueOf (base : Nat) (digits : List Char) : Nat :=
  digits.foldl (fun value c => value * base + (Json.hexValue? c).getD 0) 0

/-- The base a mark after a zero stands for. -/
def baseOf? : Char -> Option Nat
  | 'x' => some 16
  | 'o' => some 8
  | 'b' => some 2
  | _ => none

/-- Read an integer with a mark for its base. -/
def readBased? (chars : List Char) : Option (Value × List Char) :=
  match chars with
  | '0' :: mark :: rest =>
    match baseOf? mark with
    | none => none
    | some base =>
      let (digits, after) := spanDigits (isDigitOf base) false rest
      if digits.isEmpty then none else some (.integer (valueOf base digits), after)
  | _ => none

/-- Digits after a mark; nothing is taken when no digit follows the mark. -/
def spanAfter (marks : List Char) (signAllowed : Bool) (chars : List Char) :
    Option (Bool × List Char) × List Char :=
  match chars with
  | mark :: rest =>
    if marks.contains mark then
      let (negative, unsigned) := if signAllowed then splitSign rest else (false, rest)
      let (digits, after) := spanDigits Char.isDigit false unsigned
      if digits.isEmpty then (none, chars) else (some (negative, digits), after)
    else (none, chars)
  | [] => (none, chars)

/-- The greatest number of digits of a decimal integer. -/
def integerDigitLimit : Nat := 4300

/-- Read a decimal integer or a float. -/
def readDecimal (chars : List Char) : Reading Value :=
  let (negative, unsigned) := splitSign chars
  let (whole, rest) : List Char × List Char :=
    match unsigned with
    | '0' :: rest => (['0'], rest)
    | _ => spanDigits Char.isDigit false unsigned
  if whole.isEmpty then .error .malformed
  else
    let (fraction, rest) := spanAfter ['.'] false rest
    let (exponent, rest) := spanAfter ['e', 'E'] true rest
    if fraction.isNone && exponent.isNone then
      if integerDigitLimit < whole.length then .error (.overlongInteger whole.length)
      else .ok (.integer (signed negative (valueOf 10 whole)), rest)
    else
      let fractionDigits := (fraction.map (·.2)).getD []
      let power : Int := (exponent.map fun found => signed found.1 (valueOf 10 found.2)).getD 0
      .ok (.float (Binary64.ofDecimal negative (valueOf 10 (whole ++ fractionDigits))
        (power - fractionDigits.length)), rest)

/-- The microseconds that the digits of a fraction of a second stand for: six digits count. -/
def microsecondsOf (digits : List Char) : Nat :=
  valueOf 10 ((digits ++ List.replicate 6 '0').take 6)

/-- A time of day at the head of a text. -/
def readTime? (chars : List Char) : Option (TimeOfDay × List Char) := do
  let (hour, rest) ← Clock.Moment.takeNumber? 2 chars
  let rest ← Clock.Moment.takeMark? [':'] rest
  let (minute, rest) ← Clock.Moment.takeNumber? 2 rest
  let rest ← Clock.Moment.takeMark? [':'] rest
  let (second, rest) ← Clock.Moment.takeNumber? 2 rest
  if 23 < hour || 59 < minute || 59 < second then none
  match rest with
  | '.' :: after =>
    let digits := after.takeWhile Char.isDigit
    if digits.isEmpty then pure (⟨hour, minute, second, 0⟩, rest)
    else pure (⟨hour, minute, second, microsecondsOf digits⟩, after.drop digits.length)
  | _ => pure (⟨hour, minute, second, 0⟩, rest)

/-- A distance from universal time at the head of a text: a letter for none, or a sign, hours and
minutes. -/
def readOffset? : List Char -> Option (Offset × List Char)
  | 'Z' :: rest | 'z' :: rest => some (⟨0⟩, rest)
  | sign :: rest => do
    if sign != '+' && sign != '-' then none
    let (hour, rest) ← Clock.Moment.takeNumber? 2 rest
    let rest ← Clock.Moment.takeMark? [':'] rest
    let (minute, rest) ← Clock.Moment.takeNumber? 2 rest
    if 23 < hour || 59 < minute then none
    pure (⟨signed (sign == '-') (hour * 60 + minute)⟩, rest)
  | [] => none

/-- A calendar date at the head of a text: its shape is that of a date, though it need not exist. -/
def readDate? (chars : List Char) : Option (Date × List Char) := do
  let (year, rest) ← Clock.Moment.takeNumber? 4 chars
  let rest ← Clock.Moment.takeMark? ['-'] rest
  let (month, rest) ← Clock.Moment.takeNumber? 2 rest
  let rest ← Clock.Moment.takeMark? ['-'] rest
  let (day, rest) ← Clock.Moment.takeNumber? 2 rest
  if month = 0 || 12 < month || day = 0 || 31 < day then none
  pure (⟨year, month, day⟩, rest)

/-- Whether a date exists. -/
def dateExists (date : Date) : Bool :=
  date.year != 0 && decide (date.day ≤ Date.daysInMonth date.year date.month)

/-- Read a date, with or without a time of day, or a time of day. Nothing stands for other texts. -/
def readTemporal? (chars : List Char) : Option (Reading Value) :=
  match readDate? chars with
  | some (date, rest) =>
    if !dateExists date then some (.error .malformed)
    else
      let timed : Option (TimeOfDay × List Char) :=
        match rest with
        | mark :: after =>
          if mark = 'T' || mark = 't' || mark = ' ' then readTime? after else none
        | [] => none
      match timed with
      | none => some (.ok (.temporal (.date date), rest))
      | some (time, rest) =>
        match readOffset? rest with
        | some (offset, after) => some (.ok (.temporal (.dateTime date time (some offset)), after))
        | none => some (.ok (.temporal (.dateTime date time none), rest))
  | none => (readTime? chars).map fun (time, rest) => .ok (.temporal (.time time), rest)

/-- Values with a name of their own. -/
def namedValues : List (List Char × Value) :=
  [ ("true".toList, .truth true), ("false".toList, .truth false),
    ("inf".toList, .float (.infinite false)), ("+inf".toList, .float (.infinite false)),
    ("-inf".toList, .float (.infinite true)), ("nan".toList, .float .nan),
    ("+nan".toList, .float .nan), ("-nan".toList, .float .nan) ]

/-- Read a value that holds no other values. -/
def readSimple (chars : List Char) : Reading Value :=
  match chars with
  | '"' :: _ | '\'' :: _ =>
    match readString chars with
    | .error flaw => .error flaw
    | .ok (text, rest) => .ok (.text text, rest)
  | _ =>
    match namedValues.find? fun entry => entry.1.isPrefixOf chars with
    | some (name, value) => .ok (value, chars.drop name.length)
    | none =>
      match readTemporal? chars with
      | some reading => reading
      | none =>
        match readBased? chars with
        | some found => .ok found
        | none => readDecimal chars

/-- The state of a name in an inline table: a value, or a table opened by a key of several parts, to
which more may be added. -/
inductive Inline where
  | fixed (value : Value)
  | opened (members : List (String × Inline))

mutual

/-- The value of a name in a finished inline table. -/
def Inline.toValue : Inline -> Value
  | .fixed value => value
  | .opened members => .table (Inline.toMembers members)

/-- The members of a finished inline table. -/
def Inline.toMembers : List (String × Inline) -> Members
  | [] => []
  | (name, inline) :: rest => (name, inline.toValue) :: Inline.toMembers rest

end

/-- Add a value under a key to the members of an inline table. -/
def Inline.add? (value : Value) : (key : List String) -> List (String × Inline) ->
    Option (List (String × Inline))
  | [], _ => none
  | [name], members =>
    if members.any (·.1 == name) then none else some (members ++ [(name, .fixed value)])
  | name :: rest, members =>
    match members.find? (·.1 == name) with
    | none => (add? value rest []).map fun inner => members ++ [(name, .opened inner)]
    | some (_, .fixed _) => none
    | some (_, .opened inner) =>
      (add? value rest inner).map fun inner =>
        members.map fun member => if member.1 = name then (name, .opened inner) else member

mutual

/-- Read a value. The fuel is twice the number of characters: each nested value takes two units and at
least one character. -/
def readValue : (fuel : Nat) -> List Char -> Reading Value
  | 0, _ => .error .malformed
  | fuel + 1, chars =>
    match chars with
    | '[' :: rest =>
      match skipBetween rest.length rest with
      | .error flaw => .error flaw
      | .ok (']' :: rest) => .ok (.array [], rest)
      | .ok rest => readItems fuel [] rest
    | '{' :: rest =>
      match skipSpaces rest with
      | '}' :: rest => .ok (.table [], rest)
      | rest => readInline fuel [] rest
    | _ => readSimple chars

/-- Read the items of an array from its first unread item on. -/
def readItems : (fuel : Nat) -> (items : List Value) -> List Char -> Reading Value
  | 0, _, _ => .error .malformed
  | fuel + 1, items, chars =>
    match readValue fuel chars with
    | .error flaw => .error flaw
    | .ok (item, rest) =>
      match skipBetween rest.length rest with
      | .error flaw => .error flaw
      | .ok (']' :: rest) => .ok (.array (item :: items).reverse, rest)
      | .ok (',' :: rest) =>
        match skipBetween rest.length rest with
        | .error flaw => .error flaw
        | .ok (']' :: rest) => .ok (.array (item :: items).reverse, rest)
        | .ok rest => readItems fuel (item :: items) rest
      | .ok _ => .error .malformed

/-- Read the members of an inline table from its first unread key on. -/
def readInline : (fuel : Nat) -> (members : List (String × Inline)) -> List Char -> Reading Value
  | 0, _, _ => .error .malformed
  | fuel + 1, members, chars =>
    match readKey chars with
    | .error flaw => .error flaw
    | .ok (key, '=' :: rest) =>
      match readValue fuel (skipSpaces rest) with
      | .error flaw => .error flaw
      | .ok (value, rest) =>
        match Inline.add? value key members with
        | none => .error .malformed
        | some members =>
          match skipSpaces rest with
          | '}' :: rest => .ok (.table (Inline.toMembers members), rest)
          | ',' :: rest => readInline fuel members (skipSpaces rest)
          | _ => .error .malformed
    | .ok _ => .error .malformed

end

end RepoSurvey.Toml

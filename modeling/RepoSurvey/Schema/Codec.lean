import RepoSurvey.Json.Finite
import RepoSurvey.Number.Numeral
import RepoSurvey.Schema.Checked

/-!
# Codecs

A codec reads values of a type from JSON and writes them. Reading is lenient about numbers and truth
values: an integer may come as a truth value, as a whole double or as a numeral, a double as any
number or numeral, and a truth value as zero, one or a word. Strings come only as strings.
-/

namespace RepoSurvey.Schema

open Number (Binary64)
open Clock (Timestamp)

/- Powers are the core library's, whichever other structures of the numbers are in scope. -/
attribute [local instance (2000)] instPowNat

/-- How records are written: under which names, and whether fields without a value are left out. -/
structure Form where
  exchangedNames : Bool
  omitsAbsent : Bool
  deriving DecidableEq, Repr

namespace Form

/-- Own names, every field. -/
def stored : Form := ⟨false, false⟩

/-- Exchanged names, every field. -/
def answered : Form := ⟨true, false⟩

/-- Exchanged names, without absent fields. -/
def prompted : Form := ⟨true, true⟩

end Form

/-- A way to read and to write values of a type. -/
structure Codec (α : Type) where
  read : Json -> Checked α
  write : Form -> α -> Json

namespace Codec

/-- Any value. It is written with null in place of numbers that are not finite. -/
def any : Codec Json := ⟨.valid, fun _ value => value.finite⟩

/-- A string. -/
def text : Codec String where
  read
    | .str value => .valid value
    | _ => .misfit .notText
  write _ value := .str value

/-- A string of at least some characters. -/
def textFrom (least : Nat) : Codec String where
  read value := (text.read value).andThen fun found =>
    if found.length < least then .misfit (.shortText least) else .valid found
  write _ value := .str value

/-- Drop one zero after another from the digits of a numeral, the last digit excepted. Nothing if a
character other than digits, underscores, a minus sign and a point follows a leading zero. -/
def dropLeadingZeros? : List Char -> Option (List Char)
  | '0' :: rest => go '0' rest
  | c :: rest => if c.isDigit || c = '-' then some (c :: rest) else none
  | [] => none
where
  /-- Go on after a leading zero; `last` is the character before. -/
  go (last : Char) : List Char -> Option (List Char)
    | [] => some [last]
    | c :: rest =>
      if c = '0' || c = '_' then go c rest
      else if c.isDigit || c = '-' then some (c :: rest)
      else if c = '.' then some (last :: c :: rest)
      else none

/-- Drop the zeros after a point; nothing if anything else follows the point. -/
def dropFraction? (chars : List Char) : Option (List Char) :=
  let zeros := (chars.dropWhile (· != '.')).drop 1
  if !chars.contains '.' then some chars
  else if zeros.isEmpty || !zeros.all (· == '0') then none
  else some (chars.takeWhile (· != '.'))

/-- Whether two underscores stand beside each other. -/
def hasAdjacentUnderscores : List Char -> Bool
  | '_' :: '_' :: _ => true
  | _ :: rest => hasAdjacentUnderscores rest
  | [] => false

/-- Drop the underscores, unless one stands at an end or beside another. -/
def dropUnderscores (chars : List Char) : List Char :=
  if chars.head? = some '_' || chars.getLast? = some '_' || hasAdjacentUnderscores chars then chars
  else chars.filter (· != '_')

/-- The greatest number of digits of an integer numeral. -/
def numeralDigitLimit : Nat := 4300

/-- Read an integer numeral: digits with an optional sign, single underscores and a fraction of
zeros. Zeros before a minus sign are dropped like those before a digit. -/
def readNumeral (text : String) : Checked Int :=
  let unsigned? : Option (List Char) :=
    match Number.trimNumeral text.toList with
    | '+' :: '-' :: _ => none
    | '+' :: rest => some rest
    | chars => some chars
  match (unsigned?.bind dropLeadingZeros?).bind dropFraction? with
  | none => .misfit .unreadableInteger
  | some chars =>
    let (negative, digits) : Bool × List Char :=
      match dropUnderscores chars with
      | '-' :: rest => (true, rest)
      | rest => (false, rest)
    if digits.isEmpty || !digits.all Char.isDigit then .misfit .unreadableInteger
    else if numeralDigitLimit < digits.length then .misfit .oversizedInteger
    else .valid (Number.signed negative (Number.ofDigits (digits.map (·.toNat - 48))))

/-- Read an integer from a double, which has to be whole and within 64 bits. -/
def readWhole (value : Binary64) : Checked Int :=
  match value.toRat? with
  | none => .misfit .infiniteNumber
  | some exact =>
    if exact.den ≠ 1 then .misfit .fractionalInteger
    else if exact.num.natAbs < 2 ^ (63 : Nat) then .valid exact.num
    else .misfit .oversizedInteger

/-- An integer. -/
def integer : Codec Int where
  read
    | .int value => .valid value
    | .bool value => .valid (if value then 1 else 0)
    | .float value => readWhole value
    | .str value => readNumeral value
    | _ => .misfit .notInteger
  write _ value := .int value

/-- An integer between two bounds. -/
def integerWithin (least greatest : Int) : Codec Int where
  read value := (integer.read value).andThen fun found =>
    if found < least then .misfit (.belowLeast least)
    else if greatest < found then .misfit (.aboveGreatest greatest)
    else .valid found
  write _ value := .int value

/-- Read a double from an integer, which must not round to infinity. -/
def readIntegral (value : Int) : Checked Binary64 :=
  match Binary64.ofInt value with
  | .infinite _ => .misfit .notNumber
  | found => .valid found

/-- Read a double from a real numeral: with white space around it, or with underscores in it. -/
def readRealNumeral (text : String) : Checked Binary64 :=
  let chars := text.toList
  match Number.readReal? (Number.trimNumeral chars) with
  | some found => .valid found
  | none =>
    match Number.readReal? (dropUnderscores chars) with
    | some found => .valid found
    | none => .misfit .unreadableNumber

/-- A double. -/
def number : Codec Binary64 where
  read
    | .float value => .valid value
    | .int value => readIntegral value
    | .bool value => readIntegral (if value then 1 else 0)
    | .str value => readRealNumeral value
    | _ => .misfit .notNumber
  write _ value := .float value

/-- Words for true. -/
def trueWords : List String := ["1", "t", "y", "on", "yes", "true"]

/-- Words for false. -/
def falseWords : List String := ["0", "f", "n", "no", "off", "false"]

/-- Read a truth value from an integer. -/
def readBit (value : Int) : Checked Bool :=
  if value = 0 then .valid false
  else if value = 1 then .valid true
  else .misfit .unreadableTruth

/-- A truth value. -/
def truth : Codec Bool where
  read
    | .bool value => .valid value
    | .int value => readBit value
    | .float value =>
      match readWhole value with
      | .valid whole => readBit whole
      | .invalid _ => .misfit .notTruth
    | .str value =>
      let word := String.ofList (value.toList.map Char.toLower)
      if trueWords.contains word then .valid true
      else if falseWords.contains word then .valid false
      else .misfit .unreadableTruth
    | _ => .misfit .notTruth
  write _ value := .bool value

/-- A timestamp has to have a year. -/
def checkYear (stamp : Timestamp) : Checked Timestamp :=
  if stamp.isOfYearZero then .misfit (.impossibleMoment .yearZero) else .valid stamp

/-- Read a timestamp from a double. -/
def readStamp (value : Binary64) : Checked Timestamp :=
  match Timestamp.ofDouble value with
  | .ok stamp => checkYear stamp
  | .error flaw => .misfit (.impossibleMoment flaw)

/-- A timestamp, as its text or as a number that counts from the start of 1970. An integer that rounds
to infinity is no number. -/
def timestamp : Codec Timestamp where
  read
    | .str value =>
      match Timestamp.ofText value with
      | .ok stamp => checkYear stamp
      | .error flaw => .misfit (.unreadableMoment flaw)
    | .int value =>
      match Binary64.ofInt value, Timestamp.ofWhole value 0 with
      | .infinite _, _ => .misfit .notMoment
      | _, .ok stamp => checkYear stamp
      | _, .error flaw => .misfit (.impossibleMoment flaw)
    | .float value => readStamp value
    | _ => .misfit .notMoment
  write _ value := .str value.text

/-- One of a fixed list of values, each known by a name. -/
def choice {α : Type} [DecidableEq α] (all : List α) (name : α -> String) : Codec α where
  read value :=
    let found : Option α :=
      match value with
      | .str text => all.find? fun candidate => name candidate = text
      | _ => none
    match found with
    | some found => .valid found
    | none => .misfit (.notChoice (all.map name))
  write _ value := .str (name value)

/-- A list. -/
def list {α : Type} (codec : Codec α) : Codec (List α) where
  read
    | .arr items => Checked.items codec.read items
    | _ => .misfit .notList
  write form values := .arr (values.map (codec.write form))

/-- A list of at least some items. -/
def listFrom {α : Type} (least : Nat) (codec : Codec α) : Codec (List α) where
  read value := ((list codec).read value).andThen fun found =>
    if found.length < least then .misfit (.shortList least found.length) else .valid found
  write := (list codec).write

/-- A dictionary whose values are all read by one codec. -/
def dictionary {α : Type} (codec : Codec α) : Codec (List (String × α)) where
  read
    | .obj members => Checked.entries codec.read members
    | _ => .misfit .notDictionary
  write form values := .obj (values.map fun (name, value) => (name, codec.write form value))

/-- A dictionary of any values, written like any value. -/
def members : Codec (List (String × Json)) where
  read
    | .obj members => .valid members
    | _ => .misfit .notDictionary
  write _ members := .obj (Json.finiteMembers members)

/-- A value that may be null. -/
def optional {α : Type} (codec : Codec α) : Codec (Option α) where
  read
    | .null => .valid none
    | value => (codec.read value).map some
  write form
    | none => .null
    | some value => codec.write form value

end Codec

end RepoSurvey.Schema

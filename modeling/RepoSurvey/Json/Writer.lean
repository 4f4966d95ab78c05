import RepoSurvey.Json.Value
import RepoSurvey.Number.Decimal
import RepoSurvey.Text.Quoted

/-!
# Writing JSON

A value is written on one line, with a space after each comma and colon, or with every item on a line
of its own under an indentation. Characters beyond the seven-bit range stay as they are or are
escaped, by a surrogate pair where one unit of sixteen bits is not enough.
-/

namespace RepoSurvey.Json

open Number (intText Layout)
open Text (hexDigits)

/- Powers are the core library's, whichever other structures of the numbers are in scope. -/
attribute [local instance (2000)] instPowNat

/-- How a value is written. -/
structure Style where
  /-- Whether characters beyond the seven-bit range are escaped. -/
  asciiOnly : Bool
  /-- The width of one level of indentation; nothing for a value on one line. -/
  indent : Option Nat
  deriving DecidableEq, Repr

namespace Style

/-- One line, seven-bit characters only. -/
def ascii : Style := ⟨true, none⟩

/-- One line, all characters as they are. -/
def compact : Style := ⟨false, none⟩

/-- One item a line, indented by one space a level, all characters as they are. -/
def indented : Style := ⟨false, some 1⟩

end Style

/-- A sixteen-bit unit as an escape. -/
def escapeUnit (unit : Nat) : List Char := '\\' :: 'u' :: hexDigits 4 unit

/-- A character as one escape or as a surrogate pair of two. -/
def escapeScalar (code : Nat) : List Char :=
  if code < 0x10000 then escapeUnit code
  else
    escapeUnit (0xD800 + (code - 0x10000) / 0x400) ++ escapeUnit (0xDC00 + (code - 0x10000) % 0x400)

/-- A character inside a string. -/
def writeChar (asciiOnly : Bool) (c : Char) : List Char :=
  if c == '"' || c == '\\' then ['\\', c]
  else if c == '\n' then ['\\', 'n']
  else if c == '\r' then ['\\', 'r']
  else if c == '\t' then ['\\', 't']
  else if c == '\x0c' then ['\\', 'f']
  else if c == '\x08' then ['\\', 'b']
  else if c.toNat < 32 then escapeUnit c.toNat
  else if asciiOnly && 126 < c.toNat then escapeScalar c.toNat
  else [c]

/-- A string with its quotes. -/
def writeString (asciiOnly : Bool) (text : String) : List Char :=
  '"' :: (text.toList.flatMap (writeChar asciiOnly) ++ ['"'])

/-- The start of a line at a level of indentation; nothing when all stands on one line. -/
def Style.lineStart (style : Style) (level : Nat) : List Char :=
  match style.indent with
  | none => []
  | some width => '\n' :: List.replicate (width * level) ' '

/-- What stands between two items. -/
def Style.separator (style : Style) (level : Nat) : List Char :=
  match style.indent with
  | none => [',', ' ']
  | some _ => ',' :: style.lineStart level

mutual

/-- A value at a level of indentation. -/
def write (style : Style) (level : Nat) : Json -> List Char
  | .null => "null".toList
  | .bool value => if value then "true".toList else "false".toList
  | .int value => (intText value).toList
  | .float value => (Layout.exchange.text value).toList
  | .str value => writeString style.asciiOnly value
  | .arr [] => ['[', ']']
  | .arr (item :: items) =>
    '[' :: (style.lineStart (level + 1) ++ write style (level + 1) item ++
      writeItems style (level + 1) items ++ style.lineStart level ++ [']'])
  | .obj [] => ['{', '}']
  | .obj ((name, value) :: members) =>
    '{' :: (style.lineStart (level + 1) ++ writeString style.asciiOnly name ++ [':', ' '] ++
      write style (level + 1) value ++ writeMembers style (level + 1) members ++
      style.lineStart level ++ ['}'])

/-- Further items, each after its separator. -/
def writeItems (style : Style) (level : Nat) : List Json -> List Char
  | [] => []
  | item :: items => style.separator level ++ write style level item ++ writeItems style level items

/-- Further members, each after its separator. -/
def writeMembers (style : Style) (level : Nat) : List (String × Json) -> List Char
  | [] => []
  | (name, value) :: members =>
    style.separator level ++ writeString style.asciiOnly name ++ [':', ' '] ++
      write style level value ++ writeMembers style level members

end

/-- The text of a value. -/
def text (style : Style) (value : Json) : String := String.ofList (write style 0 value)

/-- The greatest number of digits of an integer that is written as text. -/
def writtenDigitLimit : Nat := 4300

/-- The report about an integer with more digits. -/
def unwritableReport : String :=
  "Exceeds the limit (4300 digits) for integer string conversion; " ++
    "use sys.set_int_max_str_digits() to increase the limit"

/-- Whether an integer has at most that many digits. -/
def integerFits (value : Int) : Bool := value.natAbs < 10 ^ writtenDigitLimit

mutual

/-- Whether all integers in a value have at most that many digits. -/
def integersFit : Json -> Bool
  | .int value => integerFits value
  | .arr items => itemIntegersFit items
  | .obj members => memberIntegersFit members
  | _ => true

/-- Whether all integers in some items have at most that many digits. -/
def itemIntegersFit : List Json -> Bool
  | [] => true
  | item :: items => integersFit item && itemIntegersFit items

/-- Whether all integers in some members have at most that many digits. -/
def memberIntegersFit : List (String × Json) -> Bool
  | [] => true
  | (_, value) :: members => integersFit value && memberIntegersFit members

end

end RepoSurvey.Json

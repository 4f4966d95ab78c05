import RepoSurvey.Json.Writer
import RepoSurvey.Text.Quoted

/-!
# Documents

JSON can be read by the rules of YAML, but some of it comes out differently. Characters that are not
printable are refused. In a quoted text three uncommon characters are line breaks, about which the text
is folded: blanks around them are dropped, and a single one of the weakest kind becomes a blank.
Numbers with an exponent and without a point are texts, and so are numbers that are not finite.
-/

namespace RepoSurvey.Yaml

/-! ## Characters -/

/-- Whether a document may hold a character. -/
def isAcceptable (c : Char) : Bool :=
  c = '\t' || c = '\n' || c = '\r' || (' ' ≤ c && c ≤ '~') || c = '\u0085' ||
    ('\u00a0' ≤ c && c.toNat < 0xFFFE) || 0x10000 ≤ c.toNat

/-- A character that is not accepted, and its position. -/
structure Unacceptable where
  character : Char
  position : Nat
  deriving DecidableEq, Repr

/-- The report about a character in a document of some name. -/
def Unacceptable.message (document : String) (unacceptable : Unacceptable) : String :=
  "unacceptable character #x" ++
    String.ofList (Text.hexDigits 4 unacceptable.character.toNat) ++
    ": special characters are not allowed\n  in \"" ++ document ++ "\", position " ++
    Number.natText unacceptable.position

/-- The first character that is not accepted. -/
def firstUnacceptable? (chars : List Char) : Option Unacceptable :=
  (chars.zipIdx.find? fun entry => !isAcceptable entry.1).map fun (c, position) => ⟨c, position⟩

/-! ## Folded texts -/

/-- Whether a character breaks a line of a quoted text. Common line breaks are always escaped there. -/
def isBreak (c : Char) : Bool := c = '\u0085' || c = '\u2028' || c = '\u2029'

/-- The character that a break other than the first one of a row stands for. -/
def keptBreak (c : Char) : Char := if c = '\u0085' then '\n' else c

/-- What was read of a text and not yet written: blanks, or a row of breaks. -/
inductive Pending where
  | blanks (count : Nat)
  | breaks (first : Char) (more : List Char)
  deriving DecidableEq, Repr

/-- What is written of it in the end. -/
def Pending.flush : Pending -> List Char
  | .blanks count => List.replicate count ' '
  | .breaks first more =>
    if first = '\u0085' then if more.isEmpty then [' '] else more else first :: more

/-- Fold a text after what is pending. -/
def foldFrom (pending : Pending) : List Char -> List Char
  | [] => pending.flush
  | c :: rest =>
    if c = ' ' then
      match pending with
      | .blanks count => foldFrom (.blanks (count + 1)) rest
      | broken => foldFrom broken rest
    else if isBreak c then
      match pending with
      | .blanks _ => foldFrom (.breaks c []) rest
      | .breaks first more => foldFrom (.breaks first (more ++ [keptBreak c])) rest
    else pending.flush ++ c :: foldFrom (.blanks 0) rest

/-- Fold a text. -/
def folded (text : String) : String := String.ofList (foldFrom (.blanks 0) text.toList)

/-- A text without breaks is folded to itself. -/
theorem foldFrom_blanks (count : Nat) (chars : List Char)
    (unbroken : ∀ c ∈ chars, isBreak c = false) :
    foldFrom (.blanks count) chars = List.replicate count ' ' ++ chars := by
  induction chars generalizing count with
  | nil => simp [foldFrom, Pending.flush]
  | cons c rest inductionHypothesis =>
    have head := unbroken c (by simp)
    have tail : ∀ d ∈ rest, isBreak d = false := fun d member => unbroken d (by simp [member])
    by_cases blank : c = ' '
    · simp [foldFrom, blank, inductionHypothesis _ tail, List.replicate_succ']
    · simp [foldFrom, blank, head, inductionHypothesis _ tail, Pending.flush]

/-! ## Values -/

/-- Whether the text of a number is that of a number in a document as well. -/
def isNumberText (text : String) : Bool := text.contains '.'

mutual

/-- The value that a written value is read as. -/
def reread : Json -> Json
  | .str text => .str (folded text)
  | .float number =>
    let text := (Json.float number).text .compact
    if isNumberText text then .float number else .str text
  | .arr items => .arr (rereadItems items)
  | .obj members => .obj (Json.mergeMembers (rereadMembers members))
  | value => value

/-- The items of a list that is read. -/
def rereadItems : List Json -> List Json
  | [] => []
  | item :: items => reread item :: rereadItems items

/-- The members of an object that is read. -/
def rereadMembers : List (String × Json) -> List (String × Json)
  | [] => []
  | (name, value) :: members => (folded name, reread value) :: rereadMembers members

end

/-- Read a value written as a document. -/
def readWritten (value : Json) : Except Unacceptable Json :=
  match firstUnacceptable? (value.text .compact).toList with
  | some unacceptable => .error unacceptable
  | none => .ok (reread value)

example : folded "a \u0085 b" = "a b" := by decide +kernel
example : folded "a\u2028 \u0085b " = "a\u2028\nb " := by decide +kernel

end RepoSurvey.Yaml

import RepoSurvey.Json.Dictionary
import RepoSurvey.Json.Shape
import RepoSurvey.Number.Decimal
import RepoSurvey.Store.Cache
import RepoSurvey.Store.Documents

/-!
# Requests from outside

The stored documents and the caches can be asked with values of any shape. What a table is asked with
has to fit its columns; the absent value equals nothing there, so that nothing is found for it. What a
cache in memory is asked with has to be usable as a name.

The columns of a table hold texts. A number is turned into its text, a truth value counting as zero or
one; an undefined number counts as no value at all, and neither arrays nor objects can be passed on.
-/

namespace RepoSurvey.Store

/-! ## Columns -/

section Columns

open Number (Binary64 Layout)

/- Powers are the core library's, whichever other structures of the numbers are in scope. -/
attribute [local instance (2000)] instPowNat

/-- Why a value cannot be passed to a table. -/
inductive ColumnFault where
  /-- The value at a position is of a kind that no column holds. -/
  | unsupported (position : Nat) (kind : String)
  /-- An integer has more than 64 bits. -/
  | oversized
  deriving DecidableEq, Repr

/-- The wording of a fault. -/
def ColumnFault.message : ColumnFault -> String
  | .unsupported position kind =>
    "Error binding parameter " ++ Number.natText position ++ ": type '" ++ kind ++
      "' is not supported"
  | .oversized => "Python int too large to convert to SQLite INTEGER"

/-- Doubles in columns: fifteen digits, positional from `10 ^ -4` to below `10 ^ 15`, always with a
fraction. -/
def columnLayout : Layout := ⟨-4, 15, ".0", ".0", 2, "", "Inf"⟩

/-- A double as the text of a column. -/
def doubleText : Binary64 -> String
  | .finite negative significand exponent =>
    if significand = 0 then "0.0"
    else
      (if negative then "-" else "") ++
        columnLayout.decimalText (Number.Decimal.rounded 15 significand exponent)
  | other => columnLayout.text other

/-- The text of a value at a position, counted from one; nothing for the absent value. -/
def columnText? (position : Nat) : Json -> Except ColumnFault (Option String)
  | .null | .float .nan => .ok none
  | .str text => .ok (some text)
  | .bool value => .ok (some (if value then "1" else "0"))
  | .int value =>
    if -(2 ^ (63 : Nat)) ≤ value && value < 2 ^ (63 : Nat) then .ok (some (Number.intText value))
    else .error .oversized
  | .float value => .ok (some (doubleText value))
  | value => .error (.unsupported position value.kindName)

example : doubleText (Binary64.ofDecimal false 1 20) = "1.0e+20" := by decide +kernel
example : doubleText (Binary64.ofRatio false 2 3) = "0.666666666666667" := by decide +kernel

end Columns

/-! ## Requests -/

open Clock (Moment)
open Json (ShapeFault)

/-- Why a request from outside comes to nothing. -/
inductive EntryFault where
  | column (fault : ColumnFault)
  | missing (value : MissingValue)
  | shape (fault : ShapeFault)
  | cache (fault : CacheFault)
  deriving DecidableEq, Repr

/-- The wording of a fault. -/
def EntryFault.message : EntryFault -> String
  | .column fault => fault.message
  | .missing value => value.message
  | .shape fault => fault.message
  | .cache fault => fault.message

/-- The texts of several values, from a position on. -/
def columnTexts (position : Nat) : List Json -> Except EntryFault (List (Option String))
  | [] => .ok []
  | value :: values => do
    let text <- (columnText? position value).mapError .column
    pure (text :: (<- columnTexts (position + 1) values))

/-- The status that a text names, the published one when none is asked for. -/
def statusOf (given : Option Json) : Except ColumnFault (Option Status) :=
  match given with
  | none => .ok (some .published)
  | some value => (columnText? 1 value).map fun text => text.bind Status.ofName?

namespace Documents

/-- Save a draft. A content that has no length is saved, although that is a fault. -/
def enter (project name content language : Json) (now : Moment) (documents : Documents) :
    Except EntryFault Unit × Documents :=
  let saved : Except EntryFault Documents := do
    let keys <- columnTexts 1 [project, name, language]
    let content <- (columnText? 5 content).mapError .column
    (documents.saveColumns (keys.getD 0 none) (keys.getD 1 none) content (keys.getD 2 none)
      now).mapError .missing
  match saved, content with
  | .error fault, _ => (.error fault, documents)
  | .ok documents, .str _ => (.ok (), documents)
  | .ok documents, content => (.error (.shape (.unsized content.kindName)), documents)

/-- The content of a document; of a published one when no status is given. -/
def lookFor (project name language : Json) (status : Option Json) (documents : Documents) :
    Except EntryFault (Option String) := do
  let keys <- columnTexts 1 ([project, name, language] ++ status.toList)
  let status <- (statusOf status).mapError .column
  pure <|
    match keys, status with
    | some project :: some name :: some language :: _, some status =>
      documents.get? project name language status
    | _, _ => none

/-- The names of the documents of a project in a language. -/
def namesFor (project language : Json) (status : Option Json) (documents : Documents) :
    Except EntryFault (List String) := do
  let keys <- columnTexts 1 ([project, language] ++ status.toList)
  let status <- (statusOf status).mapError .column
  pure <|
    match keys, status with
    | some project :: some language :: _, some status => documents.names project language status
    | _, _ => []

end Documents

/-! ## Caches -/

/-- The mark of names that are no texts. -/
def strangeMark : String := "\x00"

/-- The name under which a cache in memory keeps a value for a key. Texts that begin like the names of
other keys are marked once more. -/
def memoryKey (key : Json) : Except ShapeFault String :=
  match key with
  | .str text => .ok (if text.startsWith strangeMark then strangeMark ++ text else text)
  | .arr _ | .obj _ => .error (.unhashable key.kindName)
  | other =>
    let amount :=
      match Json.exactValue? other with
      | some exact => Number.intText exact.num ++ "/" ++ Number.natText exact.den
      | none => other.literal
    .ok (strangeMark ++ "n" ++ amount)

namespace Cache

/-- The name under which a cache keeps a value for a key. A table keeps nothing that could be found for
the absent value. -/
def keyFor (key : Json) : Cache -> Except EntryFault (Option String)
  | .memory _ => ((memoryKey key).map some).mapError .shape
  | .table _ => (columnText? 1 key).mapError .column

/-- What a value would be kept for in this cache has to lead to an end. -/
def checkLifetime (lifetime : Lifetime) (now : Moment) : Cache -> Except EntryFault Unit
  | .memory _ => .ok ()
  | .table _ => ((lifetime.endFrom now).map fun _ => ()).mapError .shape

end Cache

end RepoSurvey.Store

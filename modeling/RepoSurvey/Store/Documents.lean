import RepoSurvey.Schema.Part

/-!
# Stored documents

Every document of a project exists as a draft, as a published one, or both, in each language.
Publishing replaces all published documents of a project by its drafts in one transaction, if there
are any drafts; readers never see a mixture.
-/

namespace RepoSurvey.Store

open Schema
open Clock (Moment Timestamp)

/-- Whether a document is published. -/
inductive Status where
  | draft
  | published
  deriving DecidableEq, Repr

namespace Status

/-- The name of a status. -/
def name : Status -> String
  | .draft => "draft"
  | .published => "published"

/-- The status of a name. -/
def ofName? (text : String) : Option Status :=
  [draft, published].find? fun status => status.name = text

end Status

/-- A stored document. -/
structure Row where
  project : String
  name : String
  language : String
  status : Status
  content : String
  updatedAt : Timestamp
  deriving DecidableEq, Repr

/-- The stored documents, at most one for each project, name, language and status. -/
abbrev Documents := List Row

/-- A row that lacks a value. -/
structure MissingValue where
  column : String
  deriving DecidableEq, Repr

/-- The wording of a missing value. -/
def MissingValue.message (missing : MissingValue) : String :=
  "NOT NULL constraint failed: analysis_documents." ++ missing.column

namespace Row

/-- How rows are read and written. -/
def codec : Codec Row :=
  .record "StoredDocument" <|
    Row.mk <$> .field "project_key" .text project none
      <*> .field "doc_name" .text name none
      <*> .field "language" .text language none
      <*> .field "status" (.choice [.draft, .published] Status.name) status none
      <*> .field "content" .text content none
      <*> .field "updated_at" .timestamp updatedAt none

/-- Whether two rows hold the same document in the same status. -/
def sameKey (left right : Row) : Bool :=
  left.project == right.project && left.name == right.name && left.language == right.language &&
    left.status == right.status

/-- Whether a row belongs to a project and has a status. -/
def isOf (project : String) (status : Status) (row : Row) : Bool :=
  row.project == project && row.status == status

end Row

namespace Documents

/-- Put a row in place of the one with the same key, or at the end. -/
def putRow (row : Row) : Documents -> Documents
  | [] => [row]
  | other :: rest => if other.sameKey row then row :: rest else other :: putRow row rest

/-- Save a draft. -/
def save (project name content language : String) (now : Moment) (documents : Documents) :
    Documents :=
  documents.putRow ⟨project, name, language, .draft, content, .ofMoment now⟩

/-- A value that a column has to have. -/
def required (column : String) : Option String -> Except MissingValue String
  | some value => .ok value
  | none => .error ⟨column⟩

/-- Save a draft whose values may be missing. -/
def saveColumns (project name content language : Option String) (now : Moment)
    (documents : Documents) : Except MissingValue Documents := do
  let project <- required "project_key" project
  let name <- required "doc_name" name
  let language <- required "language" language
  let content <- required "content" content
  .ok (documents.save project name content language now)

/-- The content of a document. -/
def get? (project name language : String) (status : Status) (documents : Documents) :
    Option String :=
  (documents.find? fun row =>
    row.isOf project status && row.name == name && row.language == language).map Row.content

/-- The names of the documents of a project in a language, in order. -/
def names (project language : String) (status : Status) (documents : Documents) : List String :=
  ((documents.filter fun row => row.isOf project status && row.language == language).map
    Row.name).mergeSort fun left right => left ≤ right

/-- Whether a row is a draft of a project, of one document if a name is given. -/
def isDraftOf (project : String) (name : Option String) (row : Row) : Bool :=
  row.isOf project .draft && name.all (· == row.name)

/-- Delete drafts of a project, of one document if a name is given, and count them. -/
def discardDrafts (project : String) (name : Option String) (documents : Documents) :
    Nat × Documents :=
  (documents.countP (isDraftOf project name),
    documents.filter fun row => !isDraftOf project name row)

/-- The number of drafts of a project. -/
def countDrafts (project : String) (documents : Documents) : Nat :=
  documents.countP (Row.isOf project .draft)

/-- A statement of a transaction. -/
inductive Statement where
  /-- Delete the published documents of a project. -/
  | deletePublished (project : String)
  /-- Make the drafts of a project published documents. -/
  | promoteDrafts (project : String)
  /-- Delete all documents of a project. -/
  | deleteProject (project : String)
  /-- A statement that cannot be carried out. -/
  | invalid
  deriving DecidableEq, Repr

/-- Carry out a statement; nothing when it fails. -/
def Statement.apply (documents : Documents) : Statement -> Option Documents
  | .deletePublished project => some (documents.filter fun row => !row.isOf project .published)
  | .promoteDrafts project =>
    some (documents.map fun row =>
      if row.isOf project .draft then { row with status := .published } else row)
  | .deleteProject project => some (documents.filter fun row => row.project != project)
  | .invalid => none

/-- Carry out a transaction: all its statements or none. The first value says whether it succeeded. -/
def transact (statements : List Statement) (documents : Documents) : Bool × Documents :=
  match statements.foldlM Statement.apply documents with
  | some changed => (true, changed)
  | none => (false, documents)

/-- The transaction that publishes the drafts of a project. -/
def publication (project : String) : List Statement :=
  [.deletePublished project, .promoteDrafts project]

/-- Publish the drafts of a project, if there are any, and count them. -/
def publish (project : String) (documents : Documents) : Nat × Documents :=
  let count := documents.countDrafts project
  if count = 0 then (0, documents) else (count, (documents.transact (publication project)).2)

/-- Rows in the order of project, name, language and status. -/
def ordered (documents : Documents) : List Row :=
  let key (row : Row) : List String := [row.project, row.name, row.language, row.status.name]
  documents.mergeSort fun left right => !decide (key right < key left)

end Documents

end RepoSurvey.Store

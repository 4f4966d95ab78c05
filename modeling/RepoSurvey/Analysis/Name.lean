import RepoSurvey.Number.Decimal
import RepoSurvey.Text.Blank

/-!
# Names of documents

A document is named after its title, without white space and characters that mean something in paths.
Titles that lead to the same name are told apart by numbers. A sidebar lists links to documents, with an
empty line between them.
-/

namespace RepoSurvey.Analysis

/-- Whether a character may not stand in a name. -/
def isUnsafe (c : Char) : Bool :=
  Text.isBlank c || ['/', '\\', '?', '#', '%', '*', ':', '|', '"', '<', '>'].contains c

/-- The name of a document whose title leaves none. -/
def fallbackName : String := "document"

/-- The name of a document. -/
def documentName (title : String) : String :=
  let name := Text.trimBy (· == '.') (title.toList.filter fun c => !isUnsafe c)
  if name.isEmpty then fallbackName else String.ofList name

/-- A name told apart from `earlier` same ones before it. -/
def numberedName (base : String) (earlier : Nat) : String :=
  if earlier = 0 then base else base ++ "-" ++ Number.natText (earlier + 1)

/-- Names of documents in order; `before` holds the names that earlier titles led to. -/
def assignNamesAfter (before : List String) : List String -> List String
  | [] => []
  | title :: titles =>
    let base := documentName title
    numberedName base (before.count base) :: assignNamesAfter (base :: before) titles

/-- The names of documents with these titles. -/
def assignNames (titles : List String) : List String := assignNamesAfter [] titles

/-- There is one name for each title. -/
theorem length_assignNamesAfter (before titles : List String) :
    (assignNamesAfter before titles).length = titles.length := by
  induction titles generalizing before with
  | nil => rfl
  | cons title titles inductionHypothesis => simp [assignNamesAfter, inductionHypothesis]

/-- There is one name for each title. -/
@[simp] theorem length_assignNames (titles : List String) :
    (assignNames titles).length = titles.length := length_assignNamesAfter [] titles

end RepoSurvey.Analysis

namespace RepoSurvey.Analysis

/-- A link to a document. -/
structure Link where
  title : String
  docName : String
  deriving DecidableEq, Repr

/-- The line of a link. -/
def Link.line (link : Link) : String := "- [" ++ link.title ++ "](" ++ link.docName ++ ".md)"

/-- The name under which sidebars are kept. -/
def sidebarName : String := "_sidebar"

/-- The first line of a sidebar. -/
def sidebarHeader : String := "<!-- docs/_sidebar.md -->"

/-- The text of a sidebar. -/
def sidebarText (links : List Link) : String :=
  sidebarHeader ++ "\n" ++ String.intercalate "\n\n" (links.map Link.line)

end RepoSurvey.Analysis

import RepoSurvey.Service.Request
import RepoSurvey.Text.Blank

/-!
# Routes

A path leads to at most one route, and each route knows one method. The key of a project may contain
slashes; the name of a document may not. A path with slashes too many at its end is redirected.
-/

namespace RepoSurvey.Service

/-- What a path leads to. -/
inductive Route where
  | health
  | analyses
  | progress
  | result
  | sessions
  | documentList (project : String)
  | document (project name : String)
  deriving DecidableEq, Repr

namespace Route

/-- The method a route knows. -/
def method : Route -> String
  | .analyses => "POST"
  | _ => "GET"

/-- The routes of fixed paths. -/
def fixed : List (String × Route) :=
  [ ("/v1/analyses", .analyses), ("/v1/analyses/progress", .progress),
    ("/v1/analyses/result", .result), ("/v1/analyses/sessions", .sessions),
    ("/health", .health) ]

/-- What documents are found under. -/
def documentsRoot : List Char := "/v1/docs/".toList

/-- The text before an ending, if it ends so. -/
def before? (ending : String) (text : List Char) : Option (List Char) :=
  if ending.toList.isSuffixOf text then some (text.take (text.length - ending.length)) else none

/-- A project key, which stands on one line. -/
def projectKey? (chars : List Char) : Option String :=
  if chars.contains '\n' then none else some (String.ofList chars)

/-- The list of the documents of a project. -/
def documentList? (below : List Char) : Option Route := do
  let project ← projectKey? (← before? "/list" below)
  pure (.documentList project)

/-- A document of a project. -/
def document? (below : List Char) : Option Route := do
  let name := (below.reverse.takeWhile (· != '/')).reverse
  if name.isEmpty then none
  else
    let project ← projectKey? (← before? "/file/" (below.take (below.length - name.length)))
    pure (.document project (String.ofList name))

/-- The route of a path below which documents are found; lists come first. -/
def ofDocumentPath? (path : List Char) : Option Route :=
  if documentsRoot.isPrefixOf path then
    let below := path.drop documentsRoot.length
    (documentList? below).or (document? below)
  else none

/-- The route of a path. -/
def ofPath? (path : String) : Option Route :=
  ((fixed.find? (·.1 == path)).map (·.2)).or (ofDocumentPath? path.toList)

/-- Whether a path leads to a route once the slashes at its end are dropped. -/
def isRedirected (path : String) : Bool :=
  path.endsWith "/" && path != "/" &&
    (ofPath? (String.ofList (Text.dropEnd (· == '/') path.toList))).isSome

end Route

end RepoSurvey.Service

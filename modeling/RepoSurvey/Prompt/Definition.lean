import RepoSurvey.Json.Shape
import RepoSurvey.Prompt.Library
import RepoSurvey.Yaml.Document

/-!
# Defined prompts

Prompts can be defined by a document that holds an entry for each name. A document without content
defines no prompts; other parts of an entry than the role and the action are of no consequence.
-/

namespace RepoSurvey.Prompt

open Schema

/-- Why prompts are not defined by a document. -/
inductive DefinitionFault where
  | unacceptable (flaw : Yaml.Unacceptable)
  /-- The document holds no entries. -/
  | shape (fault : Json.ShapeFault)
  /-- An entry has no parts. -/
  | noParts (kind : String)
  /-- An entry names itself. -/
  | repeatedName
  | unfit (report : Report)
  deriving DecidableEq, Repr

/-- The wording of a fault in a document of some name. -/
def DefinitionFault.message (document : String) : DefinitionFault -> String
  | .unacceptable flaw => flaw.message document
  | .shape fault => fault.message
  | .noParts kind =>
    "repo_analyzer.orchestrator.prompts.PromptDefinition() argument after ** must be a mapping, not " ++
      kind
  | .repeatedName =>
    "repo_analyzer.orchestrator.prompts.PromptDefinition() got multiple values for keyword argument " ++
      "'key'"
  | .unfit report => report.text

/-- The prompt that an entry defines. -/
def ofEntry : Json -> Except DefinitionFault Prompt
  | .obj parts =>
    if (Json.lookup "key" parts).isSome then .error .repeatedName
    else ((codec.read (.obj parts)).toExcept recordName).mapError .unfit
  | entry => .error (.noParts entry.kindName)

/-- The prompts that entries define. -/
def Prompts.ofEntries : List (String × Json) -> Except DefinitionFault Prompts
  | [] => .ok []
  | (name, entry) :: entries => do
    let prompt <- ofEntry entry
    pure ((name, prompt) :: (<- ofEntries entries))

/-- The prompts that a value defines when it is written as a document. -/
def Prompts.ofDefinitions (value : Json) : Except DefinitionFault Prompts := do
  match <- (Yaml.readWritten value).mapError .unacceptable with
  | .obj entries => ofEntries entries
  | value =>
    if value.isPresent then throw (.shape (.noOperation value.kindName "items")) else pure []

end RepoSurvey.Prompt

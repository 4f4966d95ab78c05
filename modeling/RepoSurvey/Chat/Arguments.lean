import RepoSurvey.Chat.Tool
import RepoSurvey.Reply.Requirement

/-!
# Arguments of any shape

Arguments that were never checked need not be an object. The required names are then looked for in
whatever they are, and after that there are no named values whose types could be checked.
-/

namespace RepoSurvey.Chat.ToolDefinition

open Json (ShapeFault)

/-- All problems of arguments that need not be an object. -/
def givenProblems (definition : ToolDefinition) : Json -> Except ShapeFault (List String)
  | .obj arguments => definition.argumentProblems arguments
  | arguments => do
    let required := (Json.lookup "required" definition.parameters).getD (.arr [])
    let _ <- Reply.missingParts arguments (<- required.parts)
    throw (.noOperation arguments.kindName "items")

/-- Arguments that are no object are never accepted. -/
theorem givenProblems_array (definition : ToolDefinition) (items : List Json) :
    (definition.givenProblems (.arr items)).toOption = none := by
  simp only [givenProblems]
  cases ((Json.lookup "required" definition.parameters).getD (.arr [])).parts with
  | error fault => rfl
  | ok required =>
    cases missing : Reply.missingParts (.arr items) required with
    | error fault => simp [bind, Except.bind, missing, Except.toOption]
    | ok names => simp [bind, Except.bind, missing, Except.toOption, throw, throwThe,
        MonadExceptOf.throw]

end RepoSurvey.Chat.ToolDefinition

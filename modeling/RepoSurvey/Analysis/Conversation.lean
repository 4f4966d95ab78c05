import RepoSurvey.Analysis.Context
import RepoSurvey.Analysis.Document
import RepoSurvey.Analysis.Feature

/-!
# Conversations of stages

Each stage is one conversation with an agent of its own. Its reply is turned into what the stage is
for, or the stage fails. An unreadable JSON reply is corrected in the same conversation, with the same
tools, a bounded number of times. What the agent did can be recorded in a session.
-/

namespace RepoSurvey.Analysis

open Agent (Outcome Profile)
open Chat (Message ToolCall)
open Schema

/-! ## Records of what agents did -/

/-- How a tool call came out, as the conversation shows it. -/
structure ToolOutcome where
  toolName : String
  success : Bool
  summary : String
  deriving DecidableEq, Repr

/-- Tool calls that await their answers: names by identifier. -/
abbrev Awaited := List (String × String)

namespace Awaited

/-- Await the answer to a call; a call of the same identifier is forgotten. -/
def await (awaited : Awaited) (call : ToolCall) : Awaited :=
  (call.id, call.name) :: awaited.filter fun entry => entry.1 != call.id

/-- The name of the call of an identifier. -/
def name? (awaited : Awaited) (id : String) : Option String :=
  (awaited.find? fun entry => entry.1 == id).map (·.2)

/-- Await no answer to an identifier any more. -/
def forget (awaited : Awaited) (id : String) : Awaited := awaited.filter fun entry => entry.1 != id

end Awaited

/-- What the model is told about a failure starts like this. -/
def failureMark : String := "Error:"

/-- How the tool calls in a conversation came out. -/
def toolOutcomes (awaited : Awaited) : List Message -> List ToolOutcome
  | [] => []
  | message :: messages =>
    match message.role, message.toolCallId.bind awaited.name?, message.toolCallId with
    | .assistant, _, _ => toolOutcomes (message.toolCalls.foldl Awaited.await awaited) messages
    | .tool, some name, some id =>
      ⟨name, !message.content.startsWith failureMark, message.content⟩ ::
        toolOutcomes (awaited.forget id) messages
    | _, _, _ => toolOutcomes awaited messages

/-- A line about what an agent did in a stage. -/
def activityLine (stage : Stage) (outcome : Outcome) : String :=
  "[" ++ stage.name ++ "] " ++ Number.natText outcome.iterations ++ " iteration(s), " ++
    Number.natText outcome.toolCallCount ++ " tool call(s), " ++
    Number.groupedText outcome.content.length ++ " chars"

/-- Record tool calls in a session. -/
def recordTools (session : String) : List ToolOutcome -> Attempt Unit
  | [] => pure ()
  | outcome :: outcomes => do
    let _ <- recordTool session outcome.toolName outcome.success outcome.summary
    recordTools session outcomes

/-- Record what an agent did in a session. -/
def recordActivity (session : String) (stage : Stage) (outcome : Outcome) : Attempt Unit := do
  recordTools session (toolOutcomes [] outcome.history)
  let _ <- remark session "assistant" (activityLine stage outcome)

/-- Record what an agent did, if there is a session. -/
def recordIn (session : Option String) (stage : Stage) (outcome : Outcome) : Attempt Unit :=
  match session with
  | none => pure ()
  | some session => recordActivity session stage outcome

/-! ## Conversations -/

/-- What a stage is asked: a prompt with its values, and what the agent is given along. -/
structure Inquiry where
  stage : Stage
  promptName : String
  values : List (String × String)
  session : Option String
  withTools : Bool
  withEnvironment : Bool

/-- Render a prompt. -/
def rendered (context : Context) (name : String) (values : List (String × String)) :
    Attempt Prompt.Rendered :=
  match context.prompts.render name values with
  | .ok prompt => pure prompt
  | .error problem => throw (.prompt problem)

/-- The system prompt of an agent: its role, below a description of its surroundings if it is given
one. -/
def systemPrompt (context : Context) (checkout : Files.Checkout) (withEnvironment : Bool)
    (role : String) : Attempt String :=
  if withEnvironment then do
    let now <- present
    pure ((context.environment checkout).systemPrompt now.date role)
  else pure role

/-- The text of a failure; an empty one counts as none. -/
def failureText (outcome : Outcome) (otherwise : String) : String :=
  match outcome.error with
  | none | some "" => otherwise
  | some error => error

/-- Have an agent correct its reply in the same conversation. -/
def correct (profile : Profile) (role : String) (withTools : Bool) (correction : String)
    (history : List Message) : Attempt (String × List Message) := do
  let outcome <- carryOut profile ⟨role, correction, history, true, withTools⟩
  pure (outcome.content, outcome.history.drop 1)

/-- Ask a new agent for JSON. -/
def askForJson (context : Context) (checkout : Files.Checkout) (inquiry : Inquiry) :
    Attempt Json := do
  let prompt <- rendered context inquiry.promptName inquiry.values
  let profile := context.agent (<- drawKey)
  let system <- systemPrompt context checkout inquiry.withEnvironment prompt.role
  let outcome <- carryOut profile ⟨system, prompt.action, [], true, inquiry.withTools⟩
  recordIn inquiry.session inquiry.stage outcome
  if outcome.success then
    let (extraction, _) <- Reply.extract (correct profile prompt.role inquiry.withTools)
      Reply.correctionLimit outcome.content (outcome.history.drop 1)
    match extraction with
    | .ok value => pure value
    | .error failure =>
      if failure.isCorrectable then throw (.stage inquiry.stage failure.message)
      else throw (.reply failure)
  else throw (.stage inquiry.stage (failureText outcome "agent did not complete"))

/-- Ask a new agent for a record. -/
def askForRecord {α : Type} (context : Context) (checkout : Files.Checkout) (inquiry : Inquiry)
    (recordName : String) (codec : Codec α) : Attempt α := do
  let value <- askForJson context checkout inquiry
  match (codec.read value).toExcept recordName with
  | .ok found => pure found
  | .error report =>
    throw (.stage inquiry.stage ("reply does not match " ++ recordName ++ ": " ++ report.text))

/-- Ask a new agent for a documentation plan in prose. -/
def askForPlan (context : Context) (checkout : Files.Checkout) (values : List (String × String))
    (session : Option String) : Attempt String := do
  let prompt <- rendered context "planner" values
  let profile := context.agent (<- drawKey)
  let system <- systemPrompt context checkout true prompt.role
  let outcome <- carryOut profile ⟨system, prompt.action, [], false, true⟩
  recordIn session .planning outcome
  if outcome.success && Text.strip outcome.content != "" then pure outcome.content
  else throw (.stage .planning (failureText outcome "planner returned no plan"))

/-- The features as they are listed for the schedule. -/
def featureIndex (features : Features) : String :=
  if features.features.isEmpty then "(none)"
  else
    String.intercalate "\n"
      (features.features.map fun feature => "- " ++ feature.id ++ ": " ++ feature.name)

/-- Ask a new agent for the tasks that carry out a plan. Tasks that do not read are dropped. -/
def askForTasks (context : Context) (checkout : Files.Checkout) (plan : String)
    (features : Features) (session : Option String) : Attempt (List DocumentTask) := do
  let value <- askForJson context checkout
    { stage := .scheduling
      promptName := "scheduler"
      values := [("plan", plan), ("feature_index", featureIndex features)]
      session := session
      withTools := false
      withEnvironment := false }
  match value.get? "document_tasks" with
  | some (.arr tasks) => pure (tasks.filterMap fun task => (DocumentTask.codec.read task).toOption)
  | _ => throw (.stage .scheduling "reply has no document_tasks array")

end RepoSurvey.Analysis

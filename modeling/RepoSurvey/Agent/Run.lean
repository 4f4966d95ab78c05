import RepoSurvey.Agent.Continuation

/-!
# Agents

An agent carries on a bounded conversation with its model. Each iteration asks for one reply. A reply
with tool calls is followed by the answers to all of them; a reply without ends the conversation when
JSON was asked for, and otherwise when the turn is not kept. A call that fails, is cut off or comes
after the abort signal leaves the conversation as it is; its iteration still counts. What goes wrong
with a tool is told to the model; only a schema of a strange shape, or data that cannot be written, breaks
the agent down.

The outcome of an agent's work can be written down and read back.
-/

namespace RepoSurvey.Agent

open Chat (Message ToolCall ToolDefinition ToolResult)
open Json (ShapeFault)

/- Sums start from the core library's zero, whichever other structures of the numbers are in scope. -/
attribute [local instance (2000)] Zero.ofOfNat0

/-- The tools an agent may use, in the order of their first registration. -/
abbrev Registry := List ToolDefinition

namespace Registry

/-- Add a tool; a tool of the same name is replaced where it stands. -/
def register (definition : ToolDefinition) : Registry -> Registry
  | [] => [definition]
  | other :: rest =>
    if other.name = definition.name then definition :: rest else other :: register definition rest

/-- The tool of a name. -/
def find? (registry : Registry) (name : String) : Option ToolDefinition :=
  List.find? (fun definition => definition.name == name) registry

/-- The registry of tools registered one after another. -/
def ofList (definitions : List ToolDefinition) : Registry :=
  definitions.foldl (fun registry definition => register definition registry) []

/-- The declarations sent to the model; none when there are no tools. -/
def declared (registry : Registry) : Option (List ToolDefinition) :=
  if registry.isEmpty then none else some registry

end Registry

/-- An agent. -/
structure Profile where
  key : String
  registry : Option Registry
  continuation : Continuation
  maxIterations : Int
  deriving Repr

/-- The number of iterations when none is given. -/
def defaultMaxIterations : Int := 500

/-- The bound on iterations; zero and nothing stand for the default. -/
def iterationBound (requested : Option Int) : Int :=
  match requested with
  | none | some 0 => defaultMaxIterations
  | some bound => bound

/-- What an agent is asked to do. -/
structure Task where
  systemPrompt : String
  action : String
  history : List Message
  jsonOutput : Bool
  withTools : Bool
  deriving Repr

/-- What an agent achieved. -/
structure Outcome where
  content : String
  iterations : Nat
  success : Bool
  error : Option String
  history : List Message
  deriving DecidableEq, Repr

/-- The number of tool calls in a conversation. -/
def Outcome.toolCallCount (outcome : Outcome) : Nat :=
  (outcome.history.map fun message => message.toolCalls.length).sum

/-- The turn by which a model is asked to go on. -/
def continuePrompt : String := "Please continue."

/-- A call after the signal. -/
def abortedBefore : String := "Operation aborted before start"

/-- A call that the signal cut off. -/
def abortedMeanwhile : String := "Operation aborted"

/-- The failure of a tool. -/
def toolFailure (name report : String) : ToolResult :=
  .failed ("Tool '" ++ name ++ "' failed: " ++ report)

namespace Profile

/-- Whether a text names a repository. -/
def isNamed (path : String) : Bool := Text.strip path != ""

/-- The report about an agent without a repository. -/
def pathRequired : String := "Agent requires a repository path"

/-- An agent for the repository at a path; nothing when the path is blank. -/
def ofPath? (path key : String) (registry : Option Registry) (continuation : Continuation)
    (requestedIterations : Option Int) : Option Profile :=
  if isNamed path then some ⟨key, registry, continuation, iterationBound requestedIterations⟩
  else none

/-- The tools sent along with a request. -/
def toolsFor (profile : Profile) (task : Task) : Option (List ToolDefinition) :=
  if task.withTools then profile.registry.bind Registry.declared else none

/-- The conversation before the first reply. -/
def opening (task : Task) : List Message :=
  .system task.systemPrompt :: (task.history ++ [.user task.action])

/-- Carry out one tool call. The second value says whether the signal has fired. -/
def runTool (profile : Profile) (call : ToolCall) (aborted : Bool) :
    Doing (Except ShapeFault (ToolResult × Bool)) :=
  match profile.registry.bind (·.find? call.name) with
  | none => pure (.ok (.failed ("tool \"" ++ call.name ++ "\" not found"), aborted))
  | some definition =>
    match definition.argumentProblems call.arguments with
    | .error fault => pure (.error fault)
    | .ok (problem :: problems) =>
      pure (.ok (.failed ("invalid arguments for " ++ call.name ++ ": " ++
        String.intercalate "; " (problem :: problems)), aborted))
    | .ok [] =>
      if aborted then pure (.ok (toolFailure call.name abortedBefore, true))
      else do
        match <- work call.name call.arguments with
        | .answered data fired => pure (.ok (.succeeded data, fired))
        | .refused report fired => pure (.ok (toolFailure call.name report, fired))
        | .cutOff => pure (.ok (toolFailure call.name abortedMeanwhile, true))

/-- Carry out the tool calls of a reply; the messages that answer them, in order. -/
def runTools (profile : Profile) : List ToolCall -> (aborted : Bool) ->
    Doing (Except ShapeFault (List Message × Bool))
  | [], aborted => pure (.ok ([], aborted))
  | call :: calls, aborted => do
    match <- runTool profile call aborted with
    | .error fault => pure (.error fault)
    | .ok (result, aborted) =>
      match result.told with
      | .error fault => pure (.error fault)
      | .ok content =>
        match <- runTools profile calls aborted with
        | .error fault => pure (.error fault)
        | .ok (answers, aborted) => pure (.ok (.toolAnswer call.id content :: answers, aborted))

/-- A conversation that came to its end. -/
def finished (reply : Reply) (iterations : Nat) (transcript : List Message) : Outcome :=
  ⟨reply.content, iterations, true, none, transcript⟩

/-- A conversation that used up its iterations. -/
def exhausted (profile : Profile) (iterations : Nat) (transcript : List Message) : Outcome :=
  ⟨"", iterations, false,
    some ("Agent exceeded maximum iterations (" ++ Number.intText profile.maxIterations ++
      ") without completing"), transcript⟩

/-- Carry on a conversation for some more iterations after `spent` ones. -/
def converse (profile : Profile) (task : Task) :
    (remaining spent : Nat) -> (transcript : List Message) -> (aborted : Bool) ->
      Doing (Except ShapeFault (Outcome × Bool))
  | 0, spent, transcript, aborted => pure (.ok (profile.exhausted spent transcript, aborted))
  | remaining + 1, spent, transcript, aborted =>
    if aborted then converse profile task remaining (spent + 1) transcript true
    else do
      match <- chat ⟨profile.key, transcript, profile.toolsFor task, task.jsonOutput⟩ with
      | .cutOff => converse profile task remaining (spent + 1) transcript true
      | .refused _ fired => converse profile task remaining (spent + 1) transcript fired
      | .answered reply fired =>
        let transcript := transcript ++ [.assistant reply.content reply.toolCalls]
        if reply.toolCalls.isEmpty then
          if task.jsonOutput then pure (.ok (finished reply (spent + 1) transcript, fired))
          else if fired then converse profile task remaining (spent + 1) transcript true
          else
            match <- profile.continuation.decide profile.key reply with
            | .cutOff => converse profile task remaining (spent + 1) transcript true
            | .refused _ fired => converse profile task remaining (spent + 1) transcript fired
            | .answered verdict fired =>
              if verdict.keepsTurn then
                converse profile task remaining (spent + 1) (transcript ++ [.user continuePrompt])
                  fired
              else pure (.ok (finished reply (spent + 1) transcript, fired))
        else
          match <- profile.runTools reply.toolCalls fired with
          | .error fault => pure (.error fault)
          | .ok (answers, aborted) =>
            converse profile task remaining (spent + 1) (transcript ++ answers) aborted

/-- Carry out a task from its opening. The second value says whether the signal has fired. -/
def execute (profile : Profile) (task : Task) (aborted : Bool) :
    Doing (Except ShapeFault (Outcome × Bool)) :=
  profile.converse task profile.maxIterations.toNat 0 (opening task) aborted

end Profile

end RepoSurvey.Agent

namespace RepoSurvey.Agent

open Chat (Message)
open Schema

/-- A written outcome. -/
structure Record where
  content : String
  iterations : Int
  success : Bool
  error : Option String
  history : List Message
  deriving DecidableEq, Repr

namespace Record

/-- The record of an outcome. -/
def ofOutcome (outcome : Outcome) : Record :=
  ⟨outcome.content, outcome.iterations, outcome.success, outcome.error, outcome.history⟩

/-- The name under which records are reported. -/
def recordName : String := "AgentResult"

/-- How records are read and written. -/
def codec : Codec Record :=
  .record recordName <|
    Record.mk <$> .field "content" .text content none
      <*> .field "iterations" .integer iterations none
      <*> .field "success" .truth success none
      <*> .field "error" (.optional .text) error (some none)
      <*> .field "history" (.list Message.codec) history (some [])

end Record

end RepoSurvey.Agent

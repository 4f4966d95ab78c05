import RepoSurvey.Schema.Part

/-!
# Chat messages

A conversation with a model is a list of messages. An assistant message may request tool calls; each
is answered by a tool message that carries the identifier of the call.
-/

namespace RepoSurvey.Chat

open Schema

/-- Who speaks. -/
inductive Role where
  | system
  | user
  | assistant
  | tool
  deriving DecidableEq, Repr, Inhabited

namespace Role

/-- All roles. -/
def all : List Role := [.system, .user, .assistant, .tool]

/-- The name of a role. -/
def name : Role -> String
  | .system => "system"
  | .user => "user"
  | .assistant => "assistant"
  | .tool => "tool"

end Role

/-- A tool invocation requested by the model. -/
structure ToolCall where
  id : String
  name : String
  arguments : List (String × Json)
  deriving DecidableEq, Repr

/-- A message of a conversation. -/
structure Message where
  role : Role
  content : String
  toolCalls : List ToolCall
  toolCallId : Option String
  deriving DecidableEq, Repr

/-- How tool calls are read and written. -/
def ToolCall.codec : Codec ToolCall :=
  .record "ToolCall" <|
    ToolCall.mk <$> .field "id" .text id none
      <*> .field "name" .text name none
      <*> .field "arguments" .members arguments (some [])

namespace Message

/-- The name under which messages are reported. -/
def recordName : String := "ChatMessage"

/-- How messages are read and written. -/
def codec : Codec Message :=
  .record recordName <|
    Message.mk <$> .field "role" (.choice Role.all Role.name) role none
      <*> .field "content" .text content (some "")
      <*> .field "tool_calls" (.list ToolCall.codec) toolCalls (some [])
      <*> .field "tool_call_id" (.optional .text) toolCallId (some none)

/-- A system message. -/
def system (content : String) : Message := ⟨.system, content, [], none⟩

/-- A user message. -/
def user (content : String) : Message := ⟨.user, content, [], none⟩

/-- An assistant message. -/
def assistant (content : String) (toolCalls : List ToolCall) : Message :=
  ⟨.assistant, content, toolCalls, none⟩

/-- The answer to a tool call. -/
def toolAnswer (toolCallId content : String) : Message := ⟨.tool, content, [], some toolCallId⟩

end Message

end RepoSurvey.Chat

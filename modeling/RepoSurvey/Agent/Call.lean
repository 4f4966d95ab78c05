import RepoSurvey.Activity
import RepoSurvey.Chat.Tool

/-!
# Calls of an agent

An agent asks its model for replies and has tools do work. Both may take any time; an abort signal,
once it has fired, ends what is in flight and keeps anything further from being started. A delivery
says how a call came back and whether the signal fired meanwhile.
-/

namespace RepoSurvey.Agent

open Chat (Message ToolCall ToolDefinition)

/-- What a model answers. -/
structure Reply where
  content : String
  toolCalls : List ToolCall
  deriving DecidableEq, Repr

/-- What a model is asked. -/
structure ChatRequest where
  key : String
  messages : List Message
  tools : Option (List ToolDefinition)
  jsonOutput : Bool
  deriving DecidableEq, Repr

/-- How a call came back. -/
inductive Delivery (α : Type) where
  /-- It delivered a value. -/
  | answered (value : α) (fired : Bool)
  /-- It failed with a report. -/
  | refused (report : String) (fired : Bool)
  /-- The signal fired before it came back. -/
  | cutOff
  deriving DecidableEq, Repr

/-- The calls an agent makes. -/
inductive Call where
  /-- Ask the model. -/
  | chat (request : ChatRequest)
  /-- Have a tool work on arguments. -/
  | work (tool : String) (arguments : List (String × Json))
  /-- Ask somebody outside whether the model keeps the turn. -/
  | judge (turn : Reply)
  /-- Let others act for a moment, and see whether the signal fired meanwhile. -/
  | pause
  deriving DecidableEq, Repr

/-- What comes back from each call. -/
def Answer : Call -> Type
  | .chat _ => Delivery Reply
  | .work _ _ => Delivery Json
  | .judge _ => Bool
  | .pause => Bool

/-- Activities of an agent. -/
abbrev Doing (α : Type) : Type := Activity Call Answer α

/-- Ask the model. -/
def chat (request : ChatRequest) : Doing (Delivery Reply) := .ask (Call.chat request)

/-- Have a tool work on arguments. -/
def work (tool : String) (arguments : List (String × Json)) : Doing (Delivery Json) :=
  .ask (Call.work tool arguments)

/-- Ask somebody outside whether the model keeps the turn. -/
def judge (turn : Reply) : Doing Bool := .ask (Call.judge turn)

/-- Let others act for a moment, and see whether the signal fired meanwhile. -/
def pause : Doing Bool := .ask Call.pause

end RepoSurvey.Agent

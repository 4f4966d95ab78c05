import RepoSurvey.Proofs.Agent.Kinds

/-!
# Declared tools

A conversation holds traces of tools as soon as the model calls one, whether or not any were declared to it: a stray
call is answered like every other. `Profile.sustains_declaring` says where they come from. As long as no request with
some key and some declarations is answered with tool calls, no such request holds any; and what holds traces of tools
carries the declarations of the agent.
-/

namespace RepoSurvey.Agent

open Activity (Terms)
open Chat (Message ToolDefinition)

/-- Whether a message is a trace of tools: it requests tool calls, or it answers one. -/
def IsToolTrace (message : Message) : Prop :=
  message.role = .assistant ∧ message.toolCalls ≠ [] ∨ message.role = .tool

instance (message : Message) : Decidable (IsToolTrace message) := inferInstanceAs (Decidable (_ ∨ _))

/-- Whether messages hold traces of tools. -/
def HoldsTools (messages : List Message) : Prop := ∃ message ∈ messages, IsToolTrace message

instance (messages : List Message) : Decidable (HoldsTools messages) :=
  inferInstanceAs (Decidable (∃ message ∈ messages, IsToolTrace message))

section Traces

variable {message : Message} {messages others : List Message}

/-- No messages hold no traces of tools. -/
@[simp] theorem holdsTools_nil : ¬ HoldsTools [] := by simp [HoldsTools]

/-- Messages hold traces of tools if one of them is one. -/
@[simp] theorem holdsTools_cons : HoldsTools (message :: messages) ↔ IsToolTrace message ∨ HoldsTools messages := by
  simp [HoldsTools]

/-- Traces of tools stay where they are when more is said. -/
@[simp] theorem holdsTools_append : HoldsTools (messages ++ others) ↔ HoldsTools messages ∨ HoldsTools others := by
  simp [HoldsTools, or_and_right, exists_or]

/-- What is left of messages holds no other traces of tools than they do. -/
theorem HoldsTools.of_drop {count : Nat} (holds : HoldsTools (messages.drop count)) : HoldsTools messages := by
  obtain ⟨message, member, isTrace⟩ := holds
  exact ⟨message, List.mem_of_mem_drop member, isTrace⟩

/-- What a system prompt says is no trace of tools. -/
@[simp] theorem not_isToolTrace_system (content : String) : ¬ IsToolTrace (.system content) := by
  simp [IsToolTrace, Message.system]

/-- What the user says is no trace of tools. -/
@[simp] theorem not_isToolTrace_user (content : String) : ¬ IsToolTrace (.user content) := by
  simp [IsToolTrace, Message.user]

/-- A reply without tool calls is no trace of tools. -/
@[simp] theorem not_isToolTrace_assistant (content : String) : ¬ IsToolTrace (.assistant content []) := by
  simp [IsToolTrace, Message.assistant]

end Traces

/-- Terms on which watched requests are not answered with tool calls. In return they hold no traces of tools, and
what does carries declarations that are offered. Requests are watched by their key and by what they declare. -/
def declaring (offers : Option (List ToolDefinition) -> Prop)
    (watched : String -> Option (List ToolDefinition) -> Prop) : Terms Call Answer where
  told
    | .chat request, delivery => ∀ reply, Delivery.value? delivery = some reply ->
      watched request.key request.tools -> reply.toolCalls = []
    | _, _ => True
  asks
    | .chat request => HoldsTools request.messages ->
      offers request.tools ∧ ¬ watched request.key request.tools
    | _ => True

variable {offers : Option (List ToolDefinition) -> Prop} {watched : String -> Option (List ToolDefinition) -> Prop}

/-- Whether a conversation is free of tools if the requests of its agent are watched. -/
def Profile.FreeIfWatched (profile : Profile) (task : Task)
    (watched : String -> Option (List ToolDefinition) -> Prop) (messages : List Message) : Prop :=
  watched profile.key (profile.toolsFor task) -> ¬ HoldsTools messages

/-- A conversation of an agent whose declarations are offered stays free of tools as long as its requests are
watched and not answered with tool calls. -/
theorem Profile.sustains_declaring {profile : Profile} {task : Task} (offered : offers (profile.toolsFor task)) :
    profile.Sustains task (declaring offers watched) fun messages _ => profile.FreeIfWatched task watched messages where
  asks transcript free holds := ⟨offered, fun isWatched => free isWatched holds⟩
  decides content call decides := by
    cases call with
    | chat request =>
      obtain rfl : request = Continuation.inquiry profile.key content := decides
      intro holds
      simp [Continuation.inquiry] at holds
    | _ => trivial
  works _ _ := trivial
  grows transcript block fired free told := by
    intro isWatched
    have unasked : block.reply.toolCalls = [] := told block.reply rfl isWatched
    have before := free isWatched
    cases block with
    | working content first others => nomatch unasked
    | speaking content prompted => cases prompted <;> simp [Block.messages, before]

/-- Work that goes on from a history free of tools stays so as long as its requests are watched and not answered
with tool calls. -/
theorem Profile.keeps_declaring {profile : Profile} {task : Task} (offered : offers (profile.toolsFor task))
    (free : profile.FreeIfWatched task watched task.history) (aborted : Bool) :
    (profile.execute task aborted).Keeps (declaring offers watched)
      (EndsAs (profile.FreeIfWatched task watched)) := by
  have opening : profile.FreeIfWatched task watched (opening task) := by
    intro isWatched
    simp [Profile.opening, free isWatched]
  refine (Profile.keeps_execute (sustains_declaring offered) opening aborted).mono fun ending ends => ?_
  cases ending with
  | ok result =>
    obtain ⟨_, free⟩ := ends
    exact free
  | error fault => trivial

end RepoSurvey.Agent

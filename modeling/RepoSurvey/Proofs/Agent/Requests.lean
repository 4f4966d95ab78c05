import RepoSurvey.Proofs.Agent.Kinds
import RepoSurvey.Proofs.Agent.Transcript
import RepoSurvey.Proofs.Chat.Dialogue

/-!
# Requests of agents

Whatever an agent sends its model is a dialogue that waits for a reply, however earlier replies, tools, decisions
about turns and the abort signal came out, and whether the work comes back or breaks down. The histories of its
own earlier work are dialogues too, so that it may go on from them. `requests_wait` says what that means for the
turns in which the messages are sent.
-/

namespace RepoSurvey.Agent

open Activity (Exchange Goes asking)
open Chat (Dialogue Message ToolCall Turn)
open Json (ShapeFault)

/-- Whether a call sends the model a dialogue that waits for a reply, if it sends anything. -/
def Call.SendsDialogue : Call -> Prop
  | .chat request => Dialogue false request.messages true
  | _ => True

/-- Whether the history of work that comes back is a dialogue. -/
def KeepsDialogue : Except ShapeFault (Outcome × Bool) -> Prop
  | .ok (outcome, _) => ∃ waits, Dialogue false outcome.history waits
  | .error _ => True

/-- Dialogues stay dialogues in a conversation. -/
theorem Profile.sustains_dialogue (profile : Profile) (task : Task) :
    profile.Sustains task (asking Answer Call.SendsDialogue) (Dialogue false) where
  asks _ dialogue := dialogue
  decides content call decides := by
    cases call with
    | chat request =>
      obtain rfl : request = Continuation.inquiry profile.key content := decides
      exact .system _ (.user _ (.nil true))
    | _ => trivial
  works _ _ := trivial
  grows transcript block fired dialogue _ := by
    cases block with
    | working content first others =>
      have worked := dialogue.append (.worked content first others (.nil true))
      rwa [List.append_nil] at worked
    | speaking content prompted =>
      cases prompted with
      | false => exact dialogue.append (.spoken content (.nil false))
      | true => exact dialogue.append (.spoken content (.user continuePrompt (.nil true)))

/-- Histories that an agent goes on from: none, or that of earlier work of its own, with its system prompt or
without. -/
inductive Profile.OwnHistory (profile : Profile) : List Message -> Prop where
  | none : OwnHistory profile []
  | earlier {task : Task} {aborted fired : Bool} {way : List (Exchange Call Answer)} {outcome : Outcome}
      {history : List Message} (own : OwnHistory profile task.history)
      (came : (profile.execute task aborted).Goes way (.ok (outcome, fired)))
      (kept : history = outcome.history ∨ history = outcome.history.tail) : OwnHistory profile history

section Requests

variable {profile : Profile} {task : Task} {aborted : Bool} {way : List (Exchange Call Answer)}
  {ending : Except ShapeFault (Outcome × Bool)}

/-- Work that goes on from a dialogue sends dialogues and ends as one. -/
theorem dialogue_of_execute {waits : Bool} (dialogue : Dialogue false task.history waits)
    (goes : (profile.execute task aborted).Goes way ending) :
    (∀ exchange ∈ way, exchange.request.SendsDialogue) ∧ KeepsDialogue ending := by
  have opening : Dialogue false (Profile.opening task) true :=
    .system task.systemPrompt (dialogue.append (.user task.action (.nil true)))
  have keeps := Profile.keeps_execute (profile.sustains_dialogue task) opening aborted
  obtain ⟨sends, ends⟩ := keeps.goes goes fun _ _ => trivial
  refine ⟨sends, ?_⟩
  cases ending <;> exact ends

/-- The history of an agent's own work is a dialogue. -/
theorem Profile.OwnHistory.dialogue {history : List Message} (own : profile.OwnHistory history) :
    ∃ waits, Dialogue false history waits := by
  induction own with
  | none => exact ⟨false, .nil false⟩
  | @earlier task _ _ _ outcome _ own came kept inductionHypothesis =>
    obtain ⟨_, dialogue⟩ := inductionHypothesis
    obtain ⟨waits, whole⟩ := (dialogue_of_execute dialogue came).2
    rcases kept with rfl | rfl
    · exact ⟨waits, whole⟩
    · obtain ⟨_, _, _, -, yields⟩ := conversation_of_goes came
      rw [yields.totals.2] at whole ⊢
      exact ⟨waits, whole.tail⟩

/-- **Requests of agents.** Whatever an agent sends its model, to have a reply or a decision about a turn, makes
turns that wait for a reply: they begin and end with the user, the speakers alternate, no turn is empty, and the
answers to tool calls stand right after the calls, in their order, and nowhere else. The turns hold the blocks of
all messages in their order. -/
theorem requests_wait (own : profile.OwnHistory task.history)
    (goes : (profile.execute task aborted).Goes way ending) :
    ∀ exchange ∈ way, ∀ request, exchange.request = .chat request ->
      Turn.Waiting (Turn.ofMessages request.messages) ∧
        (Turn.ofMessages request.messages).flatMap Turn.blocks = request.messages.flatMap Message.blocks := by
  obtain ⟨_, dialogue⟩ := own.dialogue
  intro exchange member request isChat
  have sends := (dialogue_of_execute dialogue goes).1 exchange member
  rw [isChat] at sends
  exact ⟨sends.waiting, Turn.blocks_ofMessages request.messages⟩

end Requests

/-- A task that goes on from the three replies of an earlier one. -/
def furtherTask : Task :=
  { plainTask with
    action := "Describe it again."
    history := .user plainTask.action :: (Block.speaking "First" true).messages ++
      (Block.working "" (strayCall, "Error: tool \"read_file\" not found") []).messages ++
      (Block.speaking "Done" false).messages }

/-- The work on the task, with a single reply. -/
def furtherReply : List (Exchange Call Answer) :=
  [ ⟨.chat (untooledProfile.request furtherTask (Profile.opening furtherTask)), .answered ⟨"Again", []⟩ false⟩,
    ⟨.judge ⟨"Again", []⟩, false⟩ ]

/-- What the agent sends for the further task makes turns that wait for a reply. -/
theorem furtherTask_waits : untooledProfile.OwnHistory furtherTask.history ∧
    (∃ outcome, (untooledProfile.execute furtherTask false).Goes furtherReply (.ok (outcome, false))) ∧
    Turn.Waiting (Turn.ofMessages (Profile.opening furtherTask)) := by
  have came : (untooledProfile.execute plainTask false).Goes threeReplies (.ok (_, false)) :=
    .call _ (.call _ (.call _ (.call _ (.call _ (.done _)))))
  have own : untooledProfile.OwnHistory furtherTask.history := .earlier .none came (.inr rfl)
  have goes : (untooledProfile.execute furtherTask false).Goes furtherReply (.ok (_, false)) :=
    .call _ (.call _ (.done _))
  exact ⟨own, ⟨_, goes⟩, (requests_wait own goes _ (.head _) _ rfl).1⟩

end RepoSurvey.Agent

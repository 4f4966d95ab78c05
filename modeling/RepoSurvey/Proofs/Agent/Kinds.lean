import RepoSurvey.Proofs.Activity.Keeps
import RepoSurvey.Proofs.Agent.Iteration

/-!
# Kinds of conversations

What is said of a conversation while it is held is said of its kind: whether it waits for a reply, who speaks in it,
what it holds. `Profile.Sustains` says that a kind is kept by every block which an iteration can add, on terms about
what the model answers and what it may be asked. `Profile.keeps_execute` carries this through whole executions,
however tools, decisions about turns and the abort signal come out, and whether the work comes back or breaks down.
-/

namespace RepoSurvey.Agent

open Activity (Keeps Terms)
open Chat (Message ToolCall ToolResult)
open Json (ShapeFault)

/-- Whether a conversation waits for a reply once a block was added to it. -/
def Block.waits : Block -> Bool
  | .working _ _ _ => true
  | .speaking _ prompted => prompted

/-- Whether the history of work that comes back is of a kind. -/
def EndsAs (kind : List Message -> Prop) : Except ShapeFault (Outcome × Bool) -> Prop
  | .ok (outcome, _) => kind outcome.history
  | .error _ => True

/-- Whether messages answer some calls. -/
def AnswerAll (calls : List ToolCall) : Except ShapeFault (List Message × Bool) -> Prop
  | .ok (answers, _) => ∃ answered : List (ToolCall × String),
      answered.map Prod.fst = calls ∧ answers = Block.answersTo answered
  | .error _ => True

variable {terms : Terms Call Answer}

/-- A decision about a turn is reached by the calls for that, and is never refused. -/
theorem Continuation.keeps_decide (continuation : Continuation) {key : String} {reply : Reply}
    (asks : ∀ call, Decides key reply call -> terms.asks call) :
    (continuation.decide key reply).Keeps terms fun delivery => ∀ report fired, delivery ≠ .refused report fired := by
  have settles : ∀ verdict, (settled verdict).Keeps terms
      fun delivery => ∀ report fired, delivery ≠ .refused report fired := by
    refine fun verdict => ⟨asks .pause trivial, fun _ _ _ _ same => ?_⟩
    cases same
  cases continuation with
  | never => exact settles _
  | rules tailLength => exact settles _
  | model =>
    simp only [decide, byModel]
    split
    · exact settles _
    · refine ⟨asks (.chat _) rfl, fun delivery _ => ?_⟩
      cases delivery <;> rintro _ _ ⟨⟩
  | outside =>
    refine ⟨asks (.judge reply) rfl, fun _ _ _ _ same => ?_⟩
    cases same

namespace Profile

variable {profile : Profile} {task : Task}

section Tools

variable (works : ∀ tool arguments, terms.asks (.work tool arguments))

include works

/-- A tool call only has a tool work. -/
theorem keeps_runTool (call : ToolCall) (aborted : Bool) :
    (profile.runTool call aborted).Keeps terms fun _ => True := by
  unfold runTool
  split
  · trivial
  · split
    · trivial
    · trivial
    · split
      · trivial
      · refine ⟨works _ _, fun answer _ => ?_⟩
        cases answer <;> trivial

/-- Tool calls only have tools work and are answered in their order. -/
theorem keeps_runTools (calls : List ToolCall) (aborted : Bool) :
    (profile.runTools calls aborted).Keeps terms (AnswerAll calls) := by
  induction calls generalizing aborted with
  | nil => exact ⟨[], rfl, rfl⟩
  | cons call calls inductionHypothesis =>
    refine Activity.keeps_bind.mpr ((keeps_runTool works call aborted).mono fun value _ => ?_)
    rcases value with fault | ⟨result, fired⟩
    · trivial
    cases written : result.told with
    | error fault =>
      simp only [written]
      trivial
    | ok content =>
      simp only [written]
      refine Activity.keeps_bind.mpr ((inductionHypothesis fired).mono fun value answer => ?_)
      rcases value with fault | ⟨answers, firedAtLast⟩
      · trivial
      · obtain ⟨answered, rfl, rfl⟩ := answer
        exact ⟨(call, content) :: answered, rfl, rfl⟩

end Tools

/-- Whether the conversations of a task stay of a kind on some terms. The truth value of a kind says whether a
conversation waits for a reply. -/
structure Sustains (profile : Profile) (task : Task) (terms : Terms Call Answer)
    (kind : List Message -> Bool -> Prop) : Prop where
  asks : ∀ transcript, kind transcript true -> terms.asks (.chat (profile.request task transcript))
  decides : ∀ content call, Continuation.Decides profile.key ⟨content, []⟩ call -> terms.asks call
  works : ∀ tool arguments, terms.asks (.work tool arguments)
  grows : ∀ (transcript : List Message) (block : Block) (fired : Bool), kind transcript true ->
    terms.told (.chat (profile.request task transcript)) (.answered block.reply fired) ->
      kind (transcript ++ block.messages) block.waits

/-- A conversation goes on and ends as it should be: it is of its kind, whether or not it waits for a reply. -/
theorem keeps_converse {kind : List Message -> Bool -> Prop} (sustains : profile.Sustains task terms kind)
    {remaining spent : Nat} {transcript : List Message} {aborted waits : Bool} (fits : kind transcript waits)
    (awaits : aborted = false -> waits = true) :
    (profile.converse task remaining spent transcript aborted).Keeps terms
      (EndsAs fun history => ∃ waits, kind history waits) := by
  induction remaining generalizing spent transcript aborted waits with
  | zero => exact ⟨waits, fits⟩
  | succ remaining inductionHypothesis =>
    unfold converse
    cases aborted with
    | true => exact inductionHypothesis fits fun unfired => Bool.noConfusion unfired
    | false =>
      obtain rfl := awaits rfl
      refine ⟨sustains.asks transcript fits, fun delivery told => ?_⟩
      cases delivery with
      | cutOff => exact inductionHypothesis fits fun unfired => Bool.noConfusion unfired
      | refused report fired => exact inductionHypothesis fits fun _ => rfl
      | answered reply fired =>
        obtain ⟨content, calls⟩ := reply
        cases calls with
        | nil =>
          -- A reply without tool calls is kept as it is, unless the model is asked to go on.
          have spoken := sustains.grows transcript (.speaking content false) fired fits told
          have prompted := sustains.grows transcript (.speaking content true) fired fits told
          show Keeps _ _ (if task.jsonOutput then _ else if fired then _ else _)
          by_cases json : task.jsonOutput = true
          · rw [if_pos json]
            exact ⟨false, spoken⟩
          rw [if_neg json]
          cases fired with
          | true => exact inductionHypothesis spoken fun unfired => Bool.noConfusion unfired
          | false =>
            refine Activity.keeps_bind.mpr ((Continuation.keeps_decide _ (sustains.decides content)).mono
              fun delivery decided => ?_)
            cases delivery with
            | cutOff => exact inductionHypothesis spoken fun unfired => Bool.noConfusion unfired
            | refused report fired => exact absurd rfl (decided report fired)
            | answered verdict fired =>
              show Keeps _ _ (if verdict.keepsTurn then _ else _)
              split
              · rw [List.append_assoc]
                exact inductionHypothesis prompted fun _ => rfl
              · exact ⟨false, spoken⟩
        | cons call calls =>
          show Keeps _ _ (Activity.bind (profile.runTools (call :: calls) fired) _)
          refine Activity.keeps_bind.mpr ((keeps_runTools sustains.works (call :: calls) fired).mono
            fun value answer => ?_)
          rcases value with fault | ⟨answers, firedAtLast⟩
          · trivial
          obtain ⟨answered, isCalls, rfl⟩ := answer
          obtain ⟨first, others, rfl, rfl, rfl⟩ := List.map_eq_cons_iff.mp isCalls
          have worked := sustains.grows transcript (.working content first others) fired fits told
          show Keeps _ _ (converse _ _ _ _ _ _)
          rw [List.append_assoc]
          exact inductionHypothesis worked fun _ => rfl

/-- Work whose opening is of a kind sends conversations of the kind and ends as one. -/
theorem keeps_execute {kind : List Message -> Bool -> Prop} (sustains : profile.Sustains task terms kind)
    (fits : kind (opening task) true) (aborted : Bool) :
    (profile.execute task aborted).Keeps terms (EndsAs fun history => ∃ waits, kind history waits) :=
  keeps_converse sustains fits fun _ => rfl

end Profile

end RepoSurvey.Agent

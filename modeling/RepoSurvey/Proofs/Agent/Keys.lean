import RepoSurvey.Agent.Run
import RepoSurvey.Proofs.Activity.Parallels

/-!
# Keys make no difference

An agent hands its key to the model with everything that it asks. When the model, the tools and all others answer
what they are asked and nothing else, and the model does not look at the key, then agents that differ in their
keys run parallel: they come to the same outcome, with the same conversation behind it.
-/

namespace RepoSurvey.Agent

open Activity (Parallel parallel_call parallel_done parallel_self)
open Chat (ToolCall)

/-- Whether what an agent asks is always answered alike, whichever key it is asked with. -/
structure Steady (told : (call : Call) -> Answer call -> Prop) : Prop where
  chats : ∀ (request : ChatRequest) (key : String) answer reply, told (.chat request) answer ->
    told (.chat { request with key }) reply -> answer = reply
  others : ∀ call answer reply, (∀ request, call ≠ .chat request) -> told call answer -> told call reply ->
    answer = reply

variable {told : (call : Call) -> Answer call -> Prop} {Effect : Type}

/-- Whatever an agent asks has one answer. -/
theorem Steady.single (steady : Steady told) (call : Call) (answer reply : Answer call)
    (isTold : told call answer) (alsoTold : told call reply) : answer = reply := by
  cases call with
  | chat request => exact steady.chats request request.key answer reply isTold alsoTold
  | work tool arguments => exact steady.others _ answer reply nofun isTold alsoTold
  | judge turn => exact steady.others _ answer reply nofun isTold alsoTold
  | pause => exact steady.others _ answer reply nofun isTold alsoTold

/-- Whoever decides about a turn decides alike with any key. -/
theorem Continuation.parallel_decide (steady : Steady told) (continuation : Continuation) (key other : String)
    (reply : Reply) : Parallel told (fun _ => (none : Option Effect)) (· = ·) (continuation.decide key reply)
      (continuation.decide other reply) := by
  cases continuation with
  | never => exact parallel_self _ steady.single
  | rules tailLength => exact parallel_self _ steady.single
  | outside => exact parallel_self _ steady.single
  | model =>
    simp only [decide, byModel]
    split
    · exact parallel_self _ steady.single
    · refine parallel_call fun delivery outcome isTold alsoTold => ⟨rfl, ?_⟩
      obtain rfl := steady.chats (inquiry key reply.content) other delivery outcome isTold alsoTold
      cases delivery <;> exact parallel_done rfl

namespace Profile

variable {profile : Profile} {task : Task}

/-- Tool calls are carried out with any key. -/
theorem runTools_key (profile : Profile) (key : String) (calls : List ToolCall) (aborted : Bool) :
    { profile with key }.runTools calls aborted = profile.runTools calls aborted := by
  induction calls generalizing aborted with
  | nil => rfl
  | cons call calls inductionHypothesis =>
    simp only [runTools, inductionHypothesis]
    rfl

/-- A conversation is carried on alike with any key. -/
theorem parallel_converse (steady : Steady told) (key : String) (remaining spent : Nat)
    (transcript : List Chat.Message) (aborted : Bool) :
    Parallel told (fun _ => (none : Option Effect)) (· = ·)
      (profile.converse task remaining spent transcript aborted)
      ({ profile with key }.converse task remaining spent transcript aborted) := by
  induction remaining generalizing spent transcript aborted with
  | zero => exact parallel_done rfl
  | succ remaining inductionHypothesis =>
    unfold converse
    cases aborted with
    | true => exact inductionHypothesis (spent + 1) transcript true
    | false =>
      refine parallel_call fun delivery outcome isTold alsoTold => ⟨rfl, ?_⟩
      obtain rfl := steady.chats _ key delivery outcome isTold alsoTold
      cases delivery with
      | cutOff => exact inductionHypothesis (spent + 1) transcript true
      | refused report fired => exact inductionHypothesis (spent + 1) transcript fired
      | answered reply fired =>
        show Parallel _ _ _ (if reply.toolCalls.isEmpty then _ else _) (if reply.toolCalls.isEmpty then _ else _)
        by_cases spoken : reply.toolCalls.isEmpty = true
        · rw [if_pos spoken, if_pos spoken]
          by_cases json : task.jsonOutput = true
          · rw [if_pos json, if_pos json]
            exact parallel_done rfl
          rw [if_neg json, if_neg json]
          by_cases isFired : fired = true
          · rw [if_pos isFired, if_pos isFired]
            exact inductionHypothesis (spent + 1) _ true
          rw [if_neg isFired, if_neg isFired]
          refine (Continuation.parallel_decide steady _ profile.key key reply).bind fun verdict _ same => ?_
          subst same
          cases verdict with
          | cutOff => exact inductionHypothesis (spent + 1) _ true
          | refused report fired => exact inductionHypothesis (spent + 1) _ fired
          | answered verdict fired =>
            show Parallel _ _ _ (if verdict.keepsTurn then _ else _) (if verdict.keepsTurn then _ else _)
            by_cases keeps : verdict.keepsTurn = true
            · rw [if_pos keeps, if_pos keeps]
              exact inductionHypothesis (spent + 1) _ fired
            · rw [if_neg keeps, if_neg keeps]
              exact parallel_done rfl
        · rw [if_neg spoken, if_neg spoken, runTools_key profile key]
          refine (parallel_self (profile.runTools reply.toolCalls fired) steady.single).bind fun answers _ same => ?_
          subst same
          cases answers with
          | error fault => exact parallel_done rfl
          | ok answered => exact inductionHypothesis (spent + 1) _ answered.2

/-- A task is carried out alike with any key. -/
theorem parallel_execute (steady : Steady told) (key : String) (task : Task) (aborted : Bool) :
    Parallel told (fun _ => (none : Option Effect)) (· = ·) (profile.execute task aborted)
      ({ profile with key }.execute task aborted) :=
  parallel_converse steady key _ _ _ _

end Profile

end RepoSurvey.Agent

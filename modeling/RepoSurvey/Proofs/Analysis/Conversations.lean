import RepoSurvey.Proofs.Analysis.Terms
import RepoSurvey.Proofs.Json.Soundness
import RepoSurvey.Proofs.Reply.Corrections
import RepoSurvey.Proofs.Session.Rooms

/-!
# What conversations come to

Conversations of stages make calls to the outside only: they leave the cache and the stored documents alone.
What they find in a reply is a sound value, and a failure that names a stage names the stage of the
conversation. `Hosts` says what terms have to allow for that; what they say about the calls of agents may depend
on the histories from which the agents go on, and what they say about calls to the sessions may depend on the session
in which the conversation is recorded.
-/

namespace RepoSurvey.Analysis

open Activity (Fares Terms)
open Schema

/-- Whether a problem that names a stage names this one. -/
def Problem.Within (stage : Stage) : Problem -> Prop
  | .stage named _ => named = stage
  | _ => True

/-- The object that is found in a reply is sound. -/
theorem sound_parseObject {reply : String} {value : Json}
    (parsed : Reply.parseObject reply = .ok value) : value.Sound := by
  unfold Reply.parseObject at parsed
  split at parsed
  · nomatch parsed
  · split at parsed
    · next found read =>
      obtain rfl := Except.ok.inj parsed
      exact Json.sound_readAll read
    · split at parsed <;> nomatch parsed

/-- What extraction comes to when replies are heard: a sound object, a failure that can be corrected, or an integer of
too many digits in a reply that was heard. -/
def Extracted (heard : String -> Prop) : Except ExtractionFailure Json -> Prop
  | .ok value => value.Sound ∧ ∃ members, value = .obj members
  | .error failure => failure.isCorrectable = true ∨ ∃ digits reply, failure = .overlongInteger digits ∧ heard reply ∧
      Json.integerDigitLimit < digits ∧ Json.HasDigits digits reply.toList

/-- What is found in a reply comes to that, if the reply was heard or says nothing. -/
theorem extracted_parseObject {heard : String -> Prop} {reply : String} (isHeard : reply = "" ∨ heard reply) :
    Extracted heard (Reply.parseObject reply) := by
  have found := Reply.found_parseObject reply
  cases parsed : Reply.parseObject reply with
  | ok value =>
    rw [parsed] at found
    cases found with
    | object members => exact ⟨sound_parseObject parsed, members, rfl⟩
  | error failure =>
    rw [parsed] at found
    cases found with
    | correctable isCorrectable _ => exact .inl isCorrectable
    | @overlong digits long has =>
      refine .inr ⟨digits, reply, rfl, isHeard.resolve_left ?_, long, has⟩
      rintro rfl
      obtain ⟨row, within, rfl, -⟩ := has
      rw [List.eq_nil_of_infix_nil within] at long
      exact Nat.not_lt_zero _ long

variable {conditions : Terms Call Answer} {fails : Problem -> Prop}
  {context : Context} {checkout : Files.Checkout} {stage : Stage}

/-- A prompt is rendered, or it cannot be. -/
theorem fares_rendered (name : String) (values : List (String × String)) :
    Fares conditions (fun _ => True)
      (fun problem => ∃ reason, problem = .prompt reason ∧ context.prompts.render name values = .error reason)
      (rendered context name values) := by
  unfold rendered
  split
  · exact Activity.fares_pure trivial
  · next reason isReason => exact Activity.fares_throw ⟨reason, rfl, isReason⟩

/-- What an agent did is recorded without trouble. -/
theorem fares_recordIn {session : Option String}
    (mayRemark : ∀ id ∈ session, ∀ role content, conditions.asks (.session (.remark id role content)))
    (mayRecord : ∀ id ∈ session, ∀ name success summary,
      conditions.asks (.session (.toolRecord id name success summary)))
    (stage : Stage) (outcome : Agent.Outcome) :
    Fares conditions (fun _ => True) fails (recordIn session stage outcome) := by
  have tools : ∀ id ∈ session, ∀ outcomes, Fares conditions (fun _ => True) fails
      (recordTools id outcomes) := by
    intro id isSession outcomes
    induction outcomes with
    | nil => exact Activity.fares_pure trivial
    | cons outcome outcomes inductionHypothesis =>
      exact (fares_session (mayRecord id isSession _ _ _)).andThen fun _ => inductionHypothesis
  cases session with
  | none => exact Activity.fares_pure trivial
  | some id =>
    refine (tools id rfl _).andThen fun _ => ?_
    exact (fares_session (mayRemark id rfl _ _)).andThen fun _ => Activity.fares_pure trivial

/-- A system prompt is put together without trouble. -/
theorem fares_systemPrompt (mayLook : conditions.asks .now) (withEnvironment : Bool) (role : String) :
    Fares conditions (fun _ => True) fails
      (systemPrompt context checkout withEnvironment role) := by
  unfold systemPrompt
  split
  · exact (fares_anyPresent mayLook).andThen fun _ => Activity.fares_pure trivial
  · exact Activity.fares_pure trivial

/-! ## Agents at work -/

/-- Whether a call is about a session that is there already, if it is a call to the sessions at all. -/
def Call.StaysIn (session : Option String) : Call -> Prop
  | .session request => ∃ id ∈ session, request.IsAbout id
  | _ => True

/-- Whether conversations can be held on terms, by agents that are sent tools or not, and recorded in a session. Every
agent may work from histories of its own: to begin with there is none, and what is left of one after the work is one
again. -/
structure Hosts (context : Context) (conditions : Terms Call Answer) (withTools : Bool)
    (session : Option String) : Prop where
  calls : ∀ call, call.IsOutside -> call.StaysIn session -> (∀ asked, call ≠ .agent asked) -> conditions.asks call
  works : ∀ key, ∃ own : List Chat.Message -> Prop, own [] ∧
    ∀ task : Agent.Task, task.withTools = withTools -> own task.history ->
      Fares conditions (fun outcome => own (outcome.history.drop 1)) (fun problem => ∃ fault, problem = .shape fault)
        (carryOut (context.agent key) task)

/-- Conversations can be held on terms that allow all calls to the outside but those about other sessions. -/
theorem hosts_of_recorded {session : Option String}
    (outside : ∀ call, call.IsOutside -> call.StaysIn session -> conditions.asks call) (withTools : Bool) :
    Hosts context conditions withTools session where
  calls call isOutside stays _ := outside call isOutside stays
  works key := by
    refine ⟨fun _ => True, trivial, fun task _ _ => ?_⟩
    have asks : ∀ call, conditions.asks (.agent call) := fun _ => outside _ trivial trivial
    refine Activity.keeps_bind.mpr ((Activity.keeps_embed asks _).mono fun outcome _ => ?_)
    cases outcome with
    | ok result => trivial
    | error fault => exact ⟨fault, rfl⟩

/-- Conversations can be held on terms that allow all calls to the outside. -/
theorem hosts_of_outside {session : Option String} (outside : ∀ call, call.IsOutside -> conditions.asks call)
    (withTools : Bool) : Hosts context conditions withTools session :=
  hosts_of_recorded (fun call isOutside _ => outside call isOutside) withTools

section Asking

variable {withTools : Bool} {session : Option String}

/-- Who can record conversations in a session can do without. -/
theorem Hosts.unrecorded (hosts : Hosts context conditions withTools session) :
    Hosts context conditions withTools none where
  calls call isOutside stays other := by
    refine hosts.calls call isOutside ?_ other
    cases call with
    | session request =>
      obtain ⟨id, isNone, -⟩ := stays
      nomatch isNone
    | _ => trivial
  works := hosts.works

/-- Keys are there for an agent. -/
theorem Hosts.fares_drawKey (hosts : Hosts context conditions withTools session) :
    Fares conditions (fun _ => True) fails drawKey := Analysis.fares_drawKey (hosts.calls _ trivial trivial nofun)

/-- A system prompt is put together for an agent. -/
theorem Hosts.fares_systemPrompt (hosts : Hosts context conditions withTools session) (withEnvironment : Bool)
    (role : String) : Fares conditions (fun _ => True) fails (systemPrompt context checkout withEnvironment role) :=
  Analysis.fares_systemPrompt (hosts.calls _ trivial trivial nofun) withEnvironment role

/-- What an agent did is recorded. -/
theorem Hosts.fares_recordIn (hosts : Hosts context conditions withTools session) (stage : Stage)
    (outcome : Agent.Outcome) : Fares conditions (fun _ => True) fails (recordIn session stage outcome) :=
  Analysis.fares_recordIn (fun id isSession _ _ => hosts.calls _ trivial ⟨id, isSession, rfl⟩ nofun)
    (fun id isSession _ _ _ => hosts.calls _ trivial ⟨id, isSession, rfl⟩ nofun) stage outcome

/-- Data of a strange shape that breaks an agent down is a problem of whichever stage it works for. -/
theorem Problem.within_of_shape {problem : Problem} (broken : ∃ fault, problem = .shape fault) :
    problem.Within stage := by
  obtain ⟨fault, rfl⟩ := broken
  trivial

/-- A prompt that cannot be rendered is a problem of whichever stage it is for. -/
theorem Problem.within_of_prompt {problem : Problem} {holds : Prompt.Problem -> Prop}
    (unrendered : ∃ reason, problem = .prompt reason ∧ holds reason) : problem.Within stage := by
  obtain ⟨reason, rfl, -⟩ := unrendered
  trivial

/-- Whether an agent leaves histories of its own when it works from such, and says nothing but what is heard. It may
break down. -/
def WorksFrom (own : List Chat.Message -> Prop) (context : Context) (conditions : Terms Call Answer)
    (withTools : Bool) (heard : String -> Prop) (breaks : Problem -> Prop) (key : String) : Prop :=
  ∀ task : Agent.Task, task.withTools = withTools -> own task.history ->
    Fares conditions (fun outcome => own (outcome.history.drop 1) ∧ (outcome.content = "" ∨ heard outcome.content))
      breaks (carryOut (context.agent key) task)

/-- Whether an agent works so from histories of its own, to begin with there is none. -/
def Works (context : Context) (conditions : Terms Call Answer) (withTools : Bool) (heard : String -> Prop)
    (breaks : Problem -> Prop) (key : String) : Prop :=
  ∃ own : List Chat.Message -> Prop, own [] ∧ WorksFrom own context conditions withTools heard breaks key

/-- Who can hold conversations has agents that work, whatever is heard. -/
theorem Hosts.haveWork (hosts : Hosts context conditions withTools session) (key : String) :
    Works context conditions withTools (fun _ => True) (fun problem => ∃ fault, problem = .shape fault) key := by
  obtain ⟨own, fresh, works⟩ := hosts.works key
  refine ⟨own, fresh, fun task same isOwn => ?_⟩
  exact (works task same isOwn).mono (fun _ isOwn => ⟨isOwn, .inr trivial⟩) fun _ broken => broken

/-- How an inquiry fails: its prompt cannot be rendered, the agent breaks down, an integer of a reply that was heard has
too many digits, or the stage of the inquiry fails. -/
inductive Inquiry.Fails (context : Context) (inquiry : Inquiry) (heard : String -> Prop) (breaks : Problem -> Prop) :
    Problem -> Prop where
  | unrendered {reason : Prompt.Problem}
      (isReason : context.prompts.render inquiry.promptName inquiry.values = .error reason) :
      Fails context inquiry heard breaks (.prompt reason)
  | brokeDown {problem : Problem} (broken : breaks problem) : Fails context inquiry heard breaks problem
  | overlong {digits : Nat} {reply : String} (isHeard : heard reply) (long : Json.integerDigitLimit < digits)
      (has : Json.HasDigits digits reply.toList) :
      Fails context inquiry heard breaks (.reply (.overlongInteger digits))
  | staged (report : String) : Fails context inquiry heard breaks (.stage inquiry.stage report)

/-- A failure that names a stage names that of the inquiry, unless the agent breaks down with such a one. -/
theorem Inquiry.Fails.within {inquiry : Inquiry} {heard : String -> Prop} {breaks : Problem -> Prop} {problem : Problem}
    (fails : inquiry.Fails context heard breaks problem)
    (others : ∀ problem, breaks problem -> problem.Within inquiry.stage) : problem.Within inquiry.stage := by
  cases fails with
  | unrendered => trivial
  | brokeDown broken => exact others _ broken
  | overlong => trivial
  | staged => rfl

section Hearing

variable {heard : String -> Prop} {breaks : Problem -> Prop}

/-- What is extracted after any number of corrections comes of what was heard. -/
theorem fares_extract {own : List Chat.Message -> Prop} {key : String}
    (works : WorksFrom own context conditions withTools heard breaks key)
    (role : String) (remaining : Nat) {reply : String} {history : List Chat.Message} (isOwn : own history)
    (isHeard : reply = "" ∨ heard reply) :
    Fares conditions (fun found => Extracted heard found.1) breaks
      (Reply.extract (correct (context.agent key) role withTools) remaining reply history) := by
  have extracted := extracted_parseObject isHeard
  induction remaining generalizing reply history with
  | zero =>
    rw [Reply.extract_settled fun _ _ _ => rfl]
    exact Activity.fares_pure extracted
  | succ remaining inductionHypothesis =>
    by_cases again : ∃ failure, Reply.parseObject reply = .error failure ∧ failure.isCorrectable = true
    · obtain ⟨failure, parsed, isCorrectable⟩ := again
      rw [Reply.extract_again parsed isCorrectable]
      have corrected : Fares conditions (fun next => own next.2 ∧ (next.1 = "" ∨ heard next.1)) breaks
          (correct (context.agent key) role withTools (Reply.correction failure) history) :=
        Fares.bind (works _ rfl isOwn) fun _ replied => Activity.fares_pure replied
      exact corrected.bind fun next ⟨isOwn, isHeard⟩ =>
        inductionHypothesis isOwn isHeard (extracted_parseObject isHeard)
    · rw [Reply.extract_settled fun failure parsed isCorrectable => (again ⟨failure, parsed, isCorrectable⟩).elim]
      exact Activity.fares_pure extracted

/-- What comes of an inquiry is a sound object, or it fails. -/
theorem fares_askForJson_heard {inquiry : Inquiry} (hosts : Hosts context conditions inquiry.withTools inquiry.session)
    (haveWork : ∀ key, Works context conditions inquiry.withTools heard breaks key) :
    Fares conditions (fun value => value.Sound ∧ ∃ members, value = .obj members)
      (inquiry.Fails context heard breaks) (askForJson context checkout inquiry) := by
  refine ((fares_rendered _ _).mono (fun _ rendered => rendered) ?_).andThen fun prompt => ?_
  · rintro _ ⟨reason, rfl, isReason⟩
    exact .unrendered isReason
  refine hosts.fares_drawKey.andThen fun key => ?_
  refine (hosts.fares_systemPrompt _ _).andThen fun system => ?_
  obtain ⟨own, fresh, works⟩ := haveWork key
  refine Fares.bind ((works _ rfl fresh).mono (fun _ replied => replied) fun _ broken => .brokeDown broken)
    fun outcome ⟨isOwn, isHeard⟩ => ?_
  refine (hosts.fares_recordIn _ _).andThen fun _ => ?_
  split
  · refine ((fares_extract works _ _ isOwn isHeard).mono (fun _ found => found)
      fun _ broken => .brokeDown broken).bind fun found extracted => ?_
    obtain ⟨extraction, history⟩ := found
    cases extraction with
    | ok value => exact Activity.fares_pure extracted
    | error failure =>
      dsimp only
      split
      · exact Activity.fares_throw (.staged _)
      · next isFinal =>
        obtain ⟨digits, reply, rfl, isHeard, long, has⟩ := extracted.resolve_left isFinal
        exact Activity.fares_throw (.overlong isHeard long has)
  · exact Activity.fares_throw (.staged _)

/-- A record that comes of an inquiry was read from a sound object. -/
theorem fares_askForRecord_heard {α : Type} {inquiry : Inquiry}
    (hosts : Hosts context conditions inquiry.withTools inquiry.session)
    (haveWork : ∀ key, Works context conditions inquiry.withTools heard breaks key) (recordName : String)
    (codec : Codec α) : Fares conditions
      (fun found => ∃ members, (Json.obj members).Sound ∧ codec.read (.obj members) = .valid found)
      (inquiry.Fails context heard breaks) (askForRecord context checkout inquiry recordName codec) := by
  refine (fares_askForJson_heard hosts haveWork).bind ?_
  rintro _ ⟨sound, members, rfl⟩
  cases read : codec.read (.obj members) with
  | valid found => exact Activity.fares_pure ⟨members, sound, read⟩
  | invalid issues => exact Activity.fares_throw (.staged _)

end Hearing

/-- A reply to an inquiry is sound, and a failure is one of the stage of the inquiry. -/
theorem fares_askForJson {inquiry : Inquiry}
    (hosts : Hosts context conditions inquiry.withTools inquiry.session) :
    Fares conditions Json.Sound (Problem.Within inquiry.stage) (askForJson context checkout inquiry) :=
  (fares_askForJson_heard hosts hosts.haveWork).mono (fun _ found => found.1)
    fun _ fails => fails.within fun _ => Problem.within_of_shape

/-- A record that is asked for was read from a sound value. -/
theorem fares_askForRecord {α : Type} {inquiry : Inquiry}
    (hosts : Hosts context conditions inquiry.withTools inquiry.session) (recordName : String) (codec : Codec α) :
    Fares conditions (fun found => ∃ value, value.Sound ∧ codec.read value = .valid found)
      (Problem.Within inquiry.stage) (askForRecord context checkout inquiry recordName codec) := by
  refine (fares_askForRecord_heard hosts hosts.haveWork recordName codec).mono ?_
    fun _ fails => fails.within fun _ => Problem.within_of_shape
  rintro found ⟨members, sound, read⟩
  exact ⟨.obj members, sound, read⟩

/-- A plan is asked for in the planning stage. -/
theorem fares_askForPlan (hosts : Hosts context conditions true session) (values : List (String × String)) :
    Fares conditions (fun _ => True) (Problem.Within .planning) (askForPlan context checkout values session) := by
  refine ((fares_rendered _ _).mono (fun _ rendered => rendered) fun _ => Problem.within_of_prompt).andThen
    fun prompt => ?_
  refine hosts.fares_drawKey.andThen fun key => ?_
  refine (hosts.fares_systemPrompt _ _).andThen fun system => ?_
  obtain ⟨own, fresh, works⟩ := hosts.works key
  refine Fares.bind ((works _ rfl fresh).mono (fun _ isOwn => isOwn) fun _ => Problem.within_of_shape)
    fun outcome _ => ?_
  refine (hosts.fares_recordIn _ _).andThen fun _ => ?_
  split
  · exact Activity.fares_pure trivial
  · exact Activity.fares_throw rfl

/-- Tasks are asked for in the scheduling stage. -/
theorem fares_askForTasks (hosts : Hosts context conditions false session) (plan : String) (features : Features) :
    Fares conditions (fun _ => True) (Problem.Within .scheduling)
      (askForTasks context checkout plan features session) := by
  refine Fares.andThen (Fares.mono (fares_askForJson hosts) (fun _ _ => trivial)
    fun _ within => within) fun value => ?_
  split
  · exact Activity.fares_pure trivial
  · exact Activity.fares_throw rfl

end Asking

end RepoSurvey.Analysis

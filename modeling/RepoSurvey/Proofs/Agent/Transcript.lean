import RepoSurvey.Proofs.Agent.Iteration

/-!
# Transcripts of agents

The transcript of an agent's work is what it started from followed by whole blocks, one for every reply
that came, in the order of the iterations. `Account` says this together with what the model was asked
along the way and how the work ended; `execute_account` gives an account of every work that comes back,
however the model, the tools, the decisions about turns and the abort signal behave. The conversation
that an agent continues is not looked at, so that nothing is assumed about it; in particular it may be
the transcript of earlier work.
-/

namespace RepoSurvey.Agent

open Activity (Exchange Goes)
open Chat (Message ToolCall)

namespace Iteration

/-- The conversation that the model was given for a reply; nothing when it was not asked. -/
def given? (iteration : Iteration) : Option (List Message) :=
  iteration.asked.map fun asked => asked.1.messages

/-- Nobody asks anybody anything in the iteration. -/
def IsSilent (iteration : Iteration) : Prop :=
  iteration.exchanges = [] ∧ iteration.block = none

/-- What happens after the reply: nothing without a reply; the tools that are called work at most once
each, in the order of the calls; and the decision about a turn takes at most one call. -/
def FollowsUp (profile : Profile) (iteration : Iteration) : Prop :=
  match iteration.block with
  | none => iteration.further = []
  | some (.working _ first others) =>
    (iteration.further.map Exchange.request).Sublist
      (Profile.works ((first :: others).map Prod.fst))
  | some (.speaking content _) => iteration.further = [] ∨ ∃ exchange,
      iteration.further = [exchange] ∧
        Continuation.Decides profile.key ⟨content, []⟩ exchange.request

/-- The reply has no tool calls, and JSON was asked for or the turn was handed over. -/
def Concludes (profile : Profile) (task : Task) (iteration : Iteration) : Prop :=
  ∃ content, iteration.block = some (.speaking content false) ∧
    (task.jsonOutput = true ∨ ∃ verdict fired,
      (profile.continuation.decide profile.key ⟨content, []⟩).Goes iteration.further
        (.answered verdict fired) ∧ verdict.keepsTurn = false)

end Iteration

/-- An account of work: the iterations it was made of. -/
structure Account (profile : Profile) (task : Task) (exchanges : List (Exchange Call Answer))
    (outcome : Outcome) (iterations : List Iteration) : Prop where
  /-- The iterations are all that was exchanged. -/
  complete : exchanges = iterations.flatMap Iteration.exchanges
  /-- All of them are counted. -/
  counted : outcome.iterations = iterations.length
  /-- The transcript is the opening followed by what the iterations added. -/
  transcript : outcome.history =
    Profile.opening task ++ iterations.flatMap Iteration.messages
  /-- An iteration adds the block of its reply, and nothing when no reply came. -/
  added : ∀ iteration ∈ iterations, iteration.block.map Block.reply = iteration.reply?
  /-- After the reply come the tool calls or the decision about the turn, and nothing else. -/
  followed : ∀ iteration ∈ iterations, iteration.FollowsUp profile
  /-- After a reply without tool calls that is not followed by a prompt nobody is asked anything. -/
  unprompted : ∀ earlier iteration later content, iterations = earlier ++ iteration :: later ->
    iteration.block = some (.speaking content false) -> ∀ silent ∈ later, silent.IsSilent
  /-- The model is given the opening followed by what the earlier iterations added. -/
  asked : ∀ earlier iteration later request delivery, iterations = earlier ++ iteration :: later ->
    iteration.asked = some (request, delivery) -> request = profile.request task
      (Profile.opening task ++ earlier.flatMap Iteration.messages)
  /-- Each conversation that the model is given extends the one before. -/
  growing : (iterations.filterMap Iteration.given?).Pairwise fun earlier later => earlier <+: later
  /-- Each of them is a beginning of the transcript and waits for a reply. -/
  given : ∀ messages ∈ iterations.filterMap Iteration.given?,
    messages <+: outcome.history ∧ AwaitsReply messages
  /-- The work succeeds exactly when its last iteration concludes it, and earlier ones never do. -/
  succeeds : outcome.success = true ↔ ∃ earlier last, iterations = earlier ++ [last] ∧
    last.Concludes profile task
  /-- Only the last iteration can conclude the work. -/
  concludesLast : ∀ earlier iteration later, iterations = earlier ++ iteration :: later ->
    iteration.Concludes profile task -> later = []
  /-- Successful work ends with the reply that is its content. -/
  concluded : outcome.success = true -> outcome.error = none ∧
    ∃ earlier, outcome.history = earlier ++ [.assistant outcome.content []]
  /-- Other work used up its iterations, and says so. -/
  spent : outcome.success = false -> (iterations.length : Int) = profile.maxIterations ∧
    outcome.content = "" ∧ outcome.error = some
      ("Agent exceeded maximum iterations (" ++ Number.intText profile.maxIterations ++
        ") without completing")

section Steps

variable {profile : Profile} {task : Task} {transcript : List Message} {iteration : Iteration}
  {aborted fired concluded : Bool}

namespace Takes

/-- An iteration adds the block of its reply, and nothing when no reply came. -/
theorem added (takes : Takes profile task transcript aborted iteration fired concluded) :
    iteration.block.map Block.reply = iteration.reply? := by
  cases takes <;> rfl

/-- After the reply come the tool calls or the decision about the turn, and nothing else. -/
theorem followsUp (takes : Takes profile task transcript aborted iteration fired concluded) :
    iteration.FollowsUp profile := by
  cases takes with
  | idle => rfl
  | cutOff => rfl
  | refused _ _ => rfl
  | delivered _ _ _ => exact .inl rfl
  | undecided _ _ => exact .inl rfl
  | interrupted _ _ _ decides => exact .inr (Continuation.goes_decide decides).1
  | kept _ _ _ _ _ decides _ => exact .inr (Continuation.goes_decide decides).1
  | yielded _ _ _ _ _ decides _ => exact .inr (Continuation.goes_decide decides).1
  | worked _ _ _ _ _ _ works => exact (Profile.goes_runTools works).1

/-- The model is given the conversation as it stands, unless the signal had fired. -/
theorem asked (takes : Takes profile task transcript aborted iteration fired concluded) :
    iteration.asked = none ∧ aborted = true ∨
      ∃ delivery, iteration.asked = some (profile.request task transcript, delivery) ∧
        aborted = false := by
  cases takes with
  | idle => exact .inl ⟨rfl, rfl⟩
  | _ => exact .inr ⟨_, rfl, rfl⟩

/-- The model is given nothing or the conversation as it stands. -/
theorem given (takes : Takes profile task transcript aborted iteration fired concluded) :
    iteration.given? = none ∨ iteration.given? = some transcript := by
  rcases takes.asked with ⟨asked, -⟩ | ⟨delivery, asked, -⟩
  · exact .inl (by rw [Iteration.given?, asked]; rfl)
  · exact .inr (by rw [Iteration.given?, asked]; rfl)

/-- A conversation that goes on waits for a reply again, unless the signal has fired. -/
theorem awaitsReply (takes : Takes profile task transcript aborted iteration fired false)
    (awaits : aborted = false -> AwaitsReply transcript) (unfired : fired = false) :
    AwaitsReply (transcript ++ iteration.messages) := by
  cases takes with
  | idle => cases unfired
  | cutOff => cases unfired
  | refused report fired =>
    show AwaitsReply (transcript ++ [])
    rw [List.append_nil]
    exact awaits rfl
  | undecided _ _ => cases unfired
  | interrupted _ _ _ _ => cases unfired
  | kept content _ _ _ _ _ _ =>
    refine ⟨transcript ++ [.assistant content []], .user continuePrompt, ?_, .inl rfl⟩
    rw [List.append_assoc]
    rfl
  | worked content first others _ _ _ _ => exact awaitsReply_working transcript content first others

/-- Once the signal has fired, iterations are silent. -/
theorem silent (takes : Takes profile task transcript true iteration fired concluded) :
    iteration.IsSilent ∧ fired = true ∧ concluded = false := by
  cases takes
  exact ⟨⟨rfl, rfl⟩, rfl, rfl⟩

/-- A reply without tool calls that is not followed by a prompt is the last thing that is said: the
conversation is over with it, or the signal has fired. -/
theorem unprompted {content : String}
    (takes : Takes profile task transcript aborted iteration fired false)
    (block : iteration.block = some (.speaking content false)) : fired = true := by
  cases takes with
  | undecided _ _ => rfl
  | interrupted _ _ _ _ => rfl
  | _ => cases block

/-- The conversation is over exactly with the iteration that concludes it. -/
theorem over_iff (takes : Takes profile task transcript aborted iteration fired concluded) :
    concluded = true ↔ iteration.Concludes profile task := by
  cases takes with
  | delivered content _ json => exact iff_of_true rfl ⟨content, rfl, .inl json⟩
  | yielded content _ verdict fired _ decides yields =>
    exact iff_of_true rfl ⟨content, rfl, .inr ⟨verdict, fired, decides, yields⟩⟩
  | undecided _ free =>
    refine iff_of_false Bool.false_ne_true ?_
    rintro ⟨_, same, json | ⟨_, _, decides, _⟩⟩
    · rw [free] at json
      cases json
    · obtain ⟨_, nothing, _⟩ := (Continuation.goes_decide decides).1
      cases nothing
  | interrupted _ _ free cut =>
    refine iff_of_false Bool.false_ne_true ?_
    rintro ⟨_, same, json | ⟨_, _, decides, _⟩⟩
    · rw [free] at json
      cases json
    · cases same
      cases cut.unique decides
  | _ =>
    refine iff_of_false Bool.false_ne_true ?_
    rintro ⟨_, same, _⟩
    cases same

end Takes

end Steps

section Runs

variable {profile : Profile} {task : Task} {remaining : Nat} {transcript : List Message}
  {iteration : Iteration} {iterations earlier later : List Iteration} {aborted fired concluded : Bool}

namespace Conversation

/-- What holds of a conversation and is kept by every iteration holds before each of them. -/
theorem invariant (holds : List Message -> Bool -> Prop)
    (kept : ∀ {transcript aborted iteration fired}, holds transcript aborted ->
      Takes profile task transcript aborted iteration fired false ->
      holds (transcript ++ iteration.messages) fired)
    (conversation : Conversation profile task remaining transcript aborted
      (earlier ++ iteration :: later) fired concluded) (initially : holds transcript aborted) :
    ∃ left before, holds (transcript ++ earlier.flatMap Iteration.messages) before ∧
      Conversation profile task left (transcript ++ earlier.flatMap Iteration.messages) before
        (iteration :: later) fired concluded := by
  induction earlier generalizing remaining transcript aborted with
  | nil => exact ⟨remaining, aborted, by simpa using ⟨initially, conversation⟩⟩
  | cons first earlier inductionHypothesis =>
    rw [List.cons_append] at conversation
    generalize tail : earlier ++ iteration :: later = rest at conversation
    cases conversation with
    | concluded _ => exact absurd tail (List.append_ne_nil_of_right_ne_nil _ (List.cons_ne_nil _ _))
    | onward takes rest =>
      subst tail
      obtain ⟨left, before, held, conversation⟩ := inductionHypothesis rest (kept initially takes)
      rw [List.append_assoc] at held conversation
      exact ⟨left, before, held, conversation⟩

/-- Every iteration takes its way after what the earlier ones added, and the later ones follow it. -/
theorem split (conversation : Conversation profile task remaining transcript aborted
      (earlier ++ iteration :: later) fired concluded) (awaits : aborted = false -> AwaitsReply transcript) :
    ∃ before after stop,
      Takes profile task (transcript ++ earlier.flatMap Iteration.messages) before iteration after
        stop ∧
      (before = false -> AwaitsReply (transcript ++ earlier.flatMap Iteration.messages)) ∧
      (stop = true ∧ later = [] ∨ stop = false ∧ ∃ left, Conversation profile task left
        (transcript ++ earlier.flatMap Iteration.messages ++ iteration.messages) after later fired
        concluded) := by
  obtain ⟨left, before, held, rest⟩ := conversation.invariant
    (fun transcript aborted => aborted = false -> AwaitsReply transcript)
    (fun awaits takes unfired => takes.awaitsReply awaits unfired) awaits
  cases rest with
  | concluded takes => exact ⟨before, fired, true, takes, held, .inl ⟨rfl, rfl⟩⟩
  | onward takes rest => exact ⟨before, _, false, takes, held, .inr ⟨rfl, _, rest⟩⟩

/-- Once the signal has fired, all iterations are silent. -/
theorem silent (conversation : Conversation profile task remaining transcript true iterations fired
    concluded) : ∀ iteration ∈ iterations, iteration.IsSilent := by
  induction iterations generalizing remaining transcript with
  | nil => simp
  | cons first rest inductionHypothesis =>
    intro iteration member
    cases conversation with
    | concluded takes => cases takes.silent.2.2
    | onward takes rest =>
      obtain ⟨silent, rfl, -⟩ := takes.silent
      rcases List.mem_cons.mp member with rfl | member
      · exact silent
      · exact inductionHypothesis rest iteration member

/-- The conversation is over exactly when its last iteration concludes it. -/
theorem over_iff (conversation : Conversation profile task remaining transcript aborted iterations
    fired concluded) :
    concluded = true ↔ ∃ earlier last, iterations = earlier ++ [last] ∧ last.Concludes profile task := by
  induction conversation with
  | spent _ _ =>
    refine iff_of_false Bool.false_ne_true ?_
    rintro ⟨earlier, last, nothing, -⟩
    exact List.append_ne_nil_of_right_ne_nil earlier (List.cons_ne_nil last []) nothing.symm
  | concluded takes => exact iff_of_true rfl ⟨[], _, rfl, takes.over_iff.mp rfl⟩
  | @onward _ _ _ _ _ _ iteration iterations takes rest inductionHypothesis =>
    rw [inductionHypothesis]
    constructor
    · rintro ⟨earlier, last, rfl, concludes⟩
      exact ⟨iteration :: earlier, last, rfl, concludes⟩
    · rintro ⟨earlier, last, same, concludes⟩
      cases earlier with
      | nil =>
        cases same
        exact absurd (takes.over_iff.mpr concludes) Bool.false_ne_true
      | cons first earlier =>
        cases same
        exact ⟨earlier, last, rfl, concludes⟩

/-- The conversations that the model is given extend one another, from the first conversation to the
last. -/
theorem growing (conversation : Conversation profile task remaining transcript aborted iterations
    fired concluded) :
    (iterations.filterMap Iteration.given?).Pairwise (fun earlier later => earlier <+: later) ∧
      ∀ messages ∈ iterations.filterMap Iteration.given?, transcript <+: messages ∧
        messages <+: transcript ++ iterations.flatMap Iteration.messages := by
  induction conversation with
  | spent _ _ => simp
  | concluded takes =>
    rcases takes.given with given | given <;>
      simp [given, List.prefix_append]
  | @onward _ transcript _ _ _ _ iteration iterations takes rest inductionHypothesis =>
    obtain ⟨pairwise, bounds⟩ := inductionHypothesis
    have later : ∀ messages ∈ iterations.filterMap Iteration.given?, transcript <+: messages ∧
        messages <+: transcript ++ (iteration :: iterations).flatMap Iteration.messages := by
      intro messages member
      obtain ⟨lower, upper⟩ := bounds messages member
      rw [List.flatMap_cons, ← List.append_assoc]
      exact ⟨(List.prefix_append _ _).trans lower, upper⟩
    rcases takes.given with given | given
    · rw [List.filterMap_cons_none given]
      exact ⟨pairwise, later⟩
    · rw [List.filterMap_cons_some given]
      refine ⟨List.pairwise_cons.mpr ⟨fun messages member => (later messages member).1, pairwise⟩,
        ?_⟩
      intro messages member
      rcases List.mem_cons.mp member with rfl | member
      · exact ⟨List.prefix_refl _, List.prefix_append _ _⟩
      · exact later messages member

end Conversation

end Runs

/-- The work succeeds exactly when the conversation is over. -/
theorem Profile.Yields.success {profile : Profile} {remaining spent : Nat}
    {transcript : List Message} {iterations : List Iteration} {outcome : Outcome} {concluded : Bool}
    (yields : profile.Yields remaining spent transcript iterations outcome concluded) :
    outcome.success = concluded := by
  cases concluded with
  | true =>
    obtain ⟨_, _, _, _, _, rfl⟩ := yields
    rfl
  | false =>
    obtain ⟨-, rfl⟩ := yields
    rfl

/-- The outcome counts the iterations and holds what they added. -/
theorem Profile.Yields.totals {profile : Profile} {remaining spent : Nat}
    {transcript : List Message} {iterations : List Iteration} {outcome : Outcome} {concluded : Bool}
    (yields : profile.Yields remaining spent transcript iterations outcome concluded) :
    outcome.iterations = spent + iterations.length ∧
      outcome.history = transcript ++ iterations.flatMap Iteration.messages := by
  cases concluded with
  | true =>
    obtain ⟨_, _, _, _, _, rfl⟩ := yields
    exact ⟨rfl, rfl⟩
  | false =>
    obtain ⟨-, rfl⟩ := yields
    exact ⟨rfl, rfl⟩

/-- Every work that comes back has an account. -/
theorem execute_account {profile : Profile} {task : Task} {aborted fired : Bool}
    {exchanges : List (Exchange Call Answer)} {outcome : Outcome}
    (bounded : 1 ≤ profile.maxIterations)
    (goes : (profile.execute task aborted).Goes exchanges (.ok (outcome, fired))) :
    ∃ iterations, Account profile task exchanges outcome iterations := by
  obtain ⟨iterations, concluded, conversation, complete, yields⟩ := conversation_of_goes goes
  obtain ⟨counted, transcript⟩ := yields.totals
  have awaits : aborted = false -> AwaitsReply (Profile.opening task) :=
    fun _ => awaitsReply_opening task
  refine ⟨iterations, {
    complete := complete
    counted := by rw [counted, Nat.zero_add]
    transcript := transcript
    added := ?added
    followed := ?followed
    unprompted := ?unprompted
    asked := ?asked
    growing := conversation.growing.1
    given := ?given
    succeeds := by rw [yields.success, conversation.over_iff]
    concludesLast := ?concludesLast
    concluded := ?concluded
    spent := ?spent }⟩
  case added =>
    intro iteration member
    obtain ⟨earlier, later, rfl⟩ := List.append_of_mem member
    obtain ⟨_, _, _, takes, -⟩ := conversation.split awaits
    exact takes.added
  case followed =>
    intro iteration member
    obtain ⟨earlier, later, rfl⟩ := List.append_of_mem member
    obtain ⟨_, _, _, takes, -⟩ := conversation.split awaits
    exact takes.followsUp
  case unprompted =>
    rintro earlier iteration later content rfl block
    obtain ⟨_, _, _, takes, -, ⟨-, rfl⟩ | ⟨rfl, _, rest⟩⟩ := conversation.split awaits
    · simp
    · rw [takes.unprompted block] at rest
      exact rest.silent
  case asked =>
    rintro earlier iteration later request delivery rfl asked
    obtain ⟨_, _, _, takes, -⟩ := conversation.split awaits
    rcases takes.asked with ⟨nothing, -⟩ | ⟨_, same, -⟩
    · rw [nothing] at asked
      cases asked
    · rw [same] at asked
      cases asked
      rfl
  case given =>
    intro messages member
    refine ⟨transcript ▸ (conversation.growing.2 messages member).2, ?_⟩
    obtain ⟨iteration, among, given⟩ := List.mem_filterMap.mp member
    obtain ⟨earlier, later, rfl⟩ := List.append_of_mem among
    obtain ⟨_, _, _, takes, waits, -⟩ := conversation.split awaits
    rcases takes.asked with ⟨nothing, -⟩ | ⟨_, same, unfired⟩
    · rw [Iteration.given?, nothing] at given
      cases given
    · rw [Iteration.given?, same] at given
      cases given
      exact waits unfired
  case concludesLast =>
    rintro earlier iteration later rfl concludes
    obtain ⟨_, _, stop, takes, -, ⟨-, rfl⟩ | ⟨rfl, -⟩⟩ := conversation.split awaits
    · rfl
    · exact absurd (takes.over_iff.mpr concludes) Bool.false_ne_true
  case concluded =>
    intro success
    rw [yields.success] at success
    obtain ⟨_, _, same, content, block, -⟩ := conversation.over_iff.mp success
    subst success
    obtain ⟨earlier, last, added, rfl, block', rfl⟩ := yields
    obtain ⟨-, single⟩ := List.append_inj' same rfl
    cases single
    rw [block] at block'
    cases block'
    refine ⟨rfl, Profile.opening task ++ earlier.flatMap Iteration.messages, ?_⟩
    simp [Profile.finished, Iteration.messages, block, Block.messages, Block.reply]
  case spent =>
    intro failure
    rw [yields.success] at failure
    subst failure
    obtain ⟨used, rfl⟩ := yields
    refine ⟨?_, rfl, rfl⟩
    rw [used]
    omega

/-- An agent without tools whose turns are decided about outside. -/
def untooledProfile : Profile := ⟨"key", none, .outside, 3⟩

/-- A task that is free to be answered in words. -/
def plainTask : Task := ⟨"You read code.", "Describe it.", [], false, true⟩

/-- A call of a tool that the agent does not have. -/
def strayCall : ToolCall := ⟨"call-1", "read_file", []⟩

/-- A way through three iterations: a turn that is kept, a stray tool call and the last word. -/
def threeReplies : List (Exchange Call Answer) :=
  let opening := Profile.opening plainTask
  let kept := opening ++ (Block.speaking "First" true).messages
  let worked := kept ++
    (Block.working "" (strayCall, "Error: tool \"read_file\" not found") []).messages
  [ ⟨.chat (untooledProfile.request plainTask opening), .answered ⟨"First", []⟩ false⟩,
    ⟨.judge ⟨"First", []⟩, true⟩,
    ⟨.chat (untooledProfile.request plainTask kept), .answered ⟨"", [strayCall]⟩ false⟩,
    ⟨.chat (untooledProfile.request plainTask worked), .answered ⟨"Done", []⟩ false⟩,
    ⟨.judge ⟨"Done", []⟩, false⟩ ]

/-- The work that goes this way has an account. -/
theorem threeReplies_account : ∃ outcome, (1 : Int) ≤ untooledProfile.maxIterations ∧
    (untooledProfile.execute plainTask false).Goes threeReplies (.ok (outcome, false)) ∧
    outcome.success = true ∧
    ∃ iterations, Account untooledProfile plainTask threeReplies outcome iterations := by
  have bounded : (1 : Int) ≤ untooledProfile.maxIterations := by decide
  have goes : (untooledProfile.execute plainTask false).Goes threeReplies (.ok (_, false)) :=
    .call _ (.call _ (.call _ (.call _ (.call _ (.done _)))))
  exact ⟨_, bounded, goes, rfl, execute_account bounded goes⟩

end RepoSurvey.Agent

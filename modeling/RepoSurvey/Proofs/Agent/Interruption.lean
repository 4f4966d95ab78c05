import RepoSurvey.Proofs.Agent.Handling

/-!
# Interrupted work

The abort signal can fire before work begins, or during any of its exchanges. `Heeds` says that this is heeded:
the exchange during which the signal fires is the last one. `Takes.heeds` says so of one iteration and
`Execution.heeds` of whole executions, whether they come back or break down. What is left of an interrupted
conversation runs through its iterations without an exchange, so that work can only succeed after that if the
exchange in flight delivered what ended it: `execute_heeds`.
-/

namespace RepoSurvey.Agent

open Activity (Exchange Goes goes_done goes_call)
open Chat (Message ToolCall)
open Json (ShapeFault)

/-! ## Signals -/

/-- Whether the signal fired before a call came back, or together with it. -/
def Delivery.fired {α : Type} : Delivery α -> Bool
  | .answered _ fired | .refused _ fired => fired
  | .cutOff => true

/-- Whether the signal fired during a call, as its answer tells. -/
def signals : (request : Call) -> Answer request -> Bool
  | .chat _, delivery => Delivery.fired delivery
  | .work _ _, delivery => Delivery.fired delivery
  | .judge _, _ => false
  | .pause, fired => fired

/-- Whether the signal fired during an exchange. -/
def fires (exchange : Exchange Call Answer) : Bool := signals exchange.request exchange.answer

/-- Whether the signal is heeded on a way: nothing is exchanged once it has fired. The truth values say whether
it had fired before and whether it has fired afterwards. -/
inductive Heeds : Bool -> List (Exchange Call Answer) -> Bool -> Prop where
  | nil (fired : Bool) : Heeds fired [] fired
  | cons {exchange : Exchange Call Answer} {way : List (Exchange Call Answer)} {after : Bool}
      (rest : Heeds (fires exchange) way after) : Heeds false (exchange :: way) after

namespace Heeds

variable {before middle after : Bool} {way first second earlier later : List (Exchange Call Answer)}
  {exchange : Exchange Call Answer}

/-- After the signal nothing is exchanged. -/
theorem silent (heeds : Heeds true way after) : way = [] ∧ after = true := by
  cases heeds
  exact ⟨rfl, rfl⟩

/-- Ways on which the signal is heeded can follow one another. -/
theorem trans (start : Heeds before first middle) (finish : Heeds middle second after) :
    Heeds before (first ++ second) after := by
  induction start with
  | nil fired => exact finish
  | cons rest inductionHypothesis => exact .cons (inductionHypothesis finish)

/-- The exchange during which the signal fires is the last one. -/
theorem last_of_fires (heeds : Heeds before (earlier ++ exchange :: later) after)
    (fired : fires exchange = true) : later = [] := by
  induction earlier generalizing before with
  | nil =>
    cases heeds with
    | cons rest =>
      rw [fired] at rest
      exact rest.silent.1
  | cons other earlier inductionHypothesis =>
    cases heeds with
    | cons rest => exact inductionHypothesis rest

/-- The signal has fired afterwards if it had fired before or fired during an exchange. -/
theorem after_eq (heeds : Heeds before way after) : after = (before || way.any fires) := by
  induction heeds with
  | nil fired => simp
  | cons rest inductionHypothesis => simpa using inductionHypothesis

/-- If the signal fires on a way, it does so during the last exchange. -/
theorem fires_last (heeds : Heeds before (earlier ++ [exchange]) true) : fires exchange = true := by
  induction earlier generalizing before with
  | nil =>
    cases heeds with
    | cons rest => simpa using rest.after_eq.symm
  | cons other earlier inductionHypothesis =>
    cases heeds with
    | cons rest => exact inductionHypothesis rest

end Heeds

/-! ## Tool calls, decisions and iterations -/

section Steps

variable {profile : Profile} {task : Task} {call : ToolCall} {calls : List ToolCall} {handlings : List Handling}
  {before after : Bool} {way : List (Exchange Call Answer)} {fault : ShapeFault}

/-- A single exchange heeds the signal. -/
theorem heeds_single (exchange : Exchange Call Answer) : Heeds false [exchange] (fires exchange) := .cons (.nil _)

/-- The signal is heeded while somebody decides about a turn, and the delivery says whether it has fired. -/
theorem Continuation.heeds_decide {continuation : Continuation} {key : String} {reply : Reply}
    {delivery : Delivery Verdict} (goes : (continuation.decide key reply).Goes way delivery) :
    Heeds false way delivery.fired := by
  have settles : ∀ {verdict}, (settled verdict).Goes way delivery -> Heeds false way delivery.fired := by
    intro verdict goes
    obtain ⟨fired, rfl, rfl⟩ := goes_settled goes
    exact heeds_single ⟨.pause, fired⟩
  cases continuation with
  | never => exact settles goes
  | rules tailLength => exact settles goes
  | model =>
    simp only [decide, byModel] at goes
    split at goes
    · exact settles goes
    · obtain ⟨answer, rest, rfl, onward⟩ := goes_call.mp goes
      cases answer <;> obtain ⟨rfl, rfl⟩ := goes_done.mp onward <;> exact heeds_single _
  | outside =>
    obtain ⟨keepsTurn, rest, rfl, onward⟩ := goes_call.mp goes
    obtain ⟨rfl, rfl⟩ := goes_done.mp onward
    exact heeds_single ⟨.judge reply, keepsTurn⟩

/-- The signal is heeded while a tool call is handled. -/
theorem Handled.heeds {told : String} (handled : Handled profile call before way told after) :
    Heeds before way after := by
  cases handled with
  | delivered found suits data fired fits => exact heeds_single _
  | troubled trouble =>
    cases trouble with
    | unknown | unsuited | tooLate => exact .nil _
    | failed | cutOff => exact heeds_single _

/-- The signal is heeded while tool calls are handled. -/
theorem HandledAll.heeds (handled : HandledAll profile before handlings after) :
    Heeds before (handlings.flatMap Handling.way) after := by
  induction handled with
  | nil fired => exact .nil fired
  | cons first rest inductionHypothesis => exact first.heeds.trans inductionHypothesis

/-- The signal is heeded by a tool call that breaks the agent down. -/
theorem Breaks.heeds (breaks : Breaks profile call before way fault) : ∃ after, Heeds before way after := by
  cases breaks with
  | schema => exact ⟨_, .nil _⟩
  | data found suits data fired => exact ⟨_, heeds_single _⟩

/-- The signal is heeded by tool calls that break the agent down. -/
theorem BreaksAt.heeds (breaks : BreaksAt profile calls before way fault) : ∃ after, Heeds before way after := by
  obtain ⟨handlings, middle, call, rest, last, -, handled, rfl, breaks⟩ := breaks
  obtain ⟨after, heeds⟩ := breaks.heeds
  exact ⟨after, handled.heeds.trans heeds⟩

variable {transcript : List Message} {iteration : Iteration} {iterations : List Iteration} {concluded : Bool}

/-- The signal is heeded in an iteration. -/
theorem Takes.heeds (takes : Takes profile task transcript before iteration after concluded) :
    Heeds before iteration.exchanges after := by
  cases takes with
  | idle => exact .nil true
  | cutOff | refused | delivered | undecided => exact heeds_single _
  | interrupted _ _ _ decides => exact .cons (Continuation.heeds_decide decides)
  | kept _ _ _ _ _ decides => exact .cons (Continuation.heeds_decide decides)
  | yielded _ _ _ _ _ decides => exact .cons (Continuation.heeds_decide decides)
  | worked _ _ _ _ _ _ works =>
    rcases Profile.handles_of_runTools works with ⟨handlings, fired, same, -, rfl, handled⟩ | ⟨_, same, -⟩
    · obtain ⟨-, rfl⟩ := Prod.mk.inj (Except.ok.inj same)
      exact .cons handled.heeds
    · nomatch same

/-- The signal is heeded in a conversation. -/
theorem Conversation.heeds {remaining : Nat}
    (conversation : Conversation profile task remaining transcript before iterations after concluded) :
    Heeds before (iterations.flatMap Iteration.exchanges) after := by
  induction conversation with
  | spent transcript aborted => exact .nil aborted
  | concluded takes =>
    rw [List.flatMap_singleton]
    exact takes.heeds
  | onward takes rest inductionHypothesis => exact takes.heeds.trans inductionHypothesis

end Steps

/-! ## What ends work -/

/-- How the last exchange of a way delivers what ends the work: the JSON that was asked for, or the decision not to
keep the turn of the reply right before it. -/
inductive Delivers (profile : Profile) (task : Task) (content : String) :
    List (Exchange Call Answer) -> Exchange Call Answer -> Prop where
  | reply (earlier : List (Exchange Call Answer)) (messages : List Message) (fired : Bool)
      (json : task.jsonOutput = true) : Delivers profile task content earlier
        ⟨.chat (profile.request task messages), .answered ⟨content, []⟩ fired⟩
  | decision (earlier : List (Exchange Call Answer)) (messages : List Message) {last : Exchange Call Answer}
      {verdict : Verdict} {fired : Bool} (free : task.jsonOutput = false)
      (decides : (profile.continuation.decide profile.key ⟨content, []⟩).Goes [last] (.answered verdict fired))
      (yields : verdict.keepsTurn = false) : Delivers profile task content
        (earlier ++ [⟨.chat (profile.request task messages), .answered ⟨content, []⟩ false⟩]) last

section Endings

variable {profile : Profile} {task : Task} {transcript : List Message} {iteration : Iteration}
  {iterations : List Iteration} {aborted fired : Bool} {content : String}
  {before earlier : List (Exchange Call Answer)} {last : Exchange Call Answer}

/-- What was exchanged earlier makes no difference to what the last exchange delivers. -/
theorem Delivers.after (delivers : Delivers profile task content earlier last) :
    Delivers profile task content (before ++ earlier) last := by
  cases delivers with
  | reply earlier messages fired json => exact .reply _ messages fired json
  | decision earlier messages free decides yields =>
    rw [← List.append_assoc]
    exact .decision _ messages free decides yields

/-- The last exchange of an iteration with which the conversation is over delivers its reply, or the decision
about it. -/
theorem Takes.delivers (takes : Takes profile task transcript aborted iteration fired true) :
    ∃ content earlier last, iteration.block = some (.speaking content false) ∧
      iteration.exchanges = earlier ++ [last] ∧ Delivers profile task content earlier last := by
  cases takes with
  | delivered content _ json => exact ⟨content, [], _, rfl, rfl, .reply [] transcript fired json⟩
  | yielded content further verdict _ free decides yields =>
    obtain ⟨exchange, rfl, -⟩ := (Continuation.goes_decide decides).1
    exact ⟨content, _, exchange, rfl, rfl, .decision [] transcript free decides yields⟩

/-- The last exchange of a conversation that is over delivers the reply of its last iteration, or the decision
about it. -/
theorem Conversation.delivers {remaining : Nat}
    (conversation : Conversation profile task remaining transcript aborted iterations fired true) :
    ∃ content others iteration earlier last, iterations = others ++ [iteration] ∧
      iteration.block = some (.speaking content false) ∧
      iterations.flatMap Iteration.exchanges = earlier ++ [last] ∧ Delivers profile task content earlier last := by
  generalize isOver : true = concluded at conversation
  induction conversation with
  | spent => nomatch isOver
  | concluded takes =>
    obtain ⟨content, earlier, last, block, exchanges, delivers⟩ := takes.delivers
    exact ⟨content, [], _, earlier, last, rfl, block, by simpa using exchanges, delivers⟩
  | @onward _ _ _ _ _ _ iteration iterations takes rest inductionHypothesis =>
    obtain ⟨content, others, final, earlier, last, rfl, block, exchanges, delivers⟩ := inductionHypothesis isOver
    refine ⟨content, iteration :: others, final, iteration.exchanges ++ earlier, last, rfl, block, ?_, delivers.after⟩
    rw [List.flatMap_cons, exchanges, List.append_assoc]

/-- The last exchange of a conversation that yields a success delivers its content. -/
theorem Profile.Yields.delivers {remaining spent : Nat} {concluded : Bool} {outcome : Outcome}
    (yields : profile.Yields remaining spent transcript iterations outcome concluded)
    (conversation : Conversation profile task remaining transcript aborted iterations fired concluded)
    (success : outcome.success = true) : ∃ earlier last,
      iterations.flatMap Iteration.exchanges = earlier ++ [last] ∧
        Delivers profile task outcome.content earlier last := by
  obtain rfl := yields.success.symm.trans success
  obtain ⟨content, others, iteration, earlier, last, ends, block, exchanges, delivers⟩ := conversation.delivers
  obtain ⟨others', iteration', block', ends', isBlock, rfl⟩ := yields
  obtain ⟨-, same⟩ := List.append_inj' (ends.symm.trans ends') rfl
  obtain rfl := List.singleton_inj.mp same
  obtain rfl := Option.some.inj (block.symm.trans isBlock)
  exact ⟨earlier, last, exchanges, delivers⟩

/-- Iterations add whole blocks. -/
theorem messages_of_iterations (iterations : List Iteration) :
    iterations.flatMap Iteration.messages = (iterations.filterMap Iteration.block).flatMap Block.messages := by
  induction iterations with
  | nil => rfl
  | cons iteration iterations inductionHypothesis =>
    rw [List.flatMap_cons, inductionHypothesis, List.filterMap_cons, Iteration.messages]
    cases iteration.block <;> rfl

end Endings

/-! ## Executions -/

section Executions

variable {profile : Profile} {task : Task} {aborted fired : Bool} {way : List (Exchange Call Answer)}
  {outcome : Outcome} {ending : Except ShapeFault (Outcome × Bool)}

/-- The signal is heeded in executions, whether they come back or break down. -/
theorem Execution.heeds (execution : Execution profile task aborted way ending) : ∃ after,
    Heeds aborted way after ∧ ∀ outcome fired, ending = .ok (outcome, fired) -> fired = after := by
  cases execution with
  | returned conversation =>
    refine ⟨_, conversation.heeds, fun outcome fired same => ?_⟩
    exact (Prod.mk.inj (Except.ok.inj same)).2.symm
  | brokeDown less conversation handles breaks =>
    obtain ⟨after, heeds⟩ := breaks.heeds
    exact ⟨after, conversation.heeds.trans (.cons heeds), fun _ _ same => nomatch same⟩

/-- Work that comes back added whole blocks to its opening. It succeeded with what its last exchange delivered, or
it used up its iterations. -/
theorem Execution.ends (execution : Execution profile task aborted way (.ok (outcome, fired))) :
    (∃ blocks : List Block, outcome.history = Profile.opening task ++ blocks.flatMap Block.messages) ∧
      (outcome.success = true -> ∃ earlier last, way = earlier ++ [last] ∧
        Delivers profile task outcome.content earlier last) ∧
      (outcome.success = false -> outcome.iterations = profile.maxIterations.toNat) := by
  cases execution with
  | @returned iterations _ concluded _ conversation yields =>
    obtain ⟨counted, history⟩ := yields.totals
    refine ⟨⟨iterations.filterMap Iteration.block, ?_⟩, yields.delivers conversation, fun failure => ?_⟩
    · rw [history, messages_of_iterations]
    · obtain rfl := yields.success.symm.trans failure
      rw [counted, yields.1, Nat.zero_add]

/-- Work under a signal that has fired uses up its iterations without a call. -/
theorem converse_aborted (profile : Profile) (task : Task) (remaining spent : Nat) (transcript : List Message) :
    profile.converse task remaining spent transcript true =
      .done (.ok (profile.exhausted (spent + remaining) transcript, true)) := by
  induction remaining generalizing spent with
  | zero => rfl
  | succ remaining inductionHypothesis =>
    rw [Profile.converse, if_pos rfl, inductionHypothesis, Nat.add_right_comm, Nat.add_assoc]

/-- **The abort signal.** Work ends among any surroundings, and once the signal has fired nothing is started any
more: no exchange follows the one during which it fired, and there is none if it had fired before. Work that comes
back tells whether it has fired, and added whole blocks to its opening, so that every tool call is answered by one
message. It succeeds after the signal only if the exchange during which it fired delivered what ended the work, and
otherwise it uses up its iterations. It does come back if all schemas are regular and all data can be written. Later
work under the same signal asks nobody anything and uses up its iterations. -/
theorem execute_heeds {σ : Type} (answer : (request : Call) -> σ -> Answer request × σ) (state : σ)
    (profile : Profile) (task : Task) (aborted : Bool) :
    let way := (profile.execute task aborted).exchanges answer state
    let ending := ((profile.execute task aborted).run answer state).1
    let fired := aborted || way.any fires
    (aborted = true -> way = []) ∧
      (∀ earlier exchange later, way = earlier ++ exchange :: later -> fires exchange = true -> later = []) ∧
      (∀ outcome told, ending = .ok (outcome, told) -> told = fired ∧
        (∃ blocks : List Block, outcome.history = Profile.opening task ++ blocks.flatMap Block.messages) ∧
        (fired = true -> outcome.success = true -> ∃ earlier last, way = earlier ++ [last] ∧
          fires last = true ∧ Delivers profile task outcome.content earlier last) ∧
        (outcome.success = false -> outcome.iterations = profile.maxIterations.toNat)) ∧
      ((∀ call definition, profile.tool? call = some definition -> definition.IsRegular) ->
        AllWritable way -> ∃ outcome, ending = .ok (outcome, fired)) ∧
      (fired = true -> ∀ (later : Profile) (next : Task), later.execute next fired =
        .done (.ok (later.exhausted later.maxIterations.toNat (Profile.opening next), true))) := by
  intro way ending fired
  have execution : Execution profile task aborted way ending := execution_of_goes (Activity.goes_run _ state)
  obtain ⟨after, heeds, tells⟩ := execution.heeds
  obtain rfl : after = fired := heeds.after_eq
  refine ⟨?_, ?_, ?_, ?_, ?_⟩
  · rintro rfl
    exact heeds.silent.1
  · intro earlier exchange later isWay fires
    rw [isWay] at heeds
    exact heeds.last_of_fires fires
  · intro outcome told isEnding
    rw [isEnding] at execution
    obtain ⟨blocks, succeeds, fails⟩ := execution.ends
    refine ⟨tells outcome told isEnding, blocks, fun hasFired success => ?_, fails⟩
    obtain ⟨earlier, last, isWay, delivers⟩ := succeeds success
    rw [hasFired, isWay] at heeds
    exact ⟨earlier, last, isWay, heeds.fires_last, delivers⟩
  · intro regular writable
    obtain ⟨outcome, told, isEnding⟩ := execution.returns regular writable
    exact ⟨outcome, tells outcome told isEnding ▸ isEnding⟩
  · intro hasFired later next
    rw [hasFired, Profile.execute, converse_aborted, Nat.zero_add]

end Executions

/-- Surroundings in which replies are recited and tools are cut off by the signal; `together` says whether it fires
together with replies. -/
def interrupting (together : Bool) : (request : Call) -> List Reply -> Answer request × List Reply
  | .chat _, reply :: replies => (.answered reply together, replies)
  | .chat _, [] => (.cutOff, [])
  | .work _ _, replies => (.cutOff, replies)
  | .judge _, replies | .pause, replies => (false, replies)

/-- When the signal fires during the work of a tool, the work uses up its iterations. When it fires together with a
call of a tool whose properties are null, the agent breaks down. -/
theorem callingReplies_interrupted :
    (∃ outcome, (((singleProfile Chat.ToolDefinition.noParameters).execute jsonTask false).run (interrupting false)
        callingReplies).1 = .ok (outcome, true) ∧ outcome.success = false ∧ outcome.iterations = 3) ∧
      (((singleProfile [("properties", .null)]).execute jsonTask false).run (interrupting true) callingReplies).1 =
        .error (.noOperation "NoneType" "get") := by
  refine ⟨?_, rfl⟩
  obtain ⟨-, -, comesBack, returns, -⟩ := execute_heeds (interrupting false) callingReplies
    (singleProfile Chat.ToolDefinition.noParameters) jsonTask false
  have isWay : ((singleProfile Chat.ToolDefinition.noParameters).execute jsonTask false).exchanges
      (interrupting false) callingReplies = [⟨.chat _, .answered _ false⟩] ++ [⟨.work _ _, .cutOff⟩] := rfl
  have regular : ∀ call definition,
      (singleProfile Chat.ToolDefinition.noParameters).tool? call = some definition -> definition.IsRegular := by
    intro call definition found
    replace found : [(_ : Chat.ToolDefinition)].find? (fun definition => definition.name == call.name) =
      some definition := found
    obtain rfl := List.mem_singleton.mp (List.mem_of_find?_eq_some found)
    exact ⟨⟨[], rfl, fun _ member => nomatch member⟩, [], rfl, fun _ _ found => nomatch found⟩
  have writable : AllWritable (((singleProfile Chat.ToolDefinition.noParameters).execute jsonTask false).exchanges
      (interrupting false) callingReplies) := by
    intro name arguments data fired member
    rw [isWay] at member
    rcases List.mem_append.mp member with isChat | isWork
    · nomatch congrArg Exchange.request (List.mem_singleton.mp isChat)
    · nomatch List.mem_singleton.mp isWork
  obtain ⟨outcome, isEnding⟩ := returns regular writable
  obtain ⟨-, -, succeeds, fails⟩ := comesBack outcome true isEnding
  have failure : outcome.success = false := by
    by_contra success
    obtain ⟨earlier, last, same, -, delivers⟩ := succeeds rfl (Bool.eq_true_of_not_eq_false success)
    obtain ⟨-, isLast⟩ := List.append_inj' (isWay.symm.trans same) rfl
    obtain rfl := List.singleton_inj.mp isLast
    cases delivers with
    | decision _ _ free => nomatch free
  exact ⟨outcome, isEnding, failure, fails failure⟩

end RepoSurvey.Agent

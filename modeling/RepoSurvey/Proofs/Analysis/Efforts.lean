import RepoSurvey.Proofs.Activity.Trails
import RepoSurvey.Proofs.Agent.Kinds
import RepoSurvey.Proofs.Agent.Transcript
import RepoSurvey.Proofs.Analysis.Inquiries

/-!
# The conversation of an inquiry

An inquiry has an agent work on its prompt and, as long as the reply can be corrected, on corrections of it.
`Inquiry.Account` says how these efforts make up one conversation and which of them decides what comes of it;
`askForJson_account` gives an account of every inquiry whose prompt can be rendered, whatever models, tools and
providers do. An effort may break down, as any work of an agent; then the inquiry fails with what broke it down.
-/

namespace RepoSurvey

namespace Agent

open Activity (Exchange trail)
open Chat (Message)
open Json (ShapeFault)

/-- What a model is asked by a call, if it is asked anything. -/
def Call.request? : Call -> Option ChatRequest
  | .chat request => some request
  | _ => none

/-- What a model is asked on a way. -/
def requests (way : List (Exchange Call Answer)) : List ChatRequest := trail Call.request? way

/-- The turns of the user among messages. -/
def userTurns (messages : List Message) : List Message := messages.filter fun message => message.role = .user

@[simp] theorem requests_append (first second : List (Exchange Call Answer)) :
    requests (first ++ second) = requests first ++ requests second := Activity.trail_append _ _

/-- Tools that work ask no model anything. -/
theorem requests_runTools {profile : Profile} {calls : List Chat.ToolCall} {aborted : Bool}
    {way : List (Exchange Call Answer)} {ending : Except ShapeFault (List Message × Bool)}
    (goes : (profile.runTools calls aborted).Goes way ending) : requests way = [] := by
  have keeps : (profile.runTools calls aborted).Keeps (Activity.asking Answer fun call => call.request? = none) _ :=
    Profile.keeps_runTools (fun _ _ => rfl) calls aborted
  apply List.filterMap_eq_nil_iff.mpr
  exact (keeps.goes goes fun _ _ => trivial).1

section JsonTasks

variable {profile : Profile} {task : Task} (json : task.jsonOutput = true)

include json

/-- In an iteration for JSON the model is asked for nothing but a reply. -/
theorem Takes.requests {transcript : List Message} {iteration : Iteration} {aborted fired concluded : Bool}
    (takes : Takes profile task transcript aborted iteration fired concluded) :
    requests iteration.exchanges = iteration.given?.toList.map (profile.request task) := by
  cases takes with
  | interrupted _ _ free _ => rw [json] at free; nomatch free
  | kept _ _ _ _ free _ _ => rw [json] at free; nomatch free
  | yielded _ _ _ _ free _ _ => rw [json] at free; nomatch free
  | worked content first others further before after works =>
    rw [Iteration.exchanges, requests_append, requests_runTools works]
    rfl
  | _ => rfl

/-- An iteration for JSON adds no turns of the user. -/
theorem Takes.userTurns {transcript : List Message} {iteration : Iteration} {aborted fired concluded : Bool}
    (takes : Takes profile task transcript aborted iteration fired concluded) :
    userTurns iteration.messages = [] := by
  cases takes with
  | kept _ _ _ _ free _ _ => rw [json] at free; nomatch free
  | worked content first others further before after works =>
    apply List.filter_eq_nil_iff.mpr
    intro message member
    rcases List.mem_cons.mp member with rfl | member
    · simp [Message.assistant]
    · obtain ⟨call, -, rfl⟩ := List.mem_map.mp member
      simp [Message.toolAnswer]
  | _ => rfl

/-- Iterations for JSON ask for nothing but replies, and add no turns of the user. -/
theorem Conversation.requests {remaining : Nat} {transcript : List Message} {iterations : List Iteration}
    {aborted fired concluded : Bool}
    (conversation : Conversation profile task remaining transcript aborted iterations fired concluded) :
    requests (iterations.flatMap Iteration.exchanges) =
        (iterations.filterMap Iteration.given?).map (profile.request task) ∧
      userTurns (iterations.flatMap Iteration.messages) = [] := by
  have step : ∀ {transcript iteration aborted fired concluded} {iterations : List Iteration},
      Takes profile task transcript aborted iteration fired concluded ->
      Agent.requests (iterations.flatMap Iteration.exchanges) =
          (iterations.filterMap Iteration.given?).map (profile.request task) ∧
        Agent.userTurns (iterations.flatMap Iteration.messages) = [] ->
      Agent.requests ((iteration :: iterations).flatMap Iteration.exchanges) =
          ((iteration :: iterations).filterMap Iteration.given?).map (profile.request task) ∧
        Agent.userTurns ((iteration :: iterations).flatMap Iteration.messages) = [] := by
    intro transcript iteration aborted fired concluded iterations takes later
    constructor
    · rw [List.flatMap_cons, requests_append, takes.requests json, later.1]
      cases given : iteration.given? with
      | none => rw [List.filterMap_cons_none given]; rfl
      | some messages => rw [List.filterMap_cons_some given]; rfl
    · rw [List.flatMap_cons, Agent.userTurns, List.filter_append, ← Agent.userTurns, ← Agent.userTurns,
        takes.userTurns json, later.2]
      rfl
  induction conversation with
  | spent _ _ => exact ⟨rfl, rfl⟩
  | concluded takes => exact step takes ⟨rfl, rfl⟩
  | onward takes rest inductionHypothesis => exact step takes inductionHypothesis

/-- Iterations for JSON that conclude end with the JSON that was asked for. -/
theorem Conversation.delivered {remaining : Nat} {transcript : List Message} {iterations : List Iteration}
    {aborted fired concluded : Bool}
    (conversation : Conversation profile task remaining transcript aborted iterations fired concluded)
    (isOver : concluded = true) : ∃ earlier content messages,
      messages = transcript ++ earlier.flatMap Iteration.messages ∧
      iterations = earlier ++ [⟨some (profile.request task messages, .answered ⟨content, []⟩ fired), [],
        some (.speaking content false)⟩] := by
  induction conversation with
  | spent _ _ => nomatch isOver
  | @concluded _ transcript _ _ iteration takes =>
    refine ⟨[], ?_⟩
    cases takes with
    | delivered content fired _ => exact ⟨content, transcript, (List.append_nil _).symm, rfl⟩
    | yielded _ _ _ _ free _ _ => rw [json] at free; nomatch free
  | @onward _ _ _ _ _ _ iteration iterations takes rest inductionHypothesis =>
    obtain ⟨earlier, content, messages, rfl, rfl⟩ := inductionHypothesis isOver
    exact ⟨iteration :: earlier, content, _, by rw [List.flatMap_cons, List.append_assoc], rfl⟩

end JsonTasks

/-- In the opening, the user says the action of the task after what was said before. -/
theorem userTurns_opening (task : Task) :
    userTurns (Profile.opening task) = userTurns task.history ++ [.user task.action] := by
  rw [Profile.opening, userTurns, List.filter_cons_of_neg (by simp [Message.system]), List.filter_append]
  rfl

/-- Between two conversations with the same turns of the user there is none with others. -/
theorem userTurns_between {lower messages upper : List Message} (starts : lower <+: messages)
    (ends : messages <+: upper) (same : userTurns upper = userTurns lower) : userTurns messages = userTurns lower := by
  have above : userTurns lower <+: userTurns messages := starts.filter _
  have below : userTurns messages <+: userTurns lower := same ▸ ends.filter _
  exact below.eq_of_length (Nat.le_antisymm below.length_le above.length_le)

/-- An effort of an agent: its work on a task, and how it ended. -/
structure Effort where
  task : Task
  way : List (Exchange Call Answer)
  ending : Except ShapeFault (Outcome × Bool)

namespace Effort

/-- Whether an effort is one of an agent that gets no signal. -/
def Of (profile : Profile) (effort : Effort) : Prop :=
  (profile.execute effort.task false).Goes effort.way effort.ending

/-- Whether an effort came back with some outcome. -/
def Returns (effort : Effort) (outcome : Outcome) : Prop := ∃ fired, effort.ending = .ok (outcome, fired)

/-- What is to be said of an effort for JSON: what the model is given grows from the opening on, the user says nothing
more, and work that comes back ends with the reply that is its content, or has none. -/
structure Account (profile : Profile) (effort : Effort) (transcripts : List (List Message)) : Prop where
  asked : requests effort.way = transcripts.map (profile.request effort.task)
  growing : transcripts.Pairwise (· <+: ·)
  opened : ∀ messages ∈ transcripts, Profile.opening effort.task <+: messages
  said : ∀ messages ∈ transcripts, userTurns messages = userTurns (Profile.opening effort.task)
  kept : ∀ outcome, effort.Returns outcome -> Profile.opening effort.task <+: outcome.history ∧
    userTurns outcome.history = userTurns (Profile.opening effort.task) ∧
    ∀ messages ∈ transcripts, messages <+: outcome.history
  replied : ∀ outcome, effort.Returns outcome -> outcome.success = true -> ∃ earlier messages fired,
    effort.way = earlier ++
        [⟨.chat (profile.request effort.task messages), .answered ⟨outcome.content, []⟩ fired⟩] ∧
      outcome.history = messages ++ [.assistant outcome.content []]
  silent : ∀ outcome, effort.Returns outcome -> outcome.success = false -> outcome.content = ""

variable {profile : Profile} {task : Task} {way : List (Exchange Call Answer)}

/-- Work for JSON that comes back has an account. -/
theorem account_of_return (json : task.jsonOutput = true) {outcome : Outcome} {fired : Bool}
    (goes : (profile.execute task false).Goes way (.ok (outcome, fired))) :
    ∃ transcripts, (⟨task, way, .ok (outcome, fired)⟩ : Effort).Account profile transcripts := by
  obtain ⟨iterations, concluded, conversation, rfl, yields⟩ := conversation_of_goes goes
  obtain ⟨asked, nobody⟩ := conversation.requests json
  obtain ⟨growing, bounds⟩ := conversation.growing
  obtain ⟨-, history⟩ := yields.totals
  rw [← history] at bounds
  have lower : Profile.opening task <+: outcome.history := history ▸ List.prefix_append _ _
  have same : userTurns outcome.history = userTurns (Profile.opening task) := by
    rw [history, userTurns, List.filter_append, ← userTurns, ← userTurns, nobody, List.append_nil]
  refine ⟨iterations.filterMap Iteration.given?, asked, growing, fun messages member => (bounds messages member).1,
    ?_, ?_, ?_, ?_⟩
  · intro messages member
    exact userTurns_between (bounds messages member).1 (bounds messages member).2 same
  · rintro _ ⟨_, ⟨⟩⟩
    exact ⟨lower, same, fun messages member => (bounds messages member).2⟩
  · rintro _ ⟨_, ⟨⟩⟩ success
    rw [yields.success] at success
    subst success
    obtain ⟨earlier, content, messages, rfl, rfl⟩ := conversation.delivered json rfl
    obtain ⟨others, last, block, split, added, rfl⟩ := yields
    obtain ⟨rfl, isLast⟩ := List.append_inj' split rfl
    obtain rfl := (List.cons.inj isLast).1
    obtain rfl := Option.some.inj added
    refine ⟨earlier.flatMap Iteration.exchanges, Profile.opening task ++ earlier.flatMap Iteration.messages, fired,
      ?_, ?_⟩
    · simp [Iteration.exchanges, Profile.finished, Block.reply]
    · simp [Iteration.messages, Profile.finished, Block.reply, Block.messages]
  · rintro _ ⟨_, ⟨⟩⟩ failure
    rw [yields.success] at failure
    subst failure
    obtain ⟨-, rfl⟩ := yields
    rfl

/-- Work for JSON that breaks down has an account. -/
theorem account_of_fault (json : task.jsonOutput = true) {fault : ShapeFault}
    (goes : (profile.execute task false).Goes way (.error fault)) :
    ∃ transcripts, (⟨task, way, .error fault⟩ : Effort).Account profile transcripts := by
  obtain ⟨iterations, rest, -, conversation, rfl, reply, fired, further, rfl, works⟩ := conversation_of_fault goes
  obtain ⟨asked, nobody⟩ := conversation.requests json
  obtain ⟨growing, bounds⟩ := conversation.growing
  let last := Profile.opening task ++ iterations.flatMap Iteration.messages
  have same : userTurns last = userTurns (Profile.opening task) := by
    rw [userTurns, List.filter_append, ← userTurns, ← userTurns, nobody, List.append_nil]
  have all : ∀ messages ∈ iterations.filterMap Iteration.given? ++ [last],
      Profile.opening task <+: messages ∧ messages <+: last := by
    rw [List.forall_mem_append]
    exact ⟨bounds, List.forall_mem_singleton.mpr ⟨List.prefix_append _ _, List.prefix_refl _⟩⟩
  refine ⟨iterations.filterMap Iteration.given? ++ [last], ?_, ?_, fun messages member => (all messages member).1,
    ?_, ?_, ?_, ?_⟩
  · rw [requests_append, asked, List.map_append]
    have nothing := requests_runTools works
    unfold requests at nothing ⊢
    rw [Activity.trail_cons, nothing]
    rfl
  · refine List.pairwise_append.mpr ⟨growing, List.pairwise_singleton _ _, ?_⟩
    intro messages member _ isLast
    rw [List.mem_singleton.mp isLast]
    exact (bounds messages member).2
  · intro messages member
    exact userTurns_between (all messages member).1 (all messages member).2 same
  · rintro _ ⟨_, ⟨⟩⟩
  · rintro _ ⟨_, ⟨⟩⟩
  · rintro _ ⟨_, ⟨⟩⟩

/-- An effort for JSON has an account. -/
theorem Of.account {effort : Effort} (of : effort.Of profile) (json : effort.task.jsonOutput = true) :
    ∃ transcripts, effort.Account profile transcripts := by
  obtain ⟨task, way, ending⟩ := effort
  cases ending with
  | ok result => exact account_of_return json of
  | error fault => exact account_of_fault json of

section Requests

variable {effort : Effort} (of : effort.Of profile) (json : effort.task.jsonOutput = true)

include of json

/-- What is requested in an effort for JSON. -/
theorem Of.asks {request : ChatRequest} (member : request ∈ requests effort.way) : request.key = profile.key ∧
    request.jsonOutput = true ∧ request.tools = profile.toolsFor effort.task ∧
    request.messages.head? = some (.system effort.task.systemPrompt) := by
  obtain ⟨transcripts, account⟩ := of.account json
  rw [account.asked] at member
  obtain ⟨messages, isOne, rfl⟩ := List.mem_map.mp member
  obtain ⟨added, rfl⟩ := account.opened messages isOne
  exact ⟨rfl, json, rfl, rfl⟩

/-- The requests of an effort for JSON extend each other. -/
theorem Of.growing : (requests effort.way).Pairwise fun earlier later =>
    earlier.messages.drop 1 <+: later.messages.drop 1 := by
  obtain ⟨transcripts, account⟩ := of.account json
  rw [account.asked, List.pairwise_map]
  exact account.growing.imp fun isPrefix => isPrefix.drop 1

/-- Below the system prompt, the requests of an effort for JSON extend its history and its action. -/
theorem Of.extends_history {request : ChatRequest} (member : request ∈ requests effort.way) :
    effort.task.history ++ [.user effort.task.action] <+: request.messages.drop 1 := by
  obtain ⟨transcripts, account⟩ := of.account json
  rw [account.asked] at member
  obtain ⟨messages, isOne, rfl⟩ := List.mem_map.mp member
  exact (account.opened messages isOne).drop 1

/-- In the requests of an effort for JSON, the user says its action after what was said before. -/
theorem Of.said {request : ChatRequest} (member : request ∈ requests effort.way) :
    userTurns request.messages = userTurns effort.task.history ++ [.user effort.task.action] := by
  obtain ⟨transcripts, account⟩ := of.account json
  rw [account.asked] at member
  obtain ⟨messages, isOne, rfl⟩ := List.mem_map.mp member
  exact (account.said messages isOne).trans (userTurns_opening _)

/-- The history that an effort for JSON leaves extends its requests, and in it the user says the action of the effort
after what was said before. -/
theorem Of.left {outcome : Outcome} (returns : effort.Returns outcome) :
    (∀ request ∈ requests effort.way, request.messages.drop 1 <+: outcome.history.drop 1) ∧
      effort.task.history ++ [.user effort.task.action] <+: outcome.history.drop 1 ∧
      userTurns (outcome.history.drop 1) = userTurns effort.task.history ++ [.user effort.task.action] := by
  obtain ⟨transcripts, account⟩ := of.account json
  obtain ⟨lower, same, above⟩ := account.kept outcome returns
  refine ⟨fun request member => ?_, lower.drop 1, ?_⟩
  · rw [account.asked] at member
    obtain ⟨messages, isOne, rfl⟩ := List.mem_map.mp member
    exact (above messages isOne).drop 1
  · rw [← userTurns_opening, ← same]
    obtain ⟨added, isHistory⟩ := lower
    rw [← isHistory]
    rfl

end Requests

/-- Whether an effort goes on from the history that another one left. -/
def Continues (earlier later : Effort) : Prop :=
  ∃ outcome, earlier.Returns outcome ∧ later.task.history = outcome.history.drop 1

section Chains

variable {first : Effort} {others : List Effort} (of : ∀ effort ∈ first :: others, effort.Of profile)
  (json : ∀ effort ∈ first :: others, effort.task.jsonOutput = true) (chain : (first :: others).IsChain Continues)

include of json chain

/-- Efforts that go on from each other make up one conversation, after the history of the first. -/
theorem conversation_of_chain :
    (∀ request ∈ (first :: others).flatMap fun effort => requests effort.way,
      first.task.history <+: request.messages.drop 1) ∧
    ((first :: others).flatMap fun effort => requests effort.way).Pairwise fun earlier later =>
      earlier.messages.drop 1 <+: later.messages.drop 1 := by
  induction others generalizing first with
  | nil =>
    rw [List.flatMap_singleton]
    have ofFirst := of first (.head _)
    have jsonFirst := json first (.head _)
    refine ⟨fun request member => ?_, ofFirst.growing jsonFirst⟩
    exact (List.prefix_append _ _).trans (ofFirst.extends_history jsonFirst member)
  | cons second others inductionHypothesis =>
    obtain ⟨⟨outcome, returns, isHistory⟩, chain⟩ := List.isChain_cons_cons.mp chain
    obtain ⟨ofFirst, of⟩ := List.forall_mem_cons.mp of
    obtain ⟨jsonFirst, json⟩ := List.forall_mem_cons.mp json
    obtain ⟨onward, growing⟩ := inductionHypothesis of json chain
    obtain ⟨below, history, -⟩ := ofFirst.left jsonFirst returns
    rw [isHistory] at onward
    rw [List.flatMap_cons]
    constructor
    · intro request member
      rcases List.mem_append.mp member with early | late
      · exact (List.prefix_append _ _).trans (ofFirst.extends_history jsonFirst early)
      · exact ((List.prefix_append _ _).trans history).trans (onward request late)
    · refine List.pairwise_append.mpr ⟨ofFirst.growing jsonFirst, growing, fun earlier early later late => ?_⟩
      exact (below earlier early).trans (onward later late)

/-- Before an effort that goes on from others, the user said their actions. -/
theorem userTurns_of_chain {before after : List Effort} {effort : Effort}
    (split : first :: others = before ++ effort :: after) : userTurns effort.task.history =
      userTurns first.task.history ++ before.map fun earlier => .user earlier.task.action := by
  induction before generalizing first others with
  | nil =>
    obtain ⟨rfl, -⟩ := List.cons.inj split
    exact (List.append_nil _).symm
  | cons earlier before inductionHypothesis =>
    obtain ⟨rfl, isRest⟩ := List.cons.inj split
    cases others with
    | nil => exact absurd isRest.symm (List.append_ne_nil_of_right_ne_nil _ (List.cons_ne_nil _ _))
    | cons second others =>
      obtain ⟨⟨outcome, returns, isHistory⟩, chain⟩ := List.isChain_cons_cons.mp chain
      obtain ⟨ofFirst, of⟩ := List.forall_mem_cons.mp of
      obtain ⟨jsonFirst, json⟩ := List.forall_mem_cons.mp json
      rw [inductionHypothesis of json chain isRest, isHistory, (ofFirst.left jsonFirst returns).2.2, List.append_assoc]
      rfl

end Chains

end Effort

end Agent

namespace Analysis

open Activity (Exchange Fares asking)
open Agent (Effort Outcome Profile requests userTurns)
open Chat (Message)

/-! ## What agents exchange in a run -/

/-- An exchange of an agent, as one of the run that the agent works for. -/
def attend (exchange : Exchange Agent.Call Agent.Answer) : Exchange Call Answer :=
  ⟨.agent exchange.request, exchange.answer⟩

/-- What the agents of a run exchange on a way. -/
def attended (way : List (Exchange Call Answer)) : List (Exchange Agent.Call Agent.Answer) :=
  way.filterMap fun
    | ⟨.agent request, answer⟩ => some ⟨request, answer⟩
    | _ => none

/-- The agents of ways in a row exchange one after the other. -/
@[simp] theorem attended_append (first second : List (Exchange Call Answer)) :
    attended (first ++ second) = attended first ++ attended second := List.filterMap_append

/-- What an agent exchanges is what the agents of a run exchange when it is at work. -/
@[simp] theorem attended_attend (way : List (Exchange Agent.Call Agent.Answer)) : attended (way.map attend) = way := by
  unfold attended
  rw [List.filterMap_map]
  exact List.filterMap_some

/-- What the agents of a run exchange is exchanged on its way. -/
theorem mem_of_attended {way : List (Exchange Call Answer)} {exchange : Exchange Agent.Call Agent.Answer}
    (member : exchange ∈ attended way) : attend exchange ∈ way := by
  obtain ⟨⟨request, answer⟩, isOne, same⟩ := List.mem_filterMap.mp member
  cases request with
  | agent request =>
    obtain rfl := Option.some.inj same
    exact isOne
  | _ => nomatch same

/-- Where no agent is at work, none exchanges anything. -/
theorem attended_of_others {way : List (Exchange Call Answer)}
    (others : ∀ exchange ∈ way, ∀ asked, exchange.request ≠ .agent asked) : attended way = [] := by
  apply List.filterMap_eq_nil_iff.mpr
  rintro ⟨request, answer⟩ member
  cases request with
  | agent asked => exact absurd rfl (others _ member asked)
  | _ => rfl

/-- An activity of an agent goes in a run as it goes on its own. -/
theorem goes_attended {α : Type} {activity : Agent.Doing α} {way : List (Exchange Call Answer)} {value : α}
    (goes : (Activity.embed Call.agent (fun _ answer => answer) activity : Doing α).Goes way value) :
    ∃ own, activity.Goes own value ∧ way = own.map attend := by
  induction activity generalizing way with
  | done found =>
    obtain ⟨rfl, rfl⟩ := Activity.goes_done.mp goes
    exact ⟨[], .done _, rfl⟩
  | call request next inductionHypothesis =>
    obtain ⟨answer, rest, rfl, onward⟩ := Activity.goes_call.mp goes
    obtain ⟨own, later, rfl⟩ := inductionHypothesis answer onward
    exact ⟨⟨request, answer⟩ :: own, @Activity.Goes.call _ _ _ request next own _ answer later, rfl⟩

/-- What a run gets from an effort. -/
def yielded (effort : Effort) : Except Problem Outcome :=
  match effort.ending with
  | .ok (outcome, _) => .ok outcome
  | .error fault => .error (.shape fault)

/-- A task is carried out by an effort. -/
theorem effort_of_carryOut {profile : Profile} {task : Agent.Task} {way : List (Exchange Call Answer)}
    {found : Except Problem Outcome} (goes : (carryOut profile task).run.Goes way found) :
    ∃ effort : Effort, effort.Of profile ∧ effort.task = task ∧ way = effort.way.map attend ∧
      found = yielded effort := by
  obtain ⟨before, after, ending, rfl, work, rest⟩ := Activity.goes_bind.mp goes
  obtain ⟨own, works, rfl⟩ := goes_attended work
  refine ⟨⟨task, own, ending⟩, works, rfl, ?_⟩
  cases ending with
  | ok result =>
    obtain ⟨rfl, rfl⟩ := Activity.goes_done.mp rest
    exact ⟨List.append_nil _, rfl⟩
  | error fault =>
    obtain ⟨rfl, rfl⟩ := Activity.goes_done.mp rest
    exact ⟨List.append_nil _, rfl⟩

/-- A reply is corrected by an effort. -/
theorem effort_of_correct {profile : Profile} {role correction : String} {withTools : Bool} {history : List Message}
    {way : List (Exchange Call Answer)} {found : Except Problem (String × List Message)}
    (goes : (correct profile role withTools correction history).run.Goes way found) :
    ∃ effort : Effort, effort.Of profile ∧ effort.task = ⟨role, correction, history, true, withTools⟩ ∧
      way = effort.way.map attend ∧
      found = (yielded effort).map fun outcome => (outcome.content, outcome.history.drop 1) := by
  rw [correct, Activity.run_then] at goes
  obtain ⟨before, after, result, rfl, work, onward⟩ := Activity.goes_bind.mp goes
  obtain ⟨effort, of, isTask, rfl, rfl⟩ := effort_of_carryOut work
  refine ⟨effort, of, isTask, ?_⟩
  cases yields : yielded effort with
  | ok outcome =>
    rw [yields] at onward
    obtain ⟨rfl, rfl⟩ := Activity.goes_done.mp onward
    exact ⟨List.append_nil _, rfl⟩
  | error problem =>
    rw [yields] at onward
    obtain ⟨rfl, rfl⟩ := Activity.goes_done.mp onward
    exact ⟨List.append_nil _, rfl⟩

/-! ## What an inquiry comes to -/

namespace Inquiry

/-- What comes of an inquiry by what is found in a reply. -/
def judged (inquiry : Inquiry) : Except ExtractionFailure Json -> Except Problem Json
  | .ok value => .ok value
  | .error failure =>
    if failure.isCorrectable then .error (.stage inquiry.stage failure.message) else .error (.reply failure)

/-- Whether an effort corrects the reply of the one before it: it goes on from the history of that one with nothing but
the correction of its failure. -/
def Corrects (inquiry : Inquiry) (role : String) (earlier later : Effort) : Prop :=
  ∃ outcome failure, earlier.Returns outcome ∧ Reply.parseObject outcome.content = .error failure ∧
    failure.isCorrectable = true ∧
    later.task = ⟨role, Reply.correction failure, outcome.history.drop 1, true, inquiry.withTools⟩

/-- How the last of some efforts decides what comes of an inquiry: it breaks down, or comes back with a reply that
cannot be corrected, or not any more because there were as many efforts before it as there may be corrections. -/
inductive Decided (inquiry : Inquiry) (limit : Nat) : List Effort -> Except Problem Json -> Prop where
  | brokeDown {effort : Effort} {fault : Json.ShapeFault} (earlier : List Effort)
      (broken : effort.ending = .error fault) : Decided inquiry limit (earlier ++ [effort]) (.error (.shape fault))
  | settled {effort : Effort} {outcome : Outcome} (earlier : List Effort) (returns : effort.Returns outcome)
      (isLast : ∀ failure, Reply.parseObject outcome.content = .error failure -> failure.isCorrectable = true ->
        earlier.length = limit) :
      Decided inquiry limit (earlier ++ [effort]) (inquiry.judged (Reply.parseObject outcome.content))

/-- After one more effort, an inquiry is decided as it is decided by the efforts after it. -/
theorem Decided.cons {inquiry : Inquiry} {limit : Nat} {efforts : List Effort} {ending : Except Problem Json}
    (decided : inquiry.Decided limit efforts ending) (effort : Effort) :
    inquiry.Decided (limit + 1) (effort :: efforts) ending := by
  cases decided with
  | brokeDown earlier broken => exact .brokeDown (effort :: earlier) broken
  | settled earlier returns isLast =>
    exact .settled (effort :: earlier) returns fun failure parsed isCorrectable =>
      congrArg (· + 1) (isLast failure parsed isCorrectable)

/-- What is to be said of an inquiry with a prompt that was rendered. -/
structure Account (context : Context) (inquiry : Inquiry) (prompt : Prompt.Rendered) (key : String)
    (efforts : List Effort) (way : List (Exchange Call Answer)) (ending : Except Problem Json) : Prop where
  /-- Nothing is exchanged with models and tools but in efforts of the one agent. -/
  complete : attended way = efforts.flatMap Effort.way
  worked : ∀ effort ∈ efforts, effort.Of (context.agent key)
  /-- An effort breaks down only by a tool with a strange schema, or by data that cannot be written. -/
  sturdy : ∀ effort ∈ efforts, ∀ fault, effort.ending = .error fault -> context.IsFragile (Delivered way)
  few : efforts.length ≤ Reply.correctionLimit + 1
  /-- The first effort is on the prompt, and each other one on a correction. -/
  begins : ∃ system, efforts.head?.map Effort.task = some ⟨system, prompt.action, [], true, inquiry.withTools⟩
  corrects : efforts.IsChain (inquiry.Corrects prompt.role)
  /-- All requests are alike but for their messages. -/
  asks : ∀ request ∈ requests (attended way), request.key = key ∧ request.jsonOutput = true ∧
    request.tools = context.offered inquiry.withTools ∧ ∃ system, request.messages.head? = some (.system system)
  /-- Below the system prompt, every request extends those before it. -/
  growing : (requests (attended way)).Pairwise fun earlier later =>
    earlier.messages.drop 1 <+: later.messages.drop 1
  /-- The user says the actions of the efforts so far, and nothing else. -/
  said : ∀ before effort after, efforts = before ++ effort :: after -> ∀ request ∈ requests effort.way,
    userTurns request.messages = (before ++ [effort]).map fun earlier => .user earlier.task.action
  /-- An effort that succeeds ends with the reply that is its content; otherwise the content is empty. -/
  replied : ∀ effort ∈ efforts, ∀ outcome, effort.Returns outcome -> outcome.success = true ->
    ∃ earlier request fired, effort.way = earlier ++ [⟨.chat request, .answered ⟨outcome.content, []⟩ fired⟩]
  silent : ∀ effort ∈ efforts, ∀ outcome, effort.Returns outcome -> outcome.success = false -> outcome.content = ""
  /-- The inquiry fails when the first effort does, and is decided by the last one otherwise. -/
  ends : (∃ effort outcome, efforts = [effort] ∧ effort.Returns outcome ∧ outcome.success = false ∧
      ending = .error (.stage inquiry.stage (failureText outcome "agent did not complete"))) ∨
    (∀ effort ∈ efforts.head?, ∀ outcome, effort.Returns outcome -> outcome.success = true) ∧
      inquiry.Decided Reply.correctionLimit efforts ending

end Inquiry

section Inquiries

variable {context : Context} {checkout : Files.Checkout} {inquiry : Inquiry} {profile : Profile} {role : String}

/-- Extraction from the reply of an effort comes to further efforts, each of which corrects the one before it, and the
last of which decides. -/
theorem efforts_of_extract {remaining : Nat} {first : Effort} {outcome : Outcome} {way : List (Exchange Call Answer)}
    {found : Except Problem (Except ExtractionFailure Json × List Message)} (returns : first.Returns outcome)
    (goes : (Reply.extract (correct profile role inquiry.withTools) remaining outcome.content
      (outcome.history.drop 1)).run.Goes way found) :
    ∃ others : List Effort, (∀ effort ∈ others, effort.Of profile) ∧
      way = (others.flatMap Effort.way).map attend ∧ others.length ≤ remaining ∧
      (first :: others).IsChain (inquiry.Corrects role) ∧
      inquiry.Decided remaining (first :: others) (found >>= fun extracted => inquiry.judged extracted.1) := by
  induction remaining generalizing first outcome way with
  | zero =>
    rw [Reply.extract_settled fun _ _ _ => rfl] at goes
    obtain ⟨rfl, rfl⟩ := Activity.goes_value.mp goes
    refine ⟨[], fun _ member => (nomatch member), rfl, Nat.le_refl 0, .singleton _, ?_⟩
    exact .settled [] returns fun _ _ _ => rfl
  | succ remaining inductionHypothesis =>
    by_cases again : ∃ failure, Reply.parseObject outcome.content = .error failure ∧ failure.isCorrectable = true
    · obtain ⟨failure, parsed, isCorrectable⟩ := again
      rw [Reply.extract_again parsed isCorrectable, Activity.run_then] at goes
      obtain ⟨before, after, result, rfl, work, onward⟩ := Activity.goes_bind.mp goes
      obtain ⟨next, ofNext, isTask, rfl, rfl⟩ := effort_of_correct work
      have corrects : inquiry.Corrects role first next := ⟨outcome, failure, returns, parsed, isCorrectable, isTask⟩
      cases ending : next.ending with
      | error fault =>
        rw [yielded, ending] at onward
        obtain ⟨rfl, rfl⟩ := Activity.goes_done.mp onward
        refine ⟨[next], List.forall_mem_singleton.mpr ofNext, ?_, Nat.succ_le_succ (Nat.zero_le _),
          List.isChain_pair.mpr corrects, ?_⟩
        · rw [List.flatMap_singleton, List.append_nil]
        · exact .brokeDown [first] ending
      | ok result =>
        obtain ⟨further, fired⟩ := result
        rw [yielded, ending] at onward
        obtain ⟨others, ofOthers, rfl, few, chain, decided⟩ := inductionHypothesis ⟨fired, ending⟩ onward
        refine ⟨next :: others, List.forall_mem_cons.mpr ⟨ofNext, ofOthers⟩, ?_, Nat.succ_le_succ few,
          List.isChain_cons_cons.mpr ⟨corrects, chain⟩, decided.cons first⟩
        rw [List.flatMap_cons, List.map_append]
    · have settled : ∀ failure, Reply.parseObject outcome.content = .error failure -> failure.isCorrectable = true ->
          remaining + 1 = 0 := fun failure parsed isCorrectable => (again ⟨failure, parsed, isCorrectable⟩).elim
      rw [Reply.extract_settled settled] at goes
      obtain ⟨rfl, rfl⟩ := Activity.goes_value.mp goes
      refine ⟨[], fun _ member => (nomatch member), rfl, Nat.zero_le _, .singleton _, ?_⟩
      exact .settled [] returns fun failure parsed isCorrectable => (settled failure parsed isCorrectable).symm

/-- What comes of the reply of an effort comes of further efforts, the last of which decides. -/
theorem efforts_of_reply {first : Effort} {outcome : Outcome} {way : List (Exchange Call Answer)}
    {ending : Except Problem Json} (returns : first.Returns outcome)
    (goes : (do
      let (extraction, _) <- Reply.extract (correct profile role inquiry.withTools) Reply.correctionLimit
        outcome.content (outcome.history.drop 1)
      match extraction with
      | .ok value => pure value
      | .error failure =>
        if failure.isCorrectable then throw (.stage inquiry.stage failure.message)
        else throw (.reply failure) : Attempt Json).run.Goes way ending) :
    ∃ others : List Effort, (∀ effort ∈ others, effort.Of profile) ∧
      way = (others.flatMap Effort.way).map attend ∧ others.length ≤ Reply.correctionLimit ∧
      (first :: others).IsChain (inquiry.Corrects role) ∧
      inquiry.Decided Reply.correctionLimit (first :: others) ending := by
  rw [Activity.run_then] at goes
  obtain ⟨further, last, found, rfl, extracts, judges⟩ := Activity.goes_bind.mp goes
  obtain ⟨others, of, rfl, few, corrects, decided⟩ := efforts_of_extract returns extracts
  have isJudged : last = [] ∧ ending = found >>= fun extracted => inquiry.judged extracted.1 := by
    cases found with
    | error problem => exact Activity.goes_done.mp judges
    | ok extracted =>
      obtain ⟨extraction, history⟩ := extracted
      cases extraction with
      | ok value => exact Activity.goes_done.mp judges
      | error failure =>
        dsimp only at judges
        change _ ∧ ending = if failure.isCorrectable then _ else _
        split at judges
        · next isCorrectable => rw [if_pos isCorrectable]; exact Activity.goes_done.mp judges
        · next isFinal => rw [if_neg isFinal]; exact Activity.goes_done.mp judges
  obtain ⟨rfl, rfl⟩ := isJudged
  exact ⟨others, of, List.append_nil _, few, corrects, decided⟩

/-- The efforts of an inquiry are all for JSON, with the tools of the inquiry. -/
theorem alike_of_chain {first : Effort} {others : List Effort}
    (isFirst : first.task.jsonOutput = true ∧ first.task.withTools = inquiry.withTools)
    (chain : (first :: others).IsChain (inquiry.Corrects role)) : ∀ effort ∈ first :: others,
      effort.task.jsonOutput = true ∧ effort.task.withTools = inquiry.withTools := by
  induction others generalizing first with
  | nil => exact List.forall_mem_singleton.mpr isFirst
  | cons second others inductionHypothesis =>
    obtain ⟨⟨outcome, failure, -, -, -, isTask⟩, chain⟩ := List.isChain_cons_cons.mp chain
    have isSecond : second.task.jsonOutput = true ∧ second.task.withTools = inquiry.withTools := by
      rw [isTask]
      exact ⟨rfl, rfl⟩
    exact List.forall_mem_cons.mpr ⟨isFirst, inductionHypothesis isSecond chain⟩

/-- An effort that corrects the reply of another one goes on from it. -/
theorem Inquiry.Corrects.continues {earlier later : Effort} (corrects : inquiry.Corrects role earlier later) :
    earlier.Continues later := by
  obtain ⟨outcome, failure, returns, -, -, isTask⟩ := corrects
  exact ⟨outcome, returns, congrArg Agent.Task.history isTask⟩

/-- Efforts of which the first is on the prompt, and each other one on a correction, make up an account. -/
theorem account_of_efforts {prompt : Prompt.Rendered} {key system : String} {first : Effort} {others : List Effort}
    {way : List (Exchange Call Answer)} {ending : Except Problem Json}
    (worked : ∀ effort ∈ first :: others, effort.Of (context.agent key))
    (complete : attended way = (first :: others).flatMap Effort.way) (few : others.length ≤ Reply.correctionLimit)
    (isTask : first.task = ⟨system, prompt.action, [], true, inquiry.withTools⟩)
    (corrects : (first :: others).IsChain (inquiry.Corrects prompt.role))
    (ends : (∃ effort outcome, first :: others = [effort] ∧ effort.Returns outcome ∧ outcome.success = false ∧
        ending = .error (.stage inquiry.stage (failureText outcome "agent did not complete"))) ∨
      (∀ effort ∈ (first :: others).head?, ∀ outcome, effort.Returns outcome -> outcome.success = true) ∧
        inquiry.Decided Reply.correctionLimit (first :: others) ending) :
    inquiry.Account context prompt key (first :: others) way ending := by
  have alike := alike_of_chain (by rw [isTask]; exact ⟨rfl, rfl⟩) corrects
  have json : ∀ effort ∈ first :: others, effort.task.jsonOutput = true := fun effort member => (alike effort member).1
  have chain : (first :: others).IsChain Effort.Continues := corrects.imp fun _ _ => Inquiry.Corrects.continues
  have requested : requests (attended way) = (first :: others).flatMap fun effort => requests effort.way := by
    rw [complete]
    exact List.filterMap_flatMap
  refine ⟨complete, worked, ?_, Nat.succ_le_succ few, ⟨system, congrArg some isTask⟩, corrects, ?_, ?_, ?_, ?_, ?_,
    ends⟩
  · intro effort isEffort fault broken
    have keeps := (context.agent key).keeps_hearing effort.task false (Heard way) (Delivered way)
    have told : ∀ exchange ∈ effort.way, (Agent.hearing (Heard way) (Delivered way)).told exchange.request
        exchange.answer := by
      intro exchange member
      have attends : exchange ∈ attended way := complete ▸ List.mem_flatMap.mpr ⟨effort, isEffort, member⟩
      exact told_heard way _ (mem_of_attended attends)
    have ends := (keeps.goes (worked effort isEffort) told).2
    rw [broken] at ends
    exact Context.isFragile_of_agent ends
  · rw [requested]
    intro request member
    obtain ⟨effort, isEffort, member⟩ := List.mem_flatMap.mp member
    obtain ⟨isKey, isJson, isTools, isHead⟩ := (worked effort isEffort).asks (json effort isEffort) member
    refine ⟨isKey, isJson, ?_, _, isHead⟩
    rw [isTools, Profile.toolsFor, (alike effort isEffort).2]
    rfl
  · rw [requested]
    exact (Effort.conversation_of_chain worked json chain).2
  · intro before effort after split request member
    have isEffort : effort ∈ first :: others := split ▸ List.mem_append_right _ (.head _)
    rw [(worked effort isEffort).said (json effort isEffort) member, Effort.userTurns_of_chain worked json chain split,
      isTask, List.map_append]
    rfl
  · intro effort isEffort outcome returns success
    obtain ⟨transcripts, account⟩ := (worked effort isEffort).account (json effort isEffort)
    obtain ⟨earlier, messages, fired, isWay, -⟩ := account.replied outcome returns success
    exact ⟨earlier, _, fired, isWay⟩
  · intro effort isEffort outcome returns failed
    obtain ⟨transcripts, account⟩ := (worked effort isEffort).account (json effort isEffort)
    exact account.silent outcome returns failed

/-- What is asked without trouble and without an agent is asked before the rest. -/
theorem goes_then_unattended {α β : Type} {first : Attempt α} {next : α -> Attempt β}
    {way : List (Exchange Call Answer)} {ending : Except Problem β}
    (fares : Fares (asking Answer fun call => ∀ asked, call ≠ .agent asked) (fun _ => True) (fun _ => False) first)
    (goes : (first >>= next).run.Goes way ending) :
    ∃ before after value, way = before ++ after ∧ attended before = [] ∧ (next value).run.Goes after ending := by
  rw [Activity.run_then] at goes
  obtain ⟨before, after, result, rfl, start, onward⟩ := Activity.goes_bind.mp goes
  cases result with
  | ok value => exact ⟨before, after, value, rfl, attended_of_others (fares.confined start), onward⟩
  | error problem => exact (fares.ends start).elim

/-- **One conversation.** An inquiry with a prompt that can be rendered has an account: its agent works on the prompt
and on corrections of its reply in one conversation, the first reply that is read or cannot be corrected decides, and
the stage fails with the failure of the last reply when all can be corrected. An effort that breaks down decides as
well. -/
theorem askForJson_account {way : List (Exchange Call Answer)} {ending : Except Problem Json}
    (goes : (askForJson context checkout inquiry).run.Goes way ending) :
    (∃ problem, context.prompts.render inquiry.promptName inquiry.values = .error problem ∧ way = [] ∧
      ending = .error (.prompt problem)) ∨
    ∃ prompt key efforts, context.prompts.render inquiry.promptName inquiry.values = .ok prompt ∧
      inquiry.Account context prompt key efforts way ending := by
  unfold askForJson rendered at goes
  cases renders : context.prompts.render inquiry.promptName inquiry.values with
  | error problem =>
    rw [renders] at goes
    obtain ⟨rfl, rfl⟩ := Activity.goes_done.mp goes
    exact .inl ⟨problem, rfl, rfl, rfl⟩
  | ok prompt =>
    rw [renders] at goes
    obtain ⟨keys, way, key, rfl, noKeys, goes⟩ := goes_then_unattended (fares_drawKey fun _ => nofun) goes
    obtain ⟨looks, way, system, rfl, noLooks, goes⟩ :=
      goes_then_unattended (fares_systemPrompt (fun _ => nofun) _ _) goes
    rw [Activity.run_then] at goes
    obtain ⟨own, way, result, rfl, work, goes⟩ := Activity.goes_bind.mp goes
    obtain ⟨first, of, isTask, rfl, rfl⟩ := effort_of_carryOut work
    refine .inr ⟨prompt, key, ?_⟩
    cases isEnding : first.ending with
    | error fault =>
      rw [yielded, isEnding] at goes
      obtain ⟨rfl, rfl⟩ := Activity.goes_done.mp goes
      refine ⟨[first], rfl, account_of_efforts (List.forall_mem_singleton.mpr of) ?_ (Nat.zero_le _) isTask
        (.singleton _) (.inr ⟨?_, .brokeDown [] isEnding⟩)⟩
      · simp [noKeys, noLooks]
      · rintro _ ⟨⟩ outcome ⟨fired, returns⟩
        rw [isEnding] at returns
        nomatch returns
    | ok outcome =>
      obtain ⟨outcome, fired⟩ := outcome
      have returns : first.Returns outcome := ⟨fired, isEnding⟩
      rw [yielded, isEnding] at goes
      obtain ⟨records, way, -, rfl, noRecords, goes⟩ :=
        goes_then_unattended (fares_recordIn (fun _ _ _ _ _ => nofun) (fun _ _ _ _ _ _ => nofun) _ _) goes
      cases success : outcome.success with
      | false =>
        rw [success] at goes
        obtain ⟨rfl, rfl⟩ := Activity.goes_done.mp goes
        refine ⟨[first], rfl, account_of_efforts (List.forall_mem_singleton.mpr of) ?_ (Nat.zero_le _) isTask
          (.singleton _) (.inl ⟨first, outcome, rfl, returns, success, rfl⟩)⟩
        simp [noKeys, noLooks, noRecords]
      | true =>
        rw [success, if_pos rfl] at goes
        obtain ⟨others, ofOthers, rfl, few, corrects, decided⟩ := efforts_of_reply returns goes
        refine ⟨first :: others, rfl, account_of_efforts (List.forall_mem_cons.mpr ⟨of, ofOthers⟩) ?_ few isTask
          corrects (.inr ⟨?_, decided⟩)⟩
        · simp [noKeys, noLooks, noRecords]
        · rintro _ ⟨⟩ other ⟨alsoFired, alsoReturns⟩
          rw [isEnding] at alsoReturns
          cases alsoReturns
          exact success

/-- An inquiry for which the model first answers by text without an object is decided by the reply to the correction. -/
theorem correctedWay_account : ∃ prompt key efforts, (toolInquiry false).Account emptyContext prompt key efforts
    correctedWay (.ok (.obj [])) := by
  have goes : (askForJson emptyContext (emptyContext.checkout "repo") (toolInquiry false)).run.Goes correctedWay
      (.ok (.obj [])) := by
    unfold askForJson
    change (rendered emptyContext "translator" [] >>= _).run.Goes _ _
    rw [@rendered_translator emptyContext rfl]
    exact .call _ (.call _ (.call _ (.done _)))
  rcases askForJson_account goes with ⟨problem, -, nothing, -⟩ | ⟨prompt, key, efforts, -, account⟩
  · nomatch nothing
  · exact ⟨prompt, key, efforts, account⟩

end Inquiries

end Analysis

end RepoSurvey

import RepoSurvey.Agent.Run
import RepoSurvey.Proofs.Activity.Goes

/-!
# Iterations of an agent

A conversation grows by whole blocks: a reply with tool calls together with the answers to all of them,
or a reply without tool calls, after which the model may be asked to go on. `Takes` lists the ways in
which one iteration can go, whatever the model, the tools and the signal do; `Conversation` strings
iterations together, and `conversation_of_goes` says that every conversation which comes back is such a
string. A conversation that does not come back is one in which the tool calls of a reply break the agent down,
after such a string (`conversation_of_fault`).
-/

namespace RepoSurvey.Agent

open Activity (Exchange Goes goes_done goes_call goes_bind goes_ask monad_bind monad_pure)
open Chat (Message ToolCall ToolResult)
open Json (ShapeFault)

/-- The value that was delivered. -/
def Delivery.value? {α : Type} : Delivery α -> Option α
  | .answered value _ => some value
  | .refused _ _ | .cutOff => none

/-! ## Blocks -/

/-- What an iteration can add to a conversation. -/
inductive Block where
  /-- A reply with tool calls, each with what it was answered. -/
  | working (content : String) (first : ToolCall × String) (others : List (ToolCall × String))
  /-- A reply without tool calls; `prompted` says whether the model is asked to go on. -/
  | speaking (content : String) (prompted : Bool)
  deriving DecidableEq, Repr

namespace Block

/-- The messages that answer tool calls, in the order of the calls. -/
def answersTo (answered : List (ToolCall × String)) : List Message :=
  answered.map fun call => .toolAnswer call.1.id call.2

/-- The messages of a block. -/
def messages : Block -> List Message
  | .working content first others =>
    .assistant content ((first :: others).map Prod.fst) :: answersTo (first :: others)
  | .speaking content true => [.assistant content [], .user continuePrompt]
  | .speaking content false => [.assistant content []]

/-- The reply that a block begins with. -/
def reply : Block -> Reply
  | .working content first others => ⟨content, (first :: others).map Prod.fst⟩
  | .speaking content _ => ⟨content, []⟩

end Block

/-- A conversation that waits for a reply: it ends with a turn of the user or an answer of a tool. -/
def AwaitsReply (transcript : List Message) : Prop :=
  ∃ earlier last, transcript = earlier ++ [last] ∧ (last.role = .user ∨ last.role = .tool)

/-- The messages before the first reply wait for it. -/
theorem awaitsReply_opening (task : Task) : AwaitsReply (Profile.opening task) :=
  ⟨.system task.systemPrompt :: task.history, .user task.action, rfl, .inl rfl⟩

/-- Answered tool calls wait for the next reply. -/
theorem awaitsReply_working (transcript : List Message) (content : String)
    (first : ToolCall × String) (others : List (ToolCall × String)) :
    AwaitsReply (transcript ++ (Block.working content first others).messages) := by
  obtain ⟨earlier, last, split⟩ : ∃ earlier last, first :: others = earlier ++ [last] :=
    ⟨_, _, (List.dropLast_concat_getLast (List.cons_ne_nil first others)).symm⟩
  refine ⟨transcript ++ .assistant content ((first :: others).map Prod.fst) ::
    Block.answersTo earlier, .toolAnswer last.1.id last.2, ?_, .inr rfl⟩
  simp [Block.messages, Block.answersTo, split]

/-! ## One iteration -/

/-- One iteration of a conversation. -/
structure Iteration where
  /-- What the model was asked and how that came back; nothing when the signal had fired before. -/
  asked : Option (ChatRequest × Delivery Reply)
  /-- What was exchanged after the reply. -/
  further : List (Exchange Call Answer)
  /-- What was added to the conversation. -/
  block : Option Block

namespace Iteration

/-- Everything that was exchanged. -/
def exchanges (iteration : Iteration) : List (Exchange Call Answer) :=
  iteration.asked.toList.map (fun asked => ⟨.chat asked.1, asked.2⟩) ++ iteration.further

/-- The messages that were added. -/
def messages (iteration : Iteration) : List Message :=
  (iteration.block.map Block.messages).getD []

/-- The reply that came back. -/
def reply? (iteration : Iteration) : Option Reply :=
  iteration.asked.bind fun asked => asked.2.value?

end Iteration

/-- The request for a reply to a conversation. -/
def Profile.request (profile : Profile) (task : Task) (transcript : List Message) : ChatRequest :=
  ⟨profile.key, transcript, profile.toolsFor task, task.jsonOutput⟩

/-- The ways in which one iteration can go after a conversation. The first truth value says whether the
signal had fired before, the second whether it has fired afterwards, and the last whether the
conversation is over. -/
inductive Takes (profile : Profile) (task : Task) (transcript : List Message) :
    Bool -> Iteration -> Bool -> Bool -> Prop where
  /-- The signal had fired, so that nothing was asked. -/
  | idle : Takes profile task transcript true ⟨none, [], none⟩ true false
  /-- The signal fired before the reply came. -/
  | cutOff :
      Takes profile task transcript false
        ⟨some (profile.request task transcript, .cutOff), [], none⟩ true false
  /-- There was no reply. -/
  | refused (report : String) (fired : Bool) :
      Takes profile task transcript false
        ⟨some (profile.request task transcript, .refused report fired), [], none⟩ fired false
  /-- The JSON that was asked for came. -/
  | delivered (content : String) (fired : Bool) (json : task.jsonOutput = true) :
      Takes profile task transcript false
        ⟨some (profile.request task transcript, .answered ⟨content, []⟩ fired), [],
          some (.speaking content false)⟩ fired true
  /-- The signal fired together with the reply, so that nobody decided about the turn. -/
  | undecided (content : String) (free : task.jsonOutput = false) :
      Takes profile task transcript false
        ⟨some (profile.request task transcript, .answered ⟨content, []⟩ true), [],
          some (.speaking content false)⟩ true false
  /-- The signal fired while somebody decided about the turn. -/
  | interrupted (content : String) (further : List (Exchange Call Answer))
      (free : task.jsonOutput = false)
      (decides : (profile.continuation.decide profile.key ⟨content, []⟩).Goes further .cutOff) :
      Takes profile task transcript false
        ⟨some (profile.request task transcript, .answered ⟨content, []⟩ false), further,
          some (.speaking content false)⟩ true false
  /-- The model keeps the turn. -/
  | kept (content : String) (further : List (Exchange Call Answer)) (verdict : Verdict)
      (fired : Bool) (free : task.jsonOutput = false)
      (decides : (profile.continuation.decide profile.key ⟨content, []⟩).Goes further
        (.answered verdict fired))
      (keeps : verdict.keepsTurn = true) :
      Takes profile task transcript false
        ⟨some (profile.request task transcript, .answered ⟨content, []⟩ false), further,
          some (.speaking content true)⟩ fired false
  /-- The model hands the turn over. -/
  | yielded (content : String) (further : List (Exchange Call Answer)) (verdict : Verdict)
      (fired : Bool) (free : task.jsonOutput = false)
      (decides : (profile.continuation.decide profile.key ⟨content, []⟩).Goes further
        (.answered verdict fired))
      (yields : verdict.keepsTurn = false) :
      Takes profile task transcript false
        ⟨some (profile.request task transcript, .answered ⟨content, []⟩ false), further,
          some (.speaking content false)⟩ fired true
  /-- Tools did the work that was asked of them. -/
  | worked (content : String) (first : ToolCall × String) (others : List (ToolCall × String))
      (further : List (Exchange Call Answer)) (before after : Bool)
      (works : (profile.runTools ((first :: others).map Prod.fst) before).Goes further
        (.ok (Block.answersTo (first :: others), after))) :
      Takes profile task transcript false
        ⟨some (profile.request task transcript,
            .answered ⟨content, (first :: others).map Prod.fst⟩ before), further,
          some (.working content first others)⟩ after false

namespace Continuation

/-- A verdict that needs nobody is delivered after a pause. -/
theorem goes_settled {verdict : Verdict} {exchanges : List (Exchange Call Answer)}
    {delivery : Delivery Verdict} (goes : (settled verdict).Goes exchanges delivery) :
    ∃ fired : Bool, exchanges = [⟨.pause, fired⟩] ∧ delivery = .answered verdict fired := by
  obtain ⟨fired, rest, rfl, onward⟩ := goes_call.mp goes
  obtain ⟨rfl, rfl⟩ := goes_done.mp onward
  exact ⟨fired, rfl, rfl⟩

/-- The calls by which a decision about a reply is reached. -/
def Decides (key : String) (reply : Reply) : Call -> Prop
  | .pause => True
  | .judge turn => turn = reply
  | .chat request => request = inquiry key reply.content
  | .work _ _ => False

/-- A decision is reached by a single call, or cut off during it, and never refused. -/
theorem goes_decide {continuation : Continuation} {key : String} {reply : Reply}
    {exchanges : List (Exchange Call Answer)} {delivery : Delivery Verdict}
    (goes : (continuation.decide key reply).Goes exchanges delivery) :
    (∃ exchange, exchanges = [exchange] ∧ Decides key reply exchange.request) ∧
      (delivery = .cutOff ∨ ∃ verdict fired, delivery = .answered verdict fired) := by
  cases continuation with
  | never =>
    obtain ⟨fired, rfl, rfl⟩ := goes_settled goes
    exact ⟨⟨_, rfl, trivial⟩, .inr ⟨_, _, rfl⟩⟩
  | rules tailLength =>
    obtain ⟨fired, rfl, rfl⟩ := goes_settled goes
    exact ⟨⟨_, rfl, trivial⟩, .inr ⟨_, _, rfl⟩⟩
  | model =>
    simp only [decide, byModel] at goes
    split at goes
    · obtain ⟨fired, rfl, rfl⟩ := goes_settled goes
      exact ⟨⟨_, rfl, trivial⟩, .inr ⟨_, _, rfl⟩⟩
    · obtain ⟨answer, rest, rfl, onward⟩ := goes_call.mp goes
      cases answer with
      | answered _ _ =>
        obtain ⟨rfl, rfl⟩ := goes_done.mp onward
        exact ⟨⟨_, rfl, rfl⟩, .inr ⟨_, _, rfl⟩⟩
      | refused _ _ =>
        obtain ⟨rfl, rfl⟩ := goes_done.mp onward
        exact ⟨⟨_, rfl, rfl⟩, .inr ⟨_, _, rfl⟩⟩
      | cutOff =>
        obtain ⟨rfl, rfl⟩ := goes_done.mp onward
        exact ⟨⟨_, rfl, rfl⟩, .inl rfl⟩
  | outside =>
    obtain ⟨keepsTurn, rest, rfl, onward⟩ := goes_call.mp goes
    obtain ⟨rfl, rfl⟩ := goes_done.mp onward
    exact ⟨⟨_, rfl, rfl⟩, .inr ⟨_, _, rfl⟩⟩

end Continuation

namespace Profile

/-- The calls by which tools do the work that is asked of them. -/
def works (calls : List ToolCall) : List Call := calls.map fun call => .work call.name call.arguments

/-- One tool call has the tool work at most once. -/
theorem goes_runTool {profile : Profile} {call : ToolCall} {aborted : Bool}
    {exchanges : List (Exchange Call Answer)} {ending : Except ShapeFault (ToolResult × Bool)}
    (goes : (profile.runTool call aborted).Goes exchanges ending) :
    (exchanges.map Exchange.request).Sublist (works [call]) := by
  unfold runTool at goes
  split at goes
  · rw [(goes_done.mp goes).1]
    exact List.nil_sublist _
  · split at goes
    · rw [(goes_done.mp goes).1]
      exact List.nil_sublist _
    · rw [(goes_done.mp goes).1]
      exact List.nil_sublist _
    · split at goes
      · rw [(goes_done.mp goes).1]
        exact List.nil_sublist _
      · obtain ⟨answer, rest, rfl, onward⟩ := goes_call.mp goes
        have nothing : rest = [] := by
          cases answer <;> exact (goes_done.mp onward).1
        rw [nothing]
        exact List.Sublist.refl _

/-- Tool calls that are all answered are the first of them, run and told of, and then the others. -/
theorem goes_runTools_cons {profile : Profile} {call : ToolCall} {calls : List ToolCall} {aborted fired : Bool}
    {exchanges : List (Exchange Call Answer)} {answers : List Message}
    (goes : (profile.runTools (call :: calls) aborted).Goes exchanges (.ok (answers, fired))) :
    ∃ first others result told meanwhile further, exchanges = first ++ others ∧
      (profile.runTool call aborted).Goes first (.ok (result, meanwhile)) ∧ result.told = .ok told ∧
      (profile.runTools calls meanwhile).Goes others (.ok (further, fired)) ∧
      answers = .toolAnswer call.id told :: further := by
  obtain ⟨first, second, value, rfl, runs, onward⟩ := goes_bind.mp goes
  rcases value with fault | ⟨result, meanwhile⟩
  · nomatch (goes_done.mp onward).2
  cases tells : result.told with
  | error fault =>
    simp only [tells] at onward
    nomatch (goes_done.mp onward).2
  | ok told =>
    simp only [tells] at onward
    obtain ⟨others, last, value, rfl, othersGo, finishes⟩ := goes_bind.mp onward
    rcases value with fault | ⟨further, firedAtLast⟩
    · nomatch (goes_done.mp finishes).2
    · obtain ⟨rfl, same⟩ := goes_done.mp finishes
      cases same
      exact ⟨first, others, result, told, meanwhile, further, by rw [List.append_nil], runs, tells, othersGo, rfl⟩

/-- Every tool call is answered by one message that carries its identifier, in the order of the calls,
and has its tool work at most once. -/
theorem goes_runTools {profile : Profile} {calls : List ToolCall} {aborted fired : Bool}
    {exchanges : List (Exchange Call Answer)} {answers : List Message}
    (goes : (profile.runTools calls aborted).Goes exchanges (.ok (answers, fired))) :
    (exchanges.map Exchange.request).Sublist (works calls) ∧
      ∃ answered : List (ToolCall × String),
        answered.map Prod.fst = calls ∧ answers = Block.answersTo answered := by
  induction calls generalizing aborted exchanges answers with
  | nil =>
    obtain ⟨rfl, same⟩ := goes_done.mp goes
    cases same
    exact ⟨List.nil_sublist _, [], rfl, rfl⟩
  | cons call calls inductionHypothesis =>
    obtain ⟨first, others, result, told, meanwhile, further, rfl, runs, -, othersGo, rfl⟩ := goes_runTools_cons goes
    obtain ⟨inOrder, answered, sameCalls, rfl⟩ := inductionHypothesis othersGo
    refine ⟨?_, (call, told) :: answered, by rw [List.map_cons, sameCalls], rfl⟩
    rw [List.map_append]
    exact (goes_runTool runs).append inOrder

end Profile

namespace Profile

/-- What is left of a conversation after an iteration. -/
def Leaves (profile : Profile) (task : Task) (remaining spent : Nat) (transcript : List Message)
    (iteration : Iteration) (rest : List (Exchange Call Answer))
    (ending : Except ShapeFault (Outcome × Bool)) : (fired concluded : Bool) -> Prop
  | fired, true => ∃ block, iteration.block = some block ∧ rest = [] ∧
      ending = .ok (finished block.reply (spent + 1) (transcript ++ block.messages), fired)
  | fired, false => (profile.converse task remaining (spent + 1)
      (transcript ++ iteration.messages) fired).Goes rest ending

/-- After an iteration that added nothing, the conversation goes on as it was. -/
theorem leaves_of_nothing {profile : Profile} {task : Task} {remaining spent : Nat}
    {transcript : List Message} {asked : Option (ChatRequest × Delivery Reply)}
    {further rest : List (Exchange Call Answer)} {ending : Except ShapeFault (Outcome × Bool)}
    {fired : Bool}
    (onward : (profile.converse task remaining (spent + 1) transcript fired).Goes rest ending) :
    profile.Leaves task remaining spent transcript ⟨asked, further, none⟩ rest ending fired
      false := by
  simpa only [Leaves, Iteration.messages, Option.map_none, Option.getD_none, List.append_nil]
    using onward

/-- How an agent breaks down after a conversation: a reply comes, and its tool calls break the agent down. -/
def BreaksDown (profile : Profile) (task : Task) (transcript : List Message)
    (exchanges : List (Exchange Call Answer)) (fault : ShapeFault) : Prop :=
  ∃ reply fired further, exchanges = ⟨.chat (profile.request task transcript), .answered reply fired⟩ :: further ∧
    (profile.runTools reply.toolCalls fired).Goes further (.error fault)

/-- A conversation with an iteration left takes one of the ways of iterations, and either is over with it
or goes on after it; or the agent breaks down. -/
theorem takes_of_goes {profile : Profile} {task : Task} {remaining spent : Nat}
    {transcript : List Message} {aborted : Bool} {exchanges : List (Exchange Call Answer)}
    {ending : Except ShapeFault (Outcome × Bool)}
    (goes : (profile.converse task (remaining + 1) spent transcript aborted).Goes exchanges ending) :
    (∃ iteration fired concluded rest, exchanges = iteration.exchanges ++ rest ∧
        Takes profile task transcript aborted iteration fired concluded ∧
        profile.Leaves task remaining spent transcript iteration rest ending fired concluded) ∨
      ∃ fault, ending = .error fault ∧ aborted = false ∧
        profile.BreaksDown task transcript exchanges fault := by
  cases aborted with
  | true =>
    rw [converse, if_pos rfl] at goes
    exact .inl ⟨⟨none, [], none⟩, true, false, exchanges, rfl, .idle, leaves_of_nothing goes⟩
  | false =>
    rw [converse, if_neg Bool.false_ne_true] at goes
    obtain ⟨delivery, rest, rfl, onward⟩ := goes_call.mp goes
    cases delivery with
    | cutOff => exact .inl ⟨_, true, false, rest, rfl, .cutOff, leaves_of_nothing onward⟩
    | refused report fired =>
      exact .inl ⟨_, fired, false, rest, rfl, .refused report fired, leaves_of_nothing onward⟩
    | answered reply fired =>
      obtain ⟨content, toolCalls⟩ := reply
      cases toolCalls with
      | nil =>
        replace onward : Goes (if task.jsonOutput then _ else if fired then _ else _) rest _ := onward
        by_cases json : task.jsonOutput = true
        · rw [if_pos json] at onward
          obtain ⟨rfl, same⟩ := goes_done.mp onward
          cases same
          exact .inl ⟨_, fired, true, [], rfl, .delivered content fired json, _, rfl, rfl, rfl⟩
        · rw [if_neg json] at onward
          rw [Bool.not_eq_true] at json
          cases fired with
          | true => exact .inl ⟨_, true, false, rest, rfl, .undecided content json, onward⟩
          | false =>
            obtain ⟨further, later, delivery, rfl, decides, finishes⟩ := goes_bind.mp onward
            rcases (Continuation.goes_decide decides).2 with rfl | ⟨verdict, firedAtLast, rfl⟩
            · exact .inl ⟨_, true, false, later, rfl, .interrupted content further json decides,
                finishes⟩
            · replace finishes : Goes (if verdict.keepsTurn then _ else _) later _ := finishes
              by_cases keeps : verdict.keepsTurn = true
              · rw [if_pos keeps, List.append_assoc] at finishes
                exact .inl ⟨_, firedAtLast, false, later, rfl,
                  .kept content further verdict firedAtLast json decides keeps, finishes⟩
              · rw [if_neg keeps] at finishes
                rw [Bool.not_eq_true] at keeps
                obtain ⟨rfl, same⟩ := goes_done.mp finishes
                cases same
                exact .inl ⟨_, firedAtLast, true, [], rfl,
                  .yielded content further verdict firedAtLast json decides keeps, _, rfl, rfl,
                  rfl⟩
      | cons call calls =>
        replace onward : Goes (bind (profile.runTools (call :: calls) fired) _) rest _ := onward
        obtain ⟨further, later, value, rfl, works, finishes⟩ := goes_bind.mp onward
        rcases value with fault | ⟨answers, firedAtLast⟩
        · obtain ⟨rfl, rfl⟩ := goes_done.mp finishes
          rw [List.append_nil]
          exact .inr ⟨fault, rfl, rfl, _, fired, further, rfl, works⟩
        · obtain ⟨-, answered, sameCalls, rfl⟩ := goes_runTools works
          obtain ⟨first, others, rfl, rfl, rfl⟩ := List.map_eq_cons_iff.mp sameCalls
          replace finishes : Goes (converse _ _ _ _ _ _) later _ := finishes
          rw [List.append_assoc] at finishes
          exact .inl ⟨_, firedAtLast, false, later, rfl,
            .worked content first others further fired firedAtLast works, finishes⟩

end Profile

/-! ## Conversations -/

/-- Iterations that follow one another from a conversation, at most `remaining` many. The truth values are
those of `Takes`, before the first iteration and after the last. -/
inductive Conversation (profile : Profile) (task : Task) :
    Nat -> List Message -> Bool -> List Iteration -> Bool -> Bool -> Prop where
  /-- No iteration is left. -/
  | spent (transcript : List Message) (aborted : Bool) :
      Conversation profile task 0 transcript aborted [] aborted false
  /-- The conversation is over with an iteration. -/
  | concluded {remaining : Nat} {transcript : List Message} {aborted fired : Bool}
      {iteration : Iteration}
      (takes : Takes profile task transcript aborted iteration fired true) :
      Conversation profile task (remaining + 1) transcript aborted [iteration] fired true
  /-- The conversation goes on after an iteration. -/
  | onward {remaining : Nat} {transcript : List Message} {aborted fired firedAtLast concluded : Bool}
      {iteration : Iteration} {iterations : List Iteration}
      (takes : Takes profile task transcript aborted iteration fired false)
      (rest : Conversation profile task remaining (transcript ++ iteration.messages) fired
        iterations firedAtLast concluded) :
      Conversation profile task (remaining + 1) transcript aborted (iteration :: iterations)
        firedAtLast concluded

/-- The outcome of iterations that follow one another after `spent` other ones. -/
def Profile.Yields (profile : Profile) (remaining spent : Nat) (transcript : List Message)
    (iterations : List Iteration) (outcome : Outcome) : (concluded : Bool) -> Prop
  | true => ∃ earlier last block, iterations = earlier ++ [last] ∧ last.block = some block ∧
      outcome = finished block.reply (spent + iterations.length)
        (transcript ++ iterations.flatMap Iteration.messages)
  | false => iterations.length = remaining ∧
      outcome = profile.exhausted (spent + iterations.length)
        (transcript ++ iterations.flatMap Iteration.messages)

/-- The outcome after one more iteration at the beginning. -/
theorem Profile.yields_cons {profile : Profile} {remaining spent : Nat} {transcript : List Message}
    {iteration : Iteration} {iterations : List Iteration} {outcome : Outcome} {concluded : Bool}
    (yields : profile.Yields remaining (spent + 1) (transcript ++ iteration.messages) iterations
      outcome concluded) :
    profile.Yields (remaining + 1) spent transcript (iteration :: iterations) outcome concluded := by
  have counted : spent + 1 + iterations.length = spent + (iteration :: iterations).length := by
    rw [List.length_cons]
    omega
  cases concluded with
  | true =>
    obtain ⟨earlier, last, block, rfl, added, rfl⟩ := yields
    refine ⟨iteration :: earlier, last, block, rfl, added, ?_⟩
    rw [counted, List.flatMap_cons, List.append_assoc]
  | false =>
    obtain ⟨rfl, rfl⟩ := yields
    refine ⟨rfl, ?_⟩
    rw [counted, List.flatMap_cons, List.append_assoc]

/-- Every conversation that comes back is made of iterations that follow one another, and what was
exchanged is what they exchanged. -/
theorem conversation_of_goes {profile : Profile} {task : Task} {remaining spent : Nat}
    {transcript : List Message} {aborted fired : Bool} {exchanges : List (Exchange Call Answer)}
    {outcome : Outcome}
    (goes : (profile.converse task remaining spent transcript aborted).Goes exchanges
      (.ok (outcome, fired))) :
    ∃ iterations concluded, Conversation profile task remaining transcript aborted iterations fired concluded ∧
      exchanges = iterations.flatMap Iteration.exchanges ∧
      profile.Yields remaining spent transcript iterations outcome concluded := by
  induction remaining generalizing spent transcript aborted exchanges with
  | zero =>
    obtain ⟨rfl, same⟩ := goes_done.mp goes
    cases same
    refine ⟨[], false, .spent _ _, rfl, rfl, ?_⟩
    rw [List.flatMap_nil, List.append_nil]
    rfl
  | succ remaining inductionHypothesis =>
    rcases Profile.takes_of_goes goes with
      ⟨iteration, firedThen, concluded, rest, rfl, takes, leaves⟩ | ⟨_, same, -⟩
    case inr => nomatch same
    cases concluded with
    | true =>
      obtain ⟨block, added, rfl, same⟩ := leaves
      cases same
      refine ⟨[iteration], true, .concluded takes, by simp, [], iteration, block, rfl, added, ?_⟩
      simp [Iteration.messages, added]
    | false =>
      obtain ⟨iterations, concluded, conversation, rfl, yields⟩ := inductionHypothesis leaves
      exact ⟨iteration :: iterations, concluded, .onward takes conversation, rfl,
        Profile.yields_cons yields⟩

/-- Every conversation that does not come back is made of iterations after which the agent breaks down. -/
theorem conversation_of_fault {profile : Profile} {task : Task} {remaining spent : Nat}
    {transcript : List Message} {aborted : Bool} {exchanges : List (Exchange Call Answer)} {fault : ShapeFault}
    (goes : (profile.converse task remaining spent transcript aborted).Goes exchanges (.error fault)) :
    ∃ iterations rest, iterations.length < remaining ∧
      Conversation profile task iterations.length transcript aborted iterations false false ∧
      exchanges = iterations.flatMap Iteration.exchanges ++ rest ∧
      profile.BreaksDown task (transcript ++ iterations.flatMap Iteration.messages) rest fault := by
  induction remaining generalizing spent transcript aborted exchanges with
  | zero => nomatch (goes_done.mp goes).2
  | succ remaining inductionHypothesis =>
    rcases Profile.takes_of_goes goes with
      ⟨iteration, firedThen, concluded, rest, rfl, takes, leaves⟩ | ⟨_, same, rfl, breaksDown⟩
    · cases concluded with
      | true =>
        obtain ⟨_, -, -, same⟩ := leaves
        nomatch same
      | false =>
        obtain ⟨iterations, last, less, conversation, rfl, breaksDown⟩ := inductionHypothesis leaves
        rw [List.append_assoc] at breaksDown
        refine ⟨iteration :: iterations, last, Nat.succ_lt_succ less, .onward takes conversation, ?_, breaksDown⟩
        rw [List.flatMap_cons, List.append_assoc]
    · cases same
      refine ⟨[], exchanges, Nat.succ_pos remaining, .spent _ _, rfl, ?_⟩
      rwa [List.flatMap_nil, List.append_nil]

end RepoSurvey.Agent

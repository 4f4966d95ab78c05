import RepoSurvey.Proofs.Activity.Costs
import RepoSurvey.Proofs.Agent.Kinds

/-!
# What agents spend

The model is asked at most once in an iteration for a reply, and at most once more when somebody has to decide
about the turn, which never happens where JSON was asked for. Tools ask the model nothing. So the number of
iterations bounds what work spends, whatever is answered and whether the work comes back or breaks down:
`costs_execute`.
-/

namespace RepoSurvey.Agent

open Activity (Costs Exchange cost)
open Chat (Message ToolCall)

/-- The price of a call when every question to the model costs a fee and all else is free. -/
def Call.price (fee : Int) : Call -> Int
  | .chat _ => fee
  | _ => 0

/-- What an iteration of a task costs at most: a reply and, where no JSON was asked for, a decision about the
turn. -/
def Task.iterationFee (task : Task) (fee : Int) : Int := if task.jsonOutput then fee else 2 * fee

section Spending

variable {profile : Profile} {task : Task} {transcript : List Message} {fee : Int} (nonnegative : 0 ≤ fee)

include nonnegative

/-- A reply is within what an iteration costs. -/
theorem Task.fee_le (task : Task) : fee ≤ task.iterationFee fee := by
  unfold iterationFee
  split <;> omega

/-- A decision about a turn asks the model once at most. -/
theorem Continuation.costs_decide (continuation : Continuation) (key : String) (reply : Reply) :
    Costs (Call.price fee) (fun _ => fee) (continuation.decide key reply) := by
  intro way delivery goes
  obtain ⟨⟨exchange, rfl, -⟩, -⟩ := goes_decide goes
  have single : exchange.request.price fee ≤ fee := by
    unfold Call.price
    split
    · exact Int.le_refl fee
    · exact nonnegative
  simpa using single

omit nonnegative in
/-- Tools ask the model nothing. -/
theorem Profile.costs_runTools (calls : List ToolCall) (aborted : Bool) :
    Costs (Call.price fee) (fun _ => 0) (profile.runTools calls aborted) :=
  (keeps_runTools (fun _ _ => Int.le_refl 0) calls aborted).costs

/-- A reply and a decision about the turn are within what an iteration costs where no JSON was asked for. -/
theorem cost_decided {further : List (Exchange Call Answer)} {content : String} {delivery : Delivery Verdict}
    (free : task.jsonOutput = false)
    (decides : (profile.continuation.decide profile.key ⟨content, []⟩).Goes further delivery) :
    fee + cost (Call.price fee) further ≤ task.iterationFee fee := by
  have decided : cost (Call.price fee) further ≤ fee :=
    Continuation.costs_decide nonnegative _ _ _ further delivery decides
  rw [Task.iterationFee, if_neg (by simp [free])]
  omega

omit nonnegative in
/-- An iteration in which the model is asked costs a fee beside what is exchanged after the reply. -/
theorem cost_asked (asked : ChatRequest × Delivery Reply) (further : List (Exchange Call Answer))
    (block : Option Block) : cost (Call.price fee) (Iteration.exchanges ⟨some asked, further, block⟩) =
      fee + cost (Call.price fee) further := Activity.cost_cons _ _

/-- No iteration costs more than iterations cost. -/
theorem Takes.cost_le {iteration : Iteration} {aborted fired concluded : Bool}
    (takes : Takes profile task transcript aborted iteration fired concluded) :
    cost (Call.price fee) iteration.exchanges ≤ task.iterationFee fee := by
  have reply : fee ≤ task.iterationFee fee := task.fee_le nonnegative
  cases takes with
  | idle => exact nonnegative.trans reply
  | interrupted _ _ free decides => exact (cost_asked _ _ _).trans_le (cost_decided nonnegative free decides)
  | kept _ _ _ _ free decides => exact (cost_asked _ _ _).trans_le (cost_decided nonnegative free decides)
  | yielded _ _ _ _ free decides => exact (cost_asked _ _ _).trans_le (cost_decided nonnegative free decides)
  | worked content first others further before after works =>
    have free : cost (Call.price fee) further ≤ 0 := Profile.costs_runTools _ _ further _ works
    rw [cost_asked]
    omega
  | cutOff | refused | delivered | undecided =>
    rw [cost_asked, Activity.cost_nil, Int.add_zero]
    exact reply

/-- Iterations that follow one another cost what each of them costs at most. -/
theorem Conversation.cost_le {remaining : Nat} {iterations : List Iteration} {aborted fired concluded : Bool}
    (conversation : Conversation profile task remaining transcript aborted iterations fired concluded) :
    cost (Call.price fee) (iterations.flatMap Iteration.exchanges) ≤ remaining * task.iterationFee fee := by
  have share : 0 ≤ task.iterationFee fee := nonnegative.trans (task.fee_le nonnegative)
  induction conversation with
  | spent => simp
  | @concluded remaining _ _ _ _ takes =>
    have only := takes.cost_le nonnegative
    have others : 0 ≤ (remaining : Int) * task.iterationFee fee := Int.mul_nonneg (Int.natCast_nonneg _) share
    rw [Nat.cast_succ, Int.add_mul, Int.one_mul, List.flatMap_singleton]
    omega
  | onward takes rest inductionHypothesis =>
    have first := takes.cost_le nonnegative
    rw [Nat.cast_succ, Int.add_mul, Int.one_mul, List.flatMap_cons, Activity.cost_append]
    omega

/-- **Spending.** Work costs no more than its iterations, whatever is answered and however it ends. -/
theorem costs_execute (aborted : Bool) : Costs (Call.price fee)
    (fun _ => profile.maxIterations.toNat * task.iterationFee fee) (profile.execute task aborted) := by
  intro way ending goes
  cases ending with
  | ok result =>
    obtain ⟨iterations, concluded, conversation, rfl, -⟩ := conversation_of_goes goes
    exact conversation.cost_le nonnegative
  | error fault =>
    -- The iteration in which the agent breaks down is one of those that were left.
    obtain ⟨iterations, rest, less, conversation, rfl, reply, fired, further, rfl, works⟩ :=
      conversation_of_fault goes
    have earlier := conversation.cost_le nonnegative
    have free : cost (Call.price fee) further ≤ 0 := Profile.costs_runTools _ _ further _ works
    have last : fee ≤ task.iterationFee fee := task.fee_le nonnegative
    have counted : ((iterations.length + 1 : Nat) : Int) * task.iterationFee fee ≤
        profile.maxIterations.toNat * task.iterationFee fee :=
      Int.mul_le_mul_of_nonneg_right (Int.ofNat_le.mpr less) (nonnegative.trans last)
    rw [Nat.cast_succ, Int.add_mul, Int.one_mul] at counted
    rw [Activity.cost_append, Activity.cost_cons]
    change _ + (fee + _) ≤ (profile.maxIterations.toNat : Int) * _
    omega

end Spending

end RepoSurvey.Agent

import RepoSurvey.Proofs.Activity.Attempts
import RepoSurvey.Proofs.Activity.Interleaving

/-!
# What activities cost

Calls have prices, and a way costs what its calls cost together. `Activity.Costs` bounds the cost of all ways of
an activity by a limit that may depend on its value. Prices may be negative: a call that lowers the cost pays
for calls to come, so that a bound on the cost is one on the calls of one kind by those of another. Activities
side by side cost what each of them costs, in whatever order they take turns: `costs_sideBySide`.
-/

namespace RepoSurvey.Activity

variable {Call Other : Type} {Answer : Call -> Type} {Reply : Other -> Type} {ε α β : Type}

/-- What the calls of a way cost together. -/
def cost (price : Call -> Int) (way : List (Exchange Call Answer)) : Int :=
  (way.map fun exchange => price exchange.request).sum

/-- Whether an activity costs no more than a limit for its value, whatever it is answered. -/
def Costs (price : Call -> Int) (limit : α -> Int) (activity : Activity Call Answer α) : Prop :=
  ∀ way value, activity.Goes way value -> cost price way ≤ limit value

variable {price : Call -> Int} {limit : α -> Int} {activity : Activity Call Answer α}

/-- Nothing costs nothing. -/
@[simp] theorem cost_nil : cost price ([] : List (Exchange Call Answer)) = 0 := rfl

/-- A call costs its price beside what the others cost. -/
@[simp] theorem cost_cons (exchange : Exchange Call Answer) (way : List (Exchange Call Answer)) :
    cost price (exchange :: way) = price exchange.request + cost price way := by
  rw [cost, List.map_cons, List.sum_cons]
  rfl

/-- Ways in a row cost what both cost. -/
@[simp] theorem cost_append (first second : List (Exchange Call Answer)) :
    cost price (first ++ second) = cost price first + cost price second := by
  rw [cost, List.map_append, List.sum_append]
  rfl

/-- The order of calls makes no difference to what they cost. -/
theorem cost_perm {first second : List (Exchange Call Answer)} (perm : first.Perm second) :
    cost price first = cost price second := (perm.map _).sum_eq

/-- Calls none of which costs anything cost nothing. -/
theorem cost_nonpos {way : List (Exchange Call Answer)} (free : ∀ exchange ∈ way, price exchange.request ≤ 0) :
    cost price way ≤ 0 := by
  induction way with
  | nil => exact Int.le_refl 0
  | cons exchange way inductionHypothesis =>
    have first := free _ (.head _)
    have rest := inductionHypothesis fun other member => free other (.tail _ member)
    rw [cost_cons]
    omega

/-- What is shuffled costs what the parts cost together. -/
theorem Merges.cost_eq {ways : List (List (Exchange Call Answer))} {whole : List (Exchange Call Answer)}
    (merges : Merges ways whole) : cost price whole = (ways.map (cost price)).sum := by
  induction merges with
  | nil => rfl
  | cons _ shuffle inductionHypothesis =>
    rw [cost_perm shuffle.perm, cost_append, inductionHypothesis, List.map_cons, List.sum_cons]

/-- A finished activity costs nothing. -/
theorem costs_done {value : α} (enough : 0 ≤ limit value) :
    Costs price limit (.done value : Activity Call Answer α) := by
  intro way ending goes
  obtain ⟨rfl, rfl⟩ := goes_done.mp goes
  exact enough

/-- A call costs its price beside what follows. -/
theorem costs_call {request : Call} {next : Answer request -> Activity Call Answer α}
    (follows : ∀ answer, Costs price (fun value => limit value - price request) (next answer)) :
    Costs price limit (.call request next) := by
  intro way value goes
  obtain ⟨answer, rest, rfl, onward⟩ := goes_call.mp goes
  have later := follows answer rest value onward
  rw [cost_cons]
  dsimp only at later ⊢
  omega

/-- A sequence costs what its first part costs beside its second. -/
theorem costs_bind {further : β -> Int} {next : α -> Activity Call Answer β} (first : Costs price limit activity)
    (second : ∀ value, Costs price (fun ending => further ending - limit value) (next value)) :
    Costs price further (bind activity next) := by
  intro way ending goes
  obtain ⟨before, after, value, rfl, start, finish⟩ := goes_bind.mp goes
  have early := first before value start
  have late := second value after ending finish
  rw [cost_append]
  dsimp only at late
  omega

/-- A limit can be raised. -/
theorem Costs.mono {higher : α -> Int} (costs : Costs price limit activity)
    (raised : ∀ value, limit value ≤ higher value) : Costs price higher activity :=
  fun way value goes => (costs way value goes).trans (raised value)

/-- An activity that asks only for what costs nothing costs nothing. -/
theorem Keeps.costs {ends : α -> Prop}
    (keeps : activity.Keeps (asking Answer fun request => price request ≤ 0) ends) :
    Costs price (fun _ => 0) activity := by
  intro way value goes
  exact cost_nonpos (keeps.goes goes fun _ _ => trivial).1

/-- An embedded activity costs what its outward calls cost. -/
theorem costs_embed {outward : Call -> Other}
    {inward : (request : Call) -> Reply (outward request) -> Answer request} {price : Other -> Int}
    (costs : Costs (fun request => price (outward request)) limit activity) :
    Costs price limit (embed outward inward activity) := by
  induction activity generalizing limit with
  | done value => exact costs_done (costs [] value (.done value))
  | call request next inductionHypothesis =>
    refine costs_call fun reply => inductionHypothesis _ ?_
    intro way value goes
    have whole := costs _ value (.call _ goes)
    rw [cost_cons] at whole
    exact Int.le_sub_left_of_add_le whole

/-! ## Activities that may be stopped -/

section Stoppable

variable {attempt : Stoppable Call Answer ε α}

/-- Whether an activity that may be stopped costs no more than a limit, whatever comes of it. -/
abbrev Spends (price : Call -> Int) (limit : Int) (attempt : Stoppable Call Answer ε α) : Prop :=
  Costs price (fun _ => limit) attempt.run

/-- A sequence that may be stopped costs what both parts cost, or what the first does. -/
theorem costs_then {limit : Except ε α -> Int} {further : Except ε β -> Int}
    {next : α -> Stoppable Call Answer ε β} (first : Costs price limit attempt.run)
    (second : ∀ value, Costs price (fun ending => further ending - limit (.ok value)) (next value).run)
    (stopped : ∀ problem, limit (.error problem) ≤ further (.error problem)) :
    Costs price further (attempt >>= next).run := by
  rw [run_then]
  refine costs_bind first fun outcome => ?_
  cases outcome with
  | ok value => exact second value
  | error problem => exact costs_done (Int.sub_nonneg_of_le (stopped problem))

/-- A sequence costs what both parts cost. -/
theorem Spends.andThen {before after : Int} {next : α -> Stoppable Call Answer ε β}
    (first : Spends price before attempt) (second : ∀ value, Spends price after (next value))
    (nonnegative : 0 ≤ after) : Spends price (before + after) (attempt >>= next) :=
  costs_then first (fun value => (second value).mono fun _ => by omega) fun _ => by omega

/-- A sequence costs what its second part costs when the first is free. -/
theorem Spends.after {after : Int} {next : α -> Stoppable Call Answer ε β}
    (first : Spends price 0 attempt) (second : ∀ value, Spends price after (next value))
    (nonnegative : 0 ≤ after) : Spends price after (attempt >>= next) := by
  simpa using first.andThen second nonnegative

/-- A sequence costs what its first part costs when the second is free. -/
theorem Spends.andFree {enough : Int} {next : α -> Stoppable Call Answer ε β} (first : Spends price enough attempt)
    (second : ∀ value, Spends price 0 (next value)) : Spends price enough (attempt >>= next) := by
  simpa using first.andThen second (Int.le_refl 0)

/-- An attempt that asks only for what costs nothing is free. -/
theorem Fares.spends {succeeds : α -> Prop} {fails : ε -> Prop}
    (fares : Fares (asking Answer fun request => price request ≤ 0) succeeds fails attempt) :
    Spends price 0 attempt := Keeps.costs fares

/-- A value is there for nothing. -/
theorem spends_pure {enough : Int} (value : α) (nonnegative : 0 ≤ enough) :
    Spends price enough (pure value : Stoppable Call Answer ε α) := costs_done nonnegative

/-- A problem is there for nothing. -/
theorem spends_throw {enough : Int} (problem : ε) (nonnegative : 0 ≤ enough) :
    Spends price enough (throw problem : Stoppable Call Answer ε α) := costs_done nonnegative

end Stoppable

/-! ## Activities side by side -/

section SideBySide

variable {settle : Nat -> α -> Activity Call Answer β} {order : Nat -> Activity Call Answer Nat} {few : Nat}
  {each : Int} {activities : List (Activity Call Answer α)}
  (settles : ∀ number value, Costs price (fun _ => 0) (settle number value))
  (costs : ∀ activity ∈ activities, Costs price (fun _ => each) activity)

include settles costs

/-- Tasks cost what each of them costs at most, if settling is free. -/
theorem TasksGo.cost_le {total : Nat} {ways : List (List (Exchange Call Answer))} {results : List β}
    (go : TasksGo settle total (activities.map .working) ways results) :
    (ways.map (cost price)).sum ≤ activities.length * each := by
  induction activities generalizing ways results with
  | nil =>
    cases go
    simp
  | cons activity activities inductionHypothesis =>
    cases go with
    | cons goes rest =>
      obtain ⟨first, second, value, number, -, rfl, works, settled⟩ := goes
      have worked : cost price first ≤ each := costs activity (.head _) first value works
      have free : cost price second ≤ 0 := settles number value second _ settled
      have others := inductionHypothesis (fun other member => costs other (.tail _ member)) rest
      rw [List.map_cons, List.sum_cons, cost_append, List.length_cons, Nat.cast_succ, Int.add_mul, Int.one_mul]
      omega

/-- Activities side by side cost what each of them costs at most, if settling and choosing are free. -/
theorem costs_sideBySide
    (orders : ∀ count, (order count).Keeps (asking Answer fun request => price request ≤ 0) fun _ => True) :
    Costs price (fun _ => activities.length * each) (sideBySide few order settle activities) := by
  intro whole values goes
  obtain ⟨choices, merged, ways, go, merges, shuffle, chosen⟩ := goes_sideBySide orders goes
  have tasks := go.cost_le settles costs
  have free : cost price choices ≤ 0 := cost_nonpos chosen
  rw [cost_perm shuffle.perm, cost_append, merges.cost_eq]
  dsimp only
  omega

end SideBySide

end RepoSurvey.Activity

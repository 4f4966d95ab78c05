import Mathlib
import RepoSurvey.Activity

/-!
# Ways in which activities go

An activity goes one way or another, depending on how its calls are answered. A way is the list of its
exchanges, each a call with its answer; `Activity.Goes` relates an activity to its ways and to the value
it ends with. `Activity.goes_bind` takes the ways of a sequence apart, and `Activity.run_eq_iff` says
that running an activity from a state is going the one way on which the state gives the answers.
Nothing is claimed here about how likely a way is, or whether any surroundings take it.
-/

namespace RepoSurvey.Activity

variable {Call : Type} {Answer : Call -> Type} {α β σ : Type}

/-- A call with its answer. -/
structure Exchange (Call : Type) (Answer : Call -> Type) where
  request : Call
  answer : Answer request

/-- A way in which an activity goes: what it exchanges with its surroundings, and the value it ends
with. -/
inductive Goes : Activity Call Answer α -> List (Exchange Call Answer) -> α -> Prop where
  | done (value : α) : Goes (.done value) [] value
  | call {request : Call} {next : Answer request -> Activity Call Answer α}
      {exchanges : List (Exchange Call Answer)} {value : α} (answer : Answer request)
      (onward : Goes (next answer) exchanges value) :
      Goes (.call request next) (⟨request, answer⟩ :: exchanges) value

/-- A finished activity exchanges nothing more. -/
@[simp] theorem goes_done {value ending : α} {exchanges : List (Exchange Call Answer)} :
    Goes (.done value) exchanges ending ↔ exchanges = [] ∧ ending = value := by
  constructor
  · intro goes
    cases goes
    exact ⟨rfl, rfl⟩
  · rintro ⟨rfl, rfl⟩
    exact .done _

/-- An activity that makes a call goes on from the answer. -/
theorem goes_call {request : Call} {next : Answer request -> Activity Call Answer α}
    {exchanges : List (Exchange Call Answer)} {ending : α} :
    Goes (.call request next) exchanges ending ↔
      ∃ answer rest, exchanges = ⟨request, answer⟩ :: rest ∧ Goes (next answer) rest ending := by
  constructor
  · intro goes
    cases goes with
    | call answer onward => exact ⟨answer, _, rfl, onward⟩
  · rintro ⟨answer, rest, rfl, onward⟩
    exact .call answer onward

/-- A single call is one exchange. -/
@[simp] theorem goes_ask {request : Call} {answer : Answer request}
    {exchanges : List (Exchange Call Answer)} :
    Goes (ask request) exchanges answer ↔ exchanges = [⟨request, answer⟩] := by
  constructor
  · intro goes
    obtain ⟨given, rest, rfl, onward⟩ := goes_call.mp goes
    obtain ⟨rfl, rfl⟩ := goes_done.mp onward
    rfl
  · rintro rfl
    exact .call answer (.done answer)

/-- A sequence goes its first part and then its second. -/
theorem goes_bind {activity : Activity Call Answer α} {next : α -> Activity Call Answer β}
    {exchanges : List (Exchange Call Answer)} {ending : β} :
    Goes (bind activity next) exchanges ending ↔
      ∃ first second value, exchanges = first ++ second ∧ Goes activity first value ∧
        Goes (next value) second ending := by
  induction activity generalizing exchanges with
  | done value =>
    constructor
    · intro goes
      exact ⟨[], exchanges, value, rfl, .done value, goes⟩
    · rintro ⟨first, second, found, rfl, goes, onward⟩
      obtain ⟨rfl, rfl⟩ := goes_done.mp goes
      exact onward
  | call request onward inductionHypothesis =>
    constructor
    · intro goes
      obtain ⟨answer, rest, rfl, later⟩ := goes_call.mp goes
      obtain ⟨first, second, value, rfl, start, finish⟩ := (inductionHypothesis answer).mp later
      exact ⟨⟨request, answer⟩ :: first, second, value, rfl, .call answer start, finish⟩
    · rintro ⟨first, second, value, rfl, start, finish⟩
      obtain ⟨answer, rest, rfl, later⟩ := goes_call.mp start
      exact .call answer ((inductionHypothesis answer).mpr ⟨rest, second, value, rfl, later, finish⟩)

/-- A sequence that only makes something of the value of its first part goes as that part does. -/
theorem goes_bind_done {activity : Activity Call Answer α} {next : α -> Activity Call Answer β} {view : α -> β}
    {exchanges : List (Exchange Call Answer)} {ending : β} (viewed : ∀ value, next value = .done (view value)) :
    Goes (bind activity next) exchanges ending ↔ ∃ value, Goes activity exchanges value ∧ ending = view value := by
  rw [goes_bind]
  constructor
  · rintro ⟨first, second, value, rfl, goes, ends⟩
    rw [viewed] at ends
    obtain ⟨rfl, rfl⟩ := goes_done.mp ends
    exact ⟨value, (List.append_nil first).symm ▸ goes, rfl⟩
  · rintro ⟨value, goes, rfl⟩
    exact ⟨exchanges, [], value, (List.append_nil exchanges).symm, goes, (viewed value).symm ▸ .done _⟩

/-- Sequences written with the notation of monads are sequences. -/
theorem monad_bind (activity : Activity Call Answer α) (next : α -> Activity Call Answer β) :
    activity >>= next = bind activity next := rfl

/-- Values written with the notation of monads are finished activities. -/
theorem monad_pure (value : α) : (pure value : Activity Call Answer α) = .done value := rfl

/-- The value at the end is determined by the exchanges. -/
theorem Goes.unique {activity : Activity Call Answer α} {exchanges : List (Exchange Call Answer)}
    {left right : α} (first : activity.Goes exchanges left) (second : activity.Goes exchanges right) :
    left = right := by
  induction first with
  | done value => exact (goes_done.mp second).2.symm
  | call answer _ inductionHypothesis =>
    obtain ⟨other, rest, same, later⟩ := goes_call.mp second
    cases same
    exact inductionHypothesis later

/-! ## Ways of runs -/

/-- States that answer calls one after another, from the first state to the last. -/
inductive Answered (answer : (request : Call) -> σ -> Answer request × σ) :
    σ -> List (Exchange Call Answer) -> σ -> Prop where
  | nil (state : σ) : Answered answer state [] state
  | cons {state final : σ} {exchanges : List (Exchange Call Answer)} (request : Call)
      (rest : Answered answer (answer request state).2 exchanges final) :
      Answered answer state (⟨request, (answer request state).1⟩ :: exchanges) final

variable {answer : (request : Call) -> σ -> Answer request × σ}

/-- Nothing is answered without an exchange. -/
theorem answered_nil {state final : σ} : Answered answer state [] final ↔ final = state := by
  constructor
  · intro answered
    cases answered
    rfl
  · rintro rfl
    exact .nil _

/-- The first exchange is answered from the first state. -/
theorem answered_cons {state final : σ} {exchange : Exchange Call Answer}
    {exchanges : List (Exchange Call Answer)} :
    Answered answer state (exchange :: exchanges) final ↔
      exchange.answer = (answer exchange.request state).1 ∧
        Answered answer (answer exchange.request state).2 exchanges final := by
  constructor
  · intro answered
    cases answered with
    | cons request rest => exact ⟨rfl, rest⟩
  · rintro ⟨same, rest⟩
    obtain ⟨request, given⟩ := exchange
    obtain rfl : given = (answer request state).1 := same
    exact .cons request rest

/-- Exchanges in a row are answered from the state that the earlier ones lead to. -/
theorem answered_append {state final : σ} {first second : List (Exchange Call Answer)} :
    Answered answer state (first ++ second) final ↔
      ∃ middle, Answered answer state first middle ∧ Answered answer middle second final := by
  induction first generalizing state with
  | nil =>
    constructor
    · intro answered
      exact ⟨state, .nil state, answered⟩
    · rintro ⟨middle, start, finish⟩
      rw [answered_nil] at start
      subst start
      exact finish
  | cons exchange first inductionHypothesis =>
    simp only [List.cons_append, answered_cons, inductionHypothesis]
    constructor
    · rintro ⟨same, middle, start, finish⟩
      exact ⟨middle, ⟨same, start⟩, finish⟩
    · rintro ⟨middle, ⟨same, start⟩, finish⟩
      exact ⟨same, middle, start, finish⟩

/-- The exchanges of a run from a state. -/
def exchanges (answer : (request : Call) -> σ -> Answer request × σ) :
    Activity Call Answer α -> σ -> List (Exchange Call Answer)
  | .done _, _ => []
  | .call request next, state =>
    ⟨request, (answer request state).1⟩ ::
      exchanges answer (next (answer request state).1) (answer request state).2

/-- A run goes the way of its exchanges. -/
theorem goes_run (activity : Activity Call Answer α) (state : σ) :
    activity.Goes (activity.exchanges answer state) (activity.run answer state).1 := by
  induction activity generalizing state with
  | done value => exact .done value
  | call request next inductionHypothesis =>
    exact .call _ (inductionHypothesis (answer request state).1 (answer request state).2)

/-- The exchanges of a run are answered from its state. -/
theorem answered_run (activity : Activity Call Answer α) (state : σ) :
    Answered answer state (activity.exchanges answer state) (activity.run answer state).2 := by
  induction activity generalizing state with
  | done value => exact .nil state
  | call request next inductionHypothesis =>
    exact .cons request (inductionHypothesis (answer request state).1 (answer request state).2)

/-- A way that is answered from a state is the way of the run from that state. -/
theorem Goes.eq_run {activity : Activity Call Answer α} {way : List (Exchange Call Answer)}
    {value : α} {state final : σ} (goes : activity.Goes way value)
    (answered : Answered answer state way final) :
    activity.run answer state = (value, final) ∧ activity.exchanges answer state = way := by
  induction goes generalizing state with
  | done value =>
    rw [answered_nil] at answered
    subst answered
    exact ⟨rfl, rfl⟩
  | call given onward inductionHypothesis =>
    obtain ⟨same, rest⟩ := answered_cons.mp answered
    dsimp only at same rest
    subst same
    obtain ⟨ran, followed⟩ := inductionHypothesis rest
    exact ⟨ran, congrArg _ followed⟩

/-- A run from a state is a way that is answered from that state. -/
theorem run_eq_iff {activity : Activity Call Answer α} {value : α} {state final : σ} :
    activity.run answer state = (value, final) ↔
      ∃ way, activity.Goes way value ∧ Answered answer state way final := by
  constructor
  · intro ran
    have goes : activity.Goes (activity.exchanges answer state) (activity.run answer state).1 :=
      goes_run activity state
    have answered : Answered answer state (activity.exchanges answer state)
        (activity.run answer state).2 := answered_run activity state
    rw [ran] at goes answered
    exact ⟨_, goes, answered⟩
  · rintro ⟨way, goes, answered⟩
    exact (goes.eq_run answered).1

end RepoSurvey.Activity

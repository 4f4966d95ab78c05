/-!
# Activities

An activity is either finished or makes a call to its surroundings and goes on from whatever they
answer. Nothing is assumed about the surroundings: a statement about all branches of an activity is a
statement about every way in which they may behave. Running an activity means answering its calls from
a state. Several activities can be interleaved, call by call, in an order that is itself asked for.
-/

namespace RepoSurvey

/-- A course of calls that ends with a value. -/
inductive Activity (Call : Type) (Answer : Call -> Type) (α : Type) : Type where
  | done (value : α)
  | call (request : Call) (next : Answer request -> Activity Call Answer α)

namespace Activity

variable {Call Other : Type} {Answer : Call -> Type} {Reply : Other -> Type} {α β γ σ : Type}

/-- Go on after an activity. -/
def bind (first : Activity Call Answer α) (next : α -> Activity Call Answer β) :
    Activity Call Answer β :=
  match first with
  | .done value => next value
  | .call request onward => .call request fun answer => bind (onward answer) next

instance : Monad (Activity Call Answer) where
  pure := .done
  bind := bind

/-- A single call. -/
def ask (request : Call) : Activity Call Answer (Answer request) := .call request .done

/-- Make the calls of an activity as calls of a larger kind. -/
def embed (outward : Call -> Other) (inward : (request : Call) -> Reply (outward request) ->
    Answer request) : Activity Call Answer α -> Activity Other Reply α
  | .done value => .done value
  | .call request next =>
    .call (outward request) fun reply => embed outward inward (next (inward request reply))

/-- Answer the calls of an activity from a state, to the end. -/
def run (answer : (request : Call) -> σ -> Answer request × σ) :
    Activity Call Answer α -> σ -> α × σ
  | .done value, state => (value, state)
  | .call request next, state =>
    let (reply, state) := answer request state
    run answer (next reply) state

/-- Answer the calls of an activity up to the first call that has to wait. -/
def runUntil (waits : Call -> Bool) (answer : (request : Call) -> σ -> Answer request × σ) :
    Activity Call Answer α -> σ -> Activity Call Answer α × σ
  | .done value, state => (.done value, state)
  | .call request next, state =>
    if waits request then (.call request next, state)
    else
      let (reply, state) := answer request state
      runUntil waits answer (next reply) state

@[simp] theorem done_bind (value : α) (next : α -> Activity Call Answer β) :
    bind (.done value) next = next value := rfl

/-- Doing nothing afterwards changes nothing. -/
@[simp] theorem bind_done (activity : Activity Call Answer α) : bind activity .done = activity := by
  induction activity with
  | done value => rfl
  | call request next inductionHypothesis =>
    simp only [bind, call.injEq, heq_eq_eq, true_and]
    exact funext inductionHypothesis

/-- Going on is associative. -/
theorem bind_assoc (activity : Activity Call Answer α) (next : α -> Activity Call Answer β)
    (last : β -> Activity Call Answer γ) :
    bind (bind activity next) last = bind activity fun value => bind (next value) last := by
  induction activity with
  | done value => rfl
  | call request onward inductionHypothesis =>
    simp only [bind, call.injEq, heq_eq_eq, true_and]
    exact funext inductionHypothesis

/-- Running a sequence runs its parts in order. -/
theorem run_bind (answer : (request : Call) -> σ -> Answer request × σ)
    (activity : Activity Call Answer α) (next : α -> Activity Call Answer β) (state : σ) :
    (bind activity next).run answer state =
      (next (activity.run answer state).1).run answer (activity.run answer state).2 := by
  induction activity generalizing state with
  | done value => rfl
  | call request onward inductionHypothesis => simp only [bind, run, inductionHypothesis]

/-- Stopping at the calls that wait and going on later is running to the end. -/
theorem run_runUntil (waits : Call -> Bool)
    (answer : (request : Call) -> σ -> Answer request × σ) (activity : Activity Call Answer α)
    (state : σ) :
    (activity.runUntil waits answer state).1.run answer
      (activity.runUntil waits answer state).2 = activity.run answer state := by
  induction activity generalizing state with
  | done value => rfl
  | call request next inductionHypothesis =>
    by_cases waiting : waits request = true <;> simp [runUntil, run, waiting, inductionHypothesis]

end Activity

end RepoSurvey

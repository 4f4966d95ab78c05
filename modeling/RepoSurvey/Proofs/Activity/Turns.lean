import RepoSurvey.Proofs.Activity.Interleaving

/-!
# One activity after another

When no more than one activity is admitted at a time, nothing is left to choose: `sideBySide_one` says that
the activities then go one after another in their order, each settling before the next one starts.
-/

namespace RepoSurvey.Activity

variable {Call : Type} {Answer : Call -> Type} {α β γ : Type}
  {settle : Nat -> α -> Activity Call Answer β} {number : Nat}

/-- Run activities one after another, each settling under the next number. -/
def inTurn (settle : Nat -> α -> Activity Call Answer β) (number : Nat) :
    List (Activity Call Answer α) -> Activity Call Answer (List β)
  | [] => .done []
  | activity :: rest =>
    bind (bind activity (settle number)) fun result =>
      bind (inTurn settle (number + 1) rest) fun results => .done (result :: results)

/-- Tasks that are finished with some results. -/
def finishedWith (values : List β) : List (Task Call Answer α β) :=
  values.map fun value => .settling (.done value)

variable {order : Nat -> Activity Call Answer Nat}

/-- With one task admitted at a time, the first unfinished task goes on. -/
theorem interleave_one (tasks : List (Task Call Answer α β)) : interleave 1 order settle tasks =
    Step.proceed (interleave 1 order settle) (results tasks)
      (select settle (tasks.countP Task.isSettling + 1) 0 tasks) := by
  rw [interleave_eq, if_pos (Nat.min_le_left 1 (pending tasks))]
  rfl

/-- Finished tasks are passed over. -/
theorem proceed_select (values : List β) (tasks : List (Task Call Answer α β))
    (next : List (Task Call Answer α β) -> Activity Call Answer γ) (otherwise : γ) :
    Step.proceed next otherwise (select settle number 0 (finishedWith values ++ tasks)) =
      Step.proceed (fun later => next (finishedWith values ++ later)) otherwise
        (select settle number 0 tasks) := by
  induction values generalizing next with
  | nil => rfl
  | cons value values inductionHypothesis =>
    have passed : select settle number 0 (finishedWith (value :: values) ++ tasks) =
        (select settle number 0 (finishedWith values ++ tasks)).map
          (Step.inTail (.settling (.done value))) := rfl
    have inner := inductionHypothesis fun later => next (.settling (.done value) :: later)
    refine Eq.trans ?_ inner
    rw [passed]
    rcases select settle number 0 (finishedWith values ++ tasks) with - | ⟨request, resume, -⟩ | ⟨later, -⟩ <;>
      rfl

/-- As many tasks have begun to settle as are finished when those behind them are at work. -/
theorem countP_isSettling (values : List β) (activities : List (Activity Call Answer α)) :
    (finishedWith values ++ activities.map .working : List (Task Call Answer α β)).countP
      Task.isSettling = values.length := by
  have settled : (finishedWith values : List (Task Call Answer α β)).countP Task.isSettling =
      values.length := by
    induction values with
    | nil => rfl
    | cons value values inductionHypothesis =>
      exact (List.countP_cons_of_pos rfl).trans (congrArg (· + 1) inductionHypothesis)
  have working : (activities.map .working : List (Task Call Answer α β)).countP Task.isSettling = 0 := by
    rw [List.countP_eq_zero]
    intro task member
    obtain ⟨activity, -, rfl⟩ := List.mem_map.mp member
    exact Bool.false_ne_true
  rw [List.countP_append, settled, working, Nat.add_zero]

section Behind

variable {values : List β} {rest : List (Activity Call Answer α)}
  {onward : β -> Activity Call Answer (List β)}
  (others : ∀ result, interleave 1 order settle
    (finishedWith values ++ .settling (.done result) :: rest.map .working) = onward result)

include others

/-- A task that settles behind finished ones settles, and then the others go on. -/
theorem interleave_settling (activity : Activity Call Answer β) : interleave 1 order settle
    (finishedWith values ++ .settling activity :: rest.map .working) = bind activity onward := by
  induction activity with
  | done result => exact others result
  | call request next inductionHypothesis =>
    rw [interleave_one, proceed_select]
    exact congrArg (Activity.call request) (funext inductionHypothesis)

/-- A task that works behind finished ones works and settles, and then the others go on. -/
theorem interleave_working (activity : Activity Call Answer α) : interleave 1 order settle
    (finishedWith values ++ .working activity :: rest.map .working) =
      bind (bind activity (settle (values.length + 1))) onward := by
  induction activity with
  | call request next inductionHypothesis =>
    rw [interleave_one, proceed_select]
    exact congrArg (Activity.call request) (funext inductionHypothesis)
  | done value =>
    have number := countP_isSettling values (.done value :: rest)
    have settles := interleave_settling others
    rw [List.map_cons] at number
    rw [interleave_one, proceed_select, number, done_bind]
    simp only [select, Task.step?]
    cases settle (values.length + 1) value with
    | done result => exact others result
    | call request next => exact congrArg (Activity.call request) (funext fun answer => settles (next answer))

end Behind

/-- Behind finished tasks, activities go one after another. -/
theorem interleave_finished (values : List β) (activities : List (Activity Call Answer α)) :
    interleave 1 order settle (finishedWith values ++ activities.map .working) =
      bind (inTurn settle (values.length + 1) activities) fun results => .done (values ++ results) := by
  induction activities generalizing values with
  | nil =>
    have finished : results (finishedWith values : List (Task Call Answer α β)) = values := by
      induction values with
      | nil => rfl
      | cons value values inductionHypothesis => exact congrArg (value :: ·) inductionHypothesis
    rw [interleave_one, proceed_select, List.map_nil, List.append_nil, finished]
    exact congrArg Activity.done (List.append_nil values).symm
  | cons activity rest inductionHypothesis =>
    have others : ∀ result, interleave 1 order settle
        (finishedWith values ++ .settling (.done result) :: rest.map .working) =
          bind (inTurn settle (values.length + 2) rest) fun results =>
            .done (values ++ result :: results) := by
      intro result
      have later := inductionHypothesis (values ++ [result])
      simpa [finishedWith] using later
    rw [List.map_cons, interleave_working others, inTurn]
    simp only [bind_assoc, done_bind]

/-- With one activity admitted at a time, activities go one after another. -/
theorem sideBySide_one (activities : List (Activity Call Answer α)) :
    sideBySide 1 order settle activities = inTurn settle 1 activities :=
  (interleave_finished [] activities).trans (bind_done _)

end RepoSurvey.Activity

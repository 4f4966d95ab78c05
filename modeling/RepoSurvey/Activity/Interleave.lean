import RepoSurvey.Activity

/-!
# Interleaved activities

Tasks that run side by side make their calls in some order. A task works first; what it came to is
then settled, and tasks are numbered in the order in which they begin to settle. At any time only the
first few unfinished tasks are admitted; which of the admitted ones makes the next call is asked for,
so that all orders are covered. Interleaving ends, because every step brings one task forward and
leaves the others alone.
-/

namespace RepoSurvey.Activity

variable {Call : Type} {Answer : Call -> Type} {α β : Type}

/-- A task: at work on something, or settling what it came to. -/
inductive Task (Call : Type) (Answer : Call -> Type) (α β : Type) where
  | working (activity : Activity Call Answer α)
  | settling (activity : Activity Call Answer β)

/-- One activity is what another goes on with after an answer. -/
inductive Onward : Activity Call Answer α -> Activity Call Answer α -> Prop where
  | after (request : Call) (next : Answer request -> Activity Call Answer α)
      (answer : Answer request) : Onward (next answer) (.call request next)

/-- One task is what another becomes after a step. -/
inductive Later : Task Call Answer α β -> Task Call Answer α β -> Prop where
  | working {later earlier : Activity Call Answer α} (onward : Onward later earlier) :
      Later (.working later) (.working earlier)
  | begins (value : α) (settling : Activity Call Answer β) :
      Later (.settling settling) (.working (.done value))
  | settling {later earlier : Activity Call Answer β} (onward : Onward later earlier) :
      Later (.settling later) (.settling earlier)

/-- A list of tasks after one of them made a step. -/
inductive LaterIn : List (Task Call Answer α β) -> List (Task Call Answer α β) -> Prop where
  | here {later earlier : Task Call Answer α β} (step : Later later earlier)
      (rest : List (Task Call Answer α β)) : LaterIn (later :: rest) (earlier :: rest)
  | there {laters earliers : List (Task Call Answer α β)} (first : Task Call Answer α β)
      (step : LaterIn laters earliers) : LaterIn (first :: laters) (first :: earliers)

/-- An activity cannot go on for ever. -/
theorem acc_onward (activity : Activity Call Answer α) : Acc Onward activity := by
  induction activity with
  | done value => exact ⟨_, fun _ onward => nomatch onward⟩
  | call request next inductionHypothesis =>
    refine ⟨_, fun later onward => ?_⟩
    cases onward with
    | after _ _ answer => exact inductionHypothesis answer

/-- A task that is settling cannot go on for ever. -/
theorem acc_settling (activity : Activity Call Answer β) :
    Acc Later (.settling activity : Task Call Answer α β) := by
  induction acc_onward activity with
  | intro activity _ inductionHypothesis =>
    refine ⟨_, fun later step => ?_⟩
    cases step with
    | settling onward => exact inductionHypothesis _ onward

/-- A task cannot go on for ever. -/
theorem acc_later (task : Task Call Answer α β) : Acc Later task := by
  cases task with
  | settling activity => exact acc_settling activity
  | working activity =>
    induction acc_onward activity with
    | intro activity _ inductionHypothesis =>
      refine ⟨_, fun later step => ?_⟩
      cases step with
      | working onward => exact inductionHypothesis _ onward
      | begins value settling => exact acc_settling settling

/-- A task in front of a list that ends does not keep the list from ending. -/
theorem acc_cons (first : Task Call Answer α β) (firstEnds : Acc Later first)
    (rest : List (Task Call Answer α β)) (restEnds : Acc LaterIn rest) :
    Acc LaterIn (first :: rest) := by
  induction firstEnds generalizing rest with
  | intro first _ firstHypothesis =>
    induction restEnds with
    | intro rest restAcc restHypothesis =>
      refine ⟨_, fun later step => ?_⟩
      cases step with
      | here step _ => exact firstHypothesis _ step rest ⟨_, restAcc⟩
      | there _ step => exact restHypothesis _ step

/-- Tasks cannot go on for ever side by side. -/
theorem acc_laterIn (tasks : List (Task Call Answer α β)) : Acc LaterIn tasks := by
  induction tasks with
  | nil => exact ⟨_, fun _ step => nomatch step⟩
  | cons first rest inductionHypothesis =>
    exact acc_cons first (acc_later first) rest inductionHypothesis

/-- The next step of a task or of several: a call, or settling without one. -/
inductive Step {Thing : Type} (Call : Type) (Answer : Call -> Type)
    (Follows : Thing -> Thing -> Prop) (thing : Thing) where
  | call (request : Call) (resume : Answer request -> Thing)
      (follows : (answer : Answer request) -> Follows (resume answer) thing)
  | silent (next : Thing) (follows : Follows next thing)

/-- Bring a task forward; nothing when it is finished. `number` is its place among the settled tasks
in case it begins to settle. -/
def Task.step? (settle : Nat -> α -> Activity Call Answer β) (number : Nat) :
    (task : Task Call Answer α β) -> Option (Step Call Answer Later task)
  | .working (.call request next) =>
    some (.call request (fun answer => .working (next answer)) fun answer =>
      .working (.after _ _ answer))
  | .working (.done value) =>
    match settle number value with
    | .call request next =>
      some (.call request (fun answer => .settling (next answer)) fun _ => .begins _ _)
    | .done result => some (.silent (.settling (.done result)) (.begins _ _))
  | .settling (.call request next) =>
    some (.call request (fun answer => .settling (next answer)) fun answer =>
      .settling (.after _ _ answer))
  | .settling (.done _) => none

/-- Whether a task is finished. -/
def Task.isFinished : Task Call Answer α β -> Bool
  | .settling (.done _) => true
  | _ => false

/-- Whether a task has begun to settle. -/
def Task.isSettling : Task Call Answer α β -> Bool
  | .settling _ => true
  | .working _ => false

/-- The result of a finished task. -/
def Task.result? : Task Call Answer α β -> Option β
  | .settling (.done result) => some result
  | _ => none

/-- The number of unfinished tasks. -/
def pending (tasks : List (Task Call Answer α β)) : Nat :=
  tasks.countP fun task => !task.isFinished

/-- The results of the finished tasks. -/
def results (tasks : List (Task Call Answer α β)) : List β := tasks.filterMap Task.result?

/-- Bring the first of some tasks forward. -/
def Step.atHead {task : Task Call Answer α β} (rest : List (Task Call Answer α β)) :
    Step Call Answer Later task -> Step Call Answer LaterIn (task :: rest)
  | .call request resume follows =>
    .call request (fun answer => resume answer :: rest) fun answer => .here (follows answer) rest
  | .silent next follows => .silent (next :: rest) (.here follows rest)

/-- Bring a later one of some tasks forward. -/
def Step.inTail (first : Task Call Answer α β) {rest : List (Task Call Answer α β)} :
    Step Call Answer LaterIn rest -> Step Call Answer LaterIn (first :: rest)
  | .call request resume follows =>
    .call request (fun answer => first :: resume answer) fun answer => .there first (follows answer)
  | .silent next follows => .silent (first :: next) (.there first follows)

/-- The next step of the unfinished task at a position among the unfinished ones. -/
def select (settle : Nat -> α -> Activity Call Answer β) (number : Nat) : (index : Nat) ->
    (tasks : List (Task Call Answer α β)) -> Option (Step Call Answer LaterIn tasks)
  | _, [] => none
  | index, task :: rest =>
    match task.step? settle number, index with
    | none, index => (select settle number index rest).map (Step.inTail task)
    | some step, 0 => some (step.atHead rest)
    | some _, index + 1 => (select settle number index rest).map (Step.inTail task)

/-- A task can be brought forward unless it is finished. -/
theorem isSome_step? (settle : Nat -> α -> Activity Call Answer β) (number : Nat)
    (task : Task Call Answer α β) : (task.step? settle number).isSome = !task.isFinished := by
  cases task with
  | settling activity => cases activity <;> rfl
  | working activity =>
    cases activity with
    | call request next => rfl
    | done value =>
      simp only [Task.step?, Task.isFinished]
      split <;> rfl

/-- An unfinished task can be selected at every position below their number. -/
theorem isSome_select (settle : Nat -> α -> Activity Call Answer β) (number index : Nat)
    (tasks : List (Task Call Answer α β)) (below : index < pending tasks) :
    (select settle number index tasks).isSome = true := by
  induction tasks generalizing index with
  | nil => simp [pending] at below
  | cons task rest inductionHypothesis =>
    have known := isSome_step? settle number task
    cases stepped : task.step? settle number with
    | none =>
      have finished : task.isFinished = true := by simpa [stepped] using known
      have below : index < pending rest := by simpa [pending, finished] using below
      simpa [select, stepped] using inductionHypothesis index below
    | some step =>
      have unfinished : task.isFinished = false := by simpa [stepped] using known
      cases index with
      | zero => simp [select, stepped]
      | succ index =>
        have below : index < pending rest := by
          have : index + 1 < pending rest + 1 := by simpa [pending, unfinished] using below
          omega
        simpa [select, stepped] using inductionHypothesis index below

/-- Run tasks side by side. At most `limit` are admitted at a time; `order` asks which of a number of
admitted tasks goes on. -/
def interleave (limit : Nat) (order : Nat -> Activity Call Answer Nat)
    (settle : Nat -> α -> Activity Call Answer β) (tasks : List (Task Call Answer α β)) :
    Activity Call Answer (List β) :=
  let admitted := min limit (pending tasks)
  let number := tasks.countP Task.isSettling + 1
  let proceed (index : Nat) : Activity Call Answer (List β) :=
    match select settle number index tasks with
    | none => .done (results tasks)
    | some (.call request resume _) =>
      .call request fun answer => interleave limit order settle (resume answer)
    | some (.silent next _) => interleave limit order settle next
  if admitted ≤ 1 then proceed 0
  else bind (order admitted) fun index => proceed (index % admitted)
termination_by WellFounded.wrap ⟨acc_laterIn⟩ tasks
decreasing_by
  · next follows => exact follows answer
  · next follows => exact follows

/-- Run activities side by side and settle each when it has come to its value. -/
def sideBySide (limit : Nat) (order : Nat -> Activity Call Answer Nat)
    (settle : Nat -> α -> Activity Call Answer β) (activities : List (Activity Call Answer α)) :
    Activity Call Answer (List β) :=
  interleave limit order settle (activities.map .working)

end RepoSurvey.Activity

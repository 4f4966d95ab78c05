import RepoSurvey.Activity.Interleave
import RepoSurvey.Proofs.Activity.Keeps

/-!
# Ways of interleaved activities

`goes_interleave` says that a way of interleaved tasks is made of one way for each task, shuffled with the
exchanges that settle their order: interleaving neither adds calls nor changes what a task does.
`keeps_interleave` says that interleaved tasks keep to the terms that each of them keeps to. What holds of
interleaving is shown by `interleave_induction`, whose cases are what one of the tasks does next.
-/

namespace RepoSurvey.Activity

variable {Call : Type} {Answer : Call -> Type} {α β ε : Type}

/-! ## Shuffles -/

/-- A list is a shuffle of two lists. -/
inductive Shuffle : List ε -> List ε -> List ε -> Prop where
  | nil : Shuffle [] [] []
  | left {item : ε} {left right whole : List ε} (shuffle : Shuffle left right whole) :
      Shuffle (item :: left) right (item :: whole)
  | right {item : ε} {left right whole : List ε} (shuffle : Shuffle left right whole) :
      Shuffle left (item :: right) (item :: whole)

namespace Shuffle

variable {left right whole : List ε}

/-- What is shuffled with nothing is the whole. -/
theorem eq_of_nil_left (shuffle : Shuffle [] right whole) : whole = right := by
  induction right generalizing whole with
  | nil => cases shuffle; rfl
  | cons item right inductionHypothesis =>
    cases shuffle with
    | right shuffle => rw [inductionHypothesis shuffle]

/-- What nothing is shuffled with is the whole. -/
theorem eq_of_nil_right (shuffle : Shuffle left [] whole) : whole = left := by
  induction left generalizing whole with
  | nil => cases shuffle; rfl
  | cons item left inductionHypothesis =>
    cases shuffle with
    | left shuffle => rw [inductionHypothesis shuffle]

/-- Filtering a shuffle shuffles what the filter keeps. -/
theorem filter (keeps : ε -> Bool) (shuffle : Shuffle left right whole) :
    Shuffle (left.filter keeps) (right.filter keeps) (whole.filter keeps) := by
  induction shuffle with
  | nil => exact .nil
  | @left item left right whole shuffle inductionHypothesis =>
    by_cases kept : keeps item = true
    · simpa only [List.filter_cons_of_pos kept] using inductionHypothesis.left
    · simpa only [List.filter_cons_of_neg kept] using inductionHypothesis
  | @right item left right whole shuffle inductionHypothesis =>
    by_cases kept : keeps item = true
    · simpa only [List.filter_cons_of_pos kept] using inductionHypothesis.right
    · simpa only [List.filter_cons_of_neg kept] using inductionHypothesis

/-- The left part stands in the whole in its order. -/
theorem sublist_left (shuffle : Shuffle left right whole) : left.Sublist whole := by
  induction shuffle with
  | nil => exact .slnil
  | left _ inductionHypothesis => exact inductionHypothesis.cons_cons _
  | right _ inductionHypothesis => exact inductionHypothesis.cons _

/-- The right part stands in the whole in its order. -/
theorem sublist_right (shuffle : Shuffle left right whole) : right.Sublist whole := by
  induction shuffle with
  | nil => exact .slnil
  | left _ inductionHypothesis => exact inductionHypothesis.cons _
  | right _ inductionHypothesis => exact inductionHypothesis.cons_cons _

/-- The whole is the two parts in another order. -/
theorem perm (shuffle : Shuffle left right whole) : whole.Perm (left ++ right) := by
  induction shuffle with
  | nil => exact .nil
  | left _ inductionHypothesis => exact inductionHypothesis.cons _
  | right _ inductionHypothesis => exact (inductionHypothesis.cons _).trans List.perm_middle.symm

/-- Items put before the left part stand before the whole. -/
theorem append_left (items : List ε) (shuffle : Shuffle left right whole) :
    Shuffle (items ++ left) right (items ++ whole) := by
  induction items with
  | nil => exact shuffle
  | cons item items inductionHypothesis => exact .left inductionHypothesis

/-- The whole holds what one of the parts holds. -/
theorem mem_iff {item : ε} (shuffle : Shuffle left right whole) :
    item ∈ whole ↔ item ∈ left ∨ item ∈ right := by
  induction shuffle with
  | nil => simp
  | left _ inductionHypothesis => simp [inductionHypothesis, or_assoc]
  | right _ inductionHypothesis => simp [inductionHypothesis, or_left_comm]

end Shuffle

/-- A list is a shuffle of several lists. -/
inductive Merges : List (List ε) -> List ε -> Prop where
  | nil : Merges [] []
  | cons {parts : List (List ε)} {part rest whole : List ε} (merges : Merges parts rest)
      (shuffle : Shuffle part rest whole) : Merges (part :: parts) whole

namespace Merges

variable {parts : List (List ε)} {whole : List ε}

/-- Empty parts make an empty whole. -/
theorem replicate_nil (count : Nat) : Merges (List.replicate count []) ([] : List ε) := by
  induction count with
  | zero => exact .nil
  | succ count inductionHypothesis => exact .cons inductionHypothesis .nil

/-- Every part stands in the whole in its order. -/
theorem sublist {part : List ε} (merges : Merges parts whole) (member : part ∈ parts) :
    part.Sublist whole := by
  induction merges with
  | nil => nomatch member
  | cons _ shuffle inductionHypothesis =>
    rcases List.mem_cons.mp member with rfl | member
    · exact shuffle.sublist_left
    · exact (inductionHypothesis member).trans shuffle.sublist_right

/-- The whole holds what some part holds. -/
theorem mem_iff {item : ε} (merges : Merges parts whole) :
    item ∈ whole ↔ ∃ part ∈ parts, item ∈ part := by
  induction merges with
  | nil => simp
  | cons _ shuffle inductionHypothesis => simp [shuffle.mem_iff, inductionHypothesis]

/-- A filter that keeps nothing of any part keeps nothing of the whole. -/
theorem filter_eq_nil {keeps : ε -> Bool} (merges : Merges parts whole)
    (nothing : ∀ part ∈ parts, part.filter keeps = []) : whole.filter keeps = [] := by
  rw [List.filter_eq_nil_iff]
  intro item member
  obtain ⟨part, isPart, member⟩ := merges.mem_iff.mp member
  exact List.filter_eq_nil_iff.mp (nothing part isPart) item member

end Merges

/-! ## Steps of tasks -/

variable {settle : Nat -> α -> Activity Call Answer β} {terms : Terms Call Answer} {ends : β -> Prop}
  {number total : Nat}

/-- A task goes a way to a result and settles along the way as one of the first `total` tasks. -/
def Task.Goes (settle : Nat -> α -> Activity Call Answer β) (total : Nat) :
    Task Call Answer α β -> List (Exchange Call Answer) -> β -> Prop
  | .working activity, way, result =>
    ∃ first second value number, number ≤ total ∧ way = first ++ second ∧
      activity.Goes first value ∧ (settle number value).Goes second result
  | .settling activity, way, result => activity.Goes way result

/-- A task keeps to terms, as which one of the first `total` tasks ever it settles. -/
def Task.Keeps (terms : Terms Call Answer) (settle : Nat -> α -> Activity Call Answer β)
    (total : Nat) (ends : β -> Prop) : Task Call Answer α β -> Prop
  | .working activity => activity.Keeps terms fun value =>
    ∀ number, number ≤ total -> (settle number value).Keeps terms ends
  | .settling activity => activity.Keeps terms ends

/-- Whether a number fits a task in case it begins to settle. -/
def Task.Fits (number total : Nat) (task : Task Call Answer α β) : Prop :=
  task.isSettling = false -> number ≤ total

/-- How a task makes a call: at work, on beginning to settle under a number, or settling. -/
inductive Task.Calls (settle : Nat -> α -> Activity Call Answer β) (number : Nat) :
    Task Call Answer α β -> (request : Call) -> (Answer request -> Task Call Answer α β) -> Prop where
  | works (request : Call) (next : Answer request -> Activity Call Answer α) :
      Calls settle number (.working (.call request next)) request fun answer => .working (next answer)
  | begins {value : α} {request : Call} {next : Answer request -> Activity Call Answer β}
      (settles : settle number value = .call request next) :
      Calls settle number (.working (.done value)) request fun answer => .settling (next answer)
  | settles (request : Call) (next : Answer request -> Activity Call Answer β) :
      Calls settle number (.settling (.call request next)) request fun answer => .settling (next answer)

/-- How a task goes on without a call: it settles under a number and is finished. -/
inductive Task.Turns (settle : Nat -> α -> Activity Call Answer β) (number : Nat) :
    Task Call Answer α β -> Task Call Answer α β -> Prop where
  | begins {value : α} {result : β} (settles : settle number value = .done result) :
      Turns settle number (.working (.done value)) (.settling (.done result))

section Moves

variable {task later : Task Call Answer α β} {request : Call}
  {resume : Answer request -> Task Call Answer α β} {way : List (Exchange Call Answer)} {result : β}

/-- A task that makes a call goes on as what it becomes. -/
theorem Task.Calls.goes (calls : task.Calls settle number request resume)
    (fits : task.Fits number total) (answer : Answer request)
    (goes : (resume answer).Goes settle total way result) :
    task.Goes settle total (⟨request, answer⟩ :: way) result := by
  cases calls with
  | works request next =>
    obtain ⟨first, second, value, number, low, rfl, worked, settled⟩ := goes
    exact ⟨_, second, value, number, low, rfl, .call answer worked, settled⟩
  | @begins value request next settles =>
    refine ⟨[], _, value, number, fits rfl, rfl, .done value, ?_⟩
    rw [settles]
    exact .call answer goes
  | settles request next => exact .call answer goes

/-- A task that keeps to terms makes a call that it may and keeps to them. -/
theorem Task.Calls.keeps (calls : task.Calls settle number request resume)
    (fits : task.Fits number total) (keeps : task.Keeps terms settle total ends) :
    terms.asks request ∧ ∀ answer, terms.told request answer ->
      (resume answer).Keeps terms settle total ends := by
  cases calls with
  | works request next => exact keeps
  | begins settles =>
    have kept := keeps number (fits rfl)
    rw [settles] at kept
    exact kept
  | settles request next => exact keeps

/-- A task that goes on without a call goes on as what it becomes. -/
theorem Task.Turns.goes (turns : task.Turns settle number later) (fits : task.Fits number total)
    (goes : later.Goes settle total way result) : task.Goes settle total way result := by
  cases turns with
  | @begins value result settles =>
    refine ⟨[], way, value, number, fits rfl, rfl, .done value, ?_⟩
    rw [settles]
    exact goes

/-- A task that keeps to terms keeps to them without a call. -/
theorem Task.Turns.keeps (turns : task.Turns settle number later) (fits : task.Fits number total)
    (keeps : task.Keeps terms settle total ends) : later.Keeps terms settle total ends := by
  cases turns with
  | begins settles =>
    have kept := keeps number (fits rfl)
    rw [settles] at kept
    exact kept

/-- The result of a task that keeps to terms is as promised. -/
theorem Task.Keeps.result? (keeps : task.Keeps terms settle total ends) (isResult : task.result? = some result) :
    ends result := by
  cases task with
  | working activity => nomatch isResult
  | settling activity =>
    cases activity with
    | call request next => nomatch isResult
    | done value =>
      obtain rfl := Option.some.inj isResult
      exact keeps

end Moves

/-- A step as it is described. -/
def Step.Describes (settle : Nat -> α -> Activity Call Answer β) (number : Nat)
    {task : Task Call Answer α β} : Step Call Answer Later task -> Prop
  | .call request resume _ => task.Calls settle number request resume
  | .silent next _ => task.Turns settle number next

/-- The step of a task is as described. -/
theorem Task.describes_step? {task : Task Call Answer α β} {step : Step Call Answer Later task}
    (stepped : task.step? settle number = some step) : step.Describes settle number := by
  cases task with
  | settling activity =>
    cases activity with
    | done result => simp [Task.step?] at stepped
    | call request next =>
      obtain rfl := Option.some.inj stepped
      exact .settles request next
  | working activity =>
    cases activity with
    | call request next =>
      obtain rfl := Option.some.inj stepped
      exact .works request next
    | done value =>
      simp only [Task.step?] at stepped
      split at stepped
      · next settles =>
        obtain rfl := Option.some.inj stepped
        exact .begins settles
      · next settles =>
        obtain rfl := Option.some.inj stepped
        exact .begins settles

/-- A step of one among several tasks, as it is described. -/
def Step.DescribesIn (settle : Nat -> α -> Activity Call Answer β) (number : Nat)
    {tasks : List (Task Call Answer α β)} : Step Call Answer LaterIn tasks -> Prop
  | .call request resume _ =>
    ∃ before task after onward, tasks = before ++ task :: after ∧
      (∀ answer, resume answer = before ++ onward answer :: after) ∧
        Task.Calls settle number task request onward
  | .silent next _ =>
    ∃ before task after later, tasks = before ++ task :: after ∧ next = before ++ later :: after ∧
      Task.Turns settle number task later

/-- A step described at the head is described. -/
theorem Step.describesIn_atHead {task : Task Call Answer α β}
    {rest : List (Task Call Answer α β)} {step : Step Call Answer Later task}
    (describes : step.Describes settle number) :
    (step.atHead rest).DescribesIn settle number := by
  cases step with
  | call request resume follows => exact ⟨[], task, rest, resume, rfl, fun _ => rfl, describes⟩
  | silent next follows => exact ⟨[], task, rest, next, rfl, rfl, describes⟩

/-- A step described among the later tasks is described among all. -/
theorem Step.describesIn_inTail {first : Task Call Answer α β}
    {rest : List (Task Call Answer α β)} {step : Step Call Answer LaterIn rest}
    (describes : step.DescribesIn settle number) :
    (step.inTail first).DescribesIn settle number := by
  cases step with
  | call request resume follows =>
    obtain ⟨before, task, after, onward, rfl, resumes, calls⟩ := describes
    exact ⟨first :: before, task, after, onward, rfl,
      fun answer => congrArg (first :: ·) (resumes answer), calls⟩
  | silent next follows =>
    obtain ⟨before, task, after, later, rfl, rfl, turns⟩ := describes
    exact ⟨first :: before, task, after, later, rfl, rfl, turns⟩

/-- A selected step is as described. -/
theorem describesIn_select {index : Nat} {tasks : List (Task Call Answer α β)}
    {step : Step Call Answer LaterIn tasks}
    (selected : select settle number index tasks = some step) :
    step.DescribesIn settle number := by
  induction tasks generalizing index with
  | nil => simp [select] at selected
  | cons task rest inductionHypothesis =>
    cases stepped : task.step? settle number with
    | none =>
      simp only [select, stepped] at selected
      obtain ⟨inner, found, rfl⟩ := Option.map_eq_some_iff.mp selected
      exact Step.describesIn_inTail (inductionHypothesis found)
    | some first =>
      cases index with
      | zero =>
        simp only [select, stepped] at selected
        obtain rfl := Option.some.inj selected
        exact Step.describesIn_atHead (Task.describes_step? stepped)
      | succ index =>
        simp only [select, stepped] at selected
        obtain ⟨inner, found, rfl⟩ := Option.map_eq_some_iff.mp selected
        exact Step.describesIn_inTail (inductionHypothesis found)

/-- A step is selected below the number of unfinished tasks only when there are none left. -/
theorem finished_of_select {index : Nat} {tasks : List (Task Call Answer α β)}
    (below : index < pending tasks ∨ pending tasks = 0)
    (selected : select settle number index tasks = none) :
    ∀ task ∈ tasks, task.isFinished = true := by
  rcases below with below | nonePending
  · have isSome := isSome_select settle number index tasks below
    rw [selected] at isSome
    nomatch isSome
  · rw [pending, List.countP_eq_zero] at nonePending
    intro task member
    simpa using nonePending task member

/-- The number after those of the settled tasks fits every task among few enough. -/
theorem fits_of_length_le {before after : List (Task Call Answer α β)} {task : Task Call Answer α β}
    (few : (before ++ task :: after).length ≤ total) :
    task.Fits ((before ++ task :: after).countP Task.isSettling + 1) total := by
  intro working
  have first := List.countP_le_length (p := Task.isSettling) (l := before)
  have last := List.countP_le_length (p := Task.isSettling) (l := after)
  rw [List.length_append, List.length_cons] at few
  rw [List.countP_append, List.countP_cons_of_neg (by simp [working])]
  omega

/-! ## Tasks side by side -/

/-- Tasks go their ways to their results. -/
inductive TasksGo (settle : Nat -> α -> Activity Call Answer β) (total : Nat) :
    List (Task Call Answer α β) -> List (List (Exchange Call Answer)) -> List β -> Prop where
  | nil : TasksGo settle total [] [] []
  | cons {task : Task Call Answer α β} {way : List (Exchange Call Answer)} {result : β}
      {tasks : List (Task Call Answer α β)} {ways : List (List (Exchange Call Answer))}
      {results : List β} (goes : task.Goes settle total way result)
      (rest : TasksGo settle total tasks ways results) :
      TasksGo settle total (task :: tasks) (way :: ways) (result :: results)

namespace TasksGo

/-- Finished tasks go nowhere and have their results. -/
theorem finished {tasks : List (Task Call Answer α β)}
    (finished : ∀ task ∈ tasks, task.isFinished = true) :
    TasksGo settle total tasks (List.replicate tasks.length []) (results tasks) := by
  induction tasks with
  | nil => exact .nil
  | cons task tasks inductionHypothesis =>
    have rest := inductionHypothesis fun other member => finished other (.tail _ member)
    have isFinished := finished task (.head _)
    cases task with
    | working activity => nomatch isFinished
    | settling activity =>
      cases activity with
      | call request next => nomatch isFinished
      | done result => exact .cons (Activity.Goes.done result) rest

/-- A task before which something else is exchanged goes a longer way. -/
theorem push {task later : Task Call Answer α β} {exchange : Exchange Call Answer}
    {before after : List (Task Call Answer α β)} {ways : List (List (Exchange Call Answer))}
    {whole : List (Exchange Call Answer)} {results : List β}
    (longer : ∀ way result, later.Goes settle total way result ->
      task.Goes settle total (exchange :: way) result)
    (go : TasksGo settle total (before ++ later :: after) ways results) (merges : Merges ways whole) :
    ∃ longerWays, TasksGo settle total (before ++ task :: after) longerWays results ∧
      Merges longerWays (exchange :: whole) := by
  induction before generalizing ways whole results with
  | nil =>
    cases go with
    | cons goes rest =>
      cases merges with
      | cons merges shuffle => exact ⟨_, .cons (longer _ _ goes) rest, .cons merges shuffle.left⟩
  | cons first before inductionHypothesis =>
    cases go with
    | cons goes rest =>
      cases merges with
      | cons merges shuffle =>
        obtain ⟨longerWays, longerGo, longerMerges⟩ := inductionHypothesis rest merges
        exact ⟨_, .cons goes longerGo, .cons longerMerges shuffle.right⟩

/-- A task that goes every way of another can take its place. -/
theorem replace {task later : Task Call Answer α β} {before after : List (Task Call Answer α β)}
    {ways : List (List (Exchange Call Answer))} {results : List β}
    (same : ∀ way result, later.Goes settle total way result -> task.Goes settle total way result)
    (go : TasksGo settle total (before ++ later :: after) ways results) :
    TasksGo settle total (before ++ task :: after) ways results := by
  induction before generalizing ways results with
  | nil =>
    cases go with
    | cons goes rest => exact .cons (same _ _ goes) rest
  | cons first before inductionHypothesis =>
    cases go with
    | cons goes rest => exact .cons goes (inductionHypothesis rest)

end TasksGo

variable {limit : Nat} {order : Nat -> Activity Call Answer Nat}

/-- Go on from a step, or end if there is none. -/
def Step.proceed {Thing γ : Type} {Follows : Thing -> Thing -> Prop} {thing : Thing}
    (next : Thing -> Activity Call Answer γ) (otherwise : γ) :
    Option (Step Call Answer Follows thing) -> Activity Call Answer γ
  | none => .done otherwise
  | some (.call request resume _) => .call request fun answer => next (resume answer)
  | some (.silent later _) => next later

/-- How interleaved tasks go on when the unfinished one at a position is brought forward. -/
def proceed (limit : Nat) (order : Nat -> Activity Call Answer Nat) (settle : Nat -> α -> Activity Call Answer β)
    (tasks : List (Task Call Answer α β)) (index : Nat) : Activity Call Answer (List β) :=
  Step.proceed (interleave limit order settle) (results tasks)
    (select settle (tasks.countP Task.isSettling + 1) index tasks)

/-- Interleaving asks which task goes on only when there is a choice. -/
theorem interleave_eq (tasks : List (Task Call Answer α β)) :
    interleave limit order settle tasks =
      if min limit (pending tasks) ≤ 1 then proceed limit order settle tasks 0
      else bind (order (min limit (pending tasks))) fun index =>
        proceed limit order settle tasks (index % min limit (pending tasks)) := by
  rw [interleave]
  dsimp only
  split
  · unfold proceed
    rcases select settle _ 0 tasks with - | ⟨_, _, _⟩ | ⟨_, _⟩ <;> rfl
  · refine congrArg _ (funext fun index => ?_)
    unfold proceed
    rcases select settle _ (index % _) tasks with - | ⟨_, _, _⟩ | ⟨_, _⟩ <;> rfl

/-- **Induction on interleaved tasks.** What holds of activities from few enough tasks holds of interleaving them if
it holds of the results of finished tasks, if it holds of a call or a turn of one of the tasks when it holds of what
comes after it, and if it holds of asking which task goes on when it holds of going on with any. -/
theorem interleave_induction {motive : List (Task Call Answer α β) -> Activity Call Answer (List β) -> Prop}
    (finished : ∀ tasks : List (Task Call Answer α β), (∀ task ∈ tasks, task.isFinished = true) ->
      motive tasks (.done (results tasks)))
    (calls : ∀ {before after : List (Task Call Answer α β)} {task : Task Call Answer α β} {request : Call}
      {later : Answer request -> Task Call Answer α β} {next : Answer request -> Activity Call Answer (List β)}
      {number : Nat}, number = (before ++ task :: after).countP Task.isSettling + 1 ->
        task.Calls settle number request later -> task.Fits number total ->
          (∀ answer, motive (before ++ later answer :: after) (next answer)) ->
            motive (before ++ task :: after) (.call request next))
    (turns : ∀ {before after : List (Task Call Answer α β)} {task later : Task Call Answer α β}
      {next : Activity Call Answer (List β)} {number : Nat}, task.Turns settle number later ->
        task.Fits number total -> motive (before ++ later :: after) next -> motive (before ++ task :: after) next)
    (ordered : ∀ (tasks : List (Task Call Answer α β)) (count : Nat) (next : Nat -> Activity Call Answer (List β)),
      (∀ index, motive tasks (next index)) -> motive tasks (bind (order count) next))
    {tasks : List (Task Call Answer α β)} (few : tasks.length ≤ total) :
    motive tasks (interleave limit order settle tasks) := by
  -- The tasks cannot go on for ever; this is the order in which interleaving recurs.
  induction acc_laterIn tasks with
  | intro tasks _ inductionHypothesis =>
    have proceeds : ∀ index, (index < pending tasks ∨ pending tasks = 0) ->
        motive tasks (proceed limit order settle tasks index) := by
      intro index below
      unfold proceed Step.proceed
      split
      · next selected => exact finished tasks (finished_of_select below selected)
      · next request resume follows selected =>
        obtain ⟨before, task, after, later, rfl, resumes, makes⟩ := describesIn_select selected
        refine calls rfl makes (fits_of_length_le few) fun answer => ?_
        rw [← resumes answer]
        exact inductionHypothesis _ (follows answer) (by simpa [resumes] using few)
      · next later follows selected =>
        obtain ⟨before, task, after, next, rfl, rfl, takes⟩ := describesIn_select selected
        exact turns takes (fits_of_length_le few) (inductionHypothesis _ follows (by simpa using few))
    rw [interleave_eq]
    split
    · exact proceeds 0 (by omega)
    · next many =>
      refine ordered tasks _ _ fun index => proceeds _ (.inl ?_)
      have positive : 0 < min limit (pending tasks) := by omega
      exact Nat.lt_of_lt_of_le (Nat.mod_lt index positive) (Nat.min_le_right _ _)

/-- A way of interleaved tasks is a shuffle of exchanges that settle the order and of one way for each
task, which brings the task to its result. -/
theorem goes_interleave {chosen : Call -> Prop} {tasks : List (Task Call Answer α β)}
    {whole : List (Exchange Call Answer)} {values : List β}
    (orders : ∀ count, (order count).Keeps (asking Answer chosen) fun _ => True)
    (few : tasks.length ≤ total) (goes : (interleave limit order settle tasks).Goes whole values) :
    ∃ choices merged ways, TasksGo settle total tasks ways values ∧ Merges ways merged ∧
      Shuffle choices merged whole ∧ ∀ exchange ∈ choices, chosen exchange.request := by
  refine interleave_induction (motive := fun tasks activity => ∀ whole, activity.Goes whole values ->
    ∃ choices merged ways, TasksGo settle total tasks ways values ∧ Merges ways merged ∧
      Shuffle choices merged whole ∧ ∀ exchange ∈ choices, chosen exchange.request)
    ?finished ?calls ?turns ?ordered few whole goes
  case finished =>
    intro tasks finished whole goes
    obtain ⟨rfl, rfl⟩ := goes_done.mp goes
    exact ⟨[], [], _, .finished finished, .replicate_nil _, .nil, fun _ member => absurd member List.not_mem_nil⟩
  case calls =>
    intro before after task request later next number _ calls fits inductionHypothesis whole goes
    obtain ⟨answer, rest, rfl, onward⟩ := goes_call.mp goes
    obtain ⟨choices, merged, ways, go, merges, shuffle, chosen⟩ := inductionHypothesis answer rest onward
    obtain ⟨longerWays, longerGo, longerMerges⟩ := go.push (fun _ _ => calls.goes fits answer) merges
    exact ⟨choices, _, longerWays, longerGo, longerMerges, shuffle.right, chosen⟩
  case turns =>
    intro before after task later next number turns fits inductionHypothesis whole goes
    obtain ⟨choices, merged, ways, go, rest⟩ := inductionHypothesis whole goes
    exact ⟨choices, merged, ways, go.replace fun _ _ => turns.goes fits, rest⟩
  case ordered =>
    intro tasks count next inductionHypothesis whole goes
    obtain ⟨first, second, index, rfl, ordered, onward⟩ := goes_bind.mp goes
    obtain ⟨choices, merged, ways, go, merges, shuffle, chosen⟩ := inductionHypothesis index second onward
    refine ⟨first ++ choices, merged, ways, go, merges, shuffle.append_left first, ?_⟩
    exact List.forall_mem_append.mpr ⟨((orders _).goes ordered fun _ _ => trivial).1, chosen⟩

/-- What holds of all tasks holds of them with another task in the place of one if it holds of the other. -/
theorem forall_mem_replace {holds : Task Call Answer α β -> Prop} {before after : List (Task Call Answer α β)}
    {task later : Task Call Answer α β} (ofAll : ∀ other ∈ before ++ task :: after, holds other)
    (ofLater : holds later) : ∀ other ∈ before ++ later :: after, holds other := by
  rw [List.forall_mem_append, List.forall_mem_cons] at ofAll ⊢
  exact ⟨ofAll.1, ofLater, ofAll.2.2⟩

/-- Interleaved tasks keep to the terms that each of them keeps to. -/
theorem keeps_interleave {tasks : List (Task Call Answer α β)}
    (orders : ∀ count, (order count).Keeps terms fun _ => True) (few : tasks.length ≤ total)
    (keeps : ∀ task ∈ tasks, task.Keeps terms settle total ends) :
    (interleave limit order settle tasks).Keeps terms fun values => ∀ value ∈ values, ends value := by
  refine interleave_induction (motive := fun tasks activity =>
    (∀ task ∈ tasks, task.Keeps terms settle total ends) ->
      activity.Keeps terms fun values => ∀ value ∈ values, ends value)
    ?finished ?calls ?turns ?ordered few keeps
  case finished =>
    intro tasks _ keeps value member
    obtain ⟨task, member, isResult⟩ := List.mem_filterMap.mp member
    exact (keeps task member).result? isResult
  case calls =>
    intro before after task request later next number _ calls fits inductionHypothesis keeps
    obtain ⟨asks, onward⟩ := calls.keeps fits (keeps task (by simp))
    exact ⟨asks, fun answer told => inductionHypothesis answer (forall_mem_replace keeps (onward answer told))⟩
  case turns =>
    intro before after task later next number turns fits inductionHypothesis keeps
    exact inductionHypothesis (forall_mem_replace keeps (turns.keeps fits (keeps task (by simp))))
  case ordered =>
    intro tasks count next inductionHypothesis keeps
    exact keeps_bind.mpr ((orders count).mono fun index _ => inductionHypothesis index keeps)

/-- Activities side by side keep to the terms that each of them keeps to. -/
theorem keeps_sideBySide {activities : List (Activity Call Answer α)}
    (orders : ∀ count, (order count).Keeps terms fun _ => True)
    (keeps : ∀ activity ∈ activities, activity.Keeps terms fun value =>
      ∀ number, number ≤ activities.length -> (settle number value).Keeps terms ends) :
    (sideBySide limit order settle activities).Keeps terms fun values =>
      ∀ value ∈ values, ends value := by
  refine keeps_interleave orders (Nat.le_of_eq (List.length_map _)) fun task member => ?_
  obtain ⟨activity, isActivity, rfl⟩ := List.mem_map.mp member
  exact keeps activity isActivity

/-- A way of activities side by side is a shuffle of one way for each of them. -/
theorem goes_sideBySide {chosen : Call -> Prop} {activities : List (Activity Call Answer α)}
    {whole : List (Exchange Call Answer)} {values : List β}
    (orders : ∀ count, (order count).Keeps (asking Answer chosen) fun _ => True)
    (goes : (sideBySide limit order settle activities).Goes whole values) :
    ∃ choices merged ways, TasksGo settle activities.length (activities.map .working) ways values ∧
      Merges ways merged ∧ Shuffle choices merged whole ∧
      ∀ exchange ∈ choices, chosen exchange.request :=
  goes_interleave orders (Nat.le_of_eq (List.length_map _)) goes

end RepoSurvey.Activity

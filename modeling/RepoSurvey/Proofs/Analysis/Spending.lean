import RepoSurvey.Proofs.Agent.Spending
import RepoSurvey.Proofs.Analysis.Checkpoints

/-!
# What runs spend

Every question to a model is paid for by the iterations of an agent: a stage that asks for JSON has one agent with
at most two corrections, the planner one agent whose turns may be decided about, and every document a writer and a
translator. The number of documents is known when the schedule is noted, so noting it is made to pay for them:
`costs_runRequest`, from which `runRequest_bounded` draws the bound on a whole run.
-/

namespace RepoSurvey.Analysis

open Activity (Abides Costs Exchange Fares Spends asking cost costs_bind costs_done trail)
open Agent (ChatRequest iterationBound)

/-- What a model is asked by a call, if it is asked anything. -/
def Call.question? : Call -> Option ChatRequest
  | .agent (.chat request) => some request
  | _ => none

/-- What models are asked on a way. -/
def questions (way : List (Exchange Call Answer)) : List ChatRequest := trail Call.question? way

/-- The number of tasks that a call notes, if it notes a schedule. -/
def Call.scheduled? (call : Call) : Option Nat := call.landmark?.bind Landmark.tasks?

/-- The numbers of tasks that are noted on a way. -/
def schedules (way : List (Exchange Call Answer)) : List Nat := trail Call.scheduled? way

/-- The tasks that were prepared are those that were noted first. -/
theorem preparedTasks_eq (way : List (Exchange Call Answer)) :
    preparedTasks (trail Call.landmark? way) = (schedules way).headD 0 := by
  unfold preparedTasks schedules trail
  rw [List.filterMap_filterMap]
  rfl

/-- The price of a call when every question to a model costs a fee and noting a schedule costs as it says. -/
def Call.price (fee : Int) (schedule : Nat -> Int) (call : Call) : Int :=
  call.question?.elim 0 (fun _ => fee) + call.scheduled?.elim 0 schedule

section Prices

variable {fee : Int} {schedule : Nat -> Int}

/-- A call of an agent has the price that the agent pays. -/
theorem price_agent (call : Agent.Call) : (Call.agent call).price fee schedule = call.price fee := by
  cases call <;> exact Int.add_zero _

/-- To note something under a name other than that of the tasks is free. -/
theorem price_enter (run : Running) (stage : Stage) : (run.entry stage).price fee schedule = 0 := rfl

/-- To note the titles of tasks costs what noting their number does. -/
theorem price_schedule (session : String) (titles : List Json) :
    (Call.session (.updateContext session [("document_tasks", .arr titles)])).price fee schedule =
      schedule titles.length := Int.zero_add _

/-- To report progress and to write it down is free. -/
theorem price_notes {owned : String -> Prop} {url : String} {call : Call} (notes : call.Notes owned url) :
    call.price fee schedule ≤ 0 := by
  rcases notes with records | ⟨event, rfl⟩
  · cases call <;> first | exact records.elim | exact Int.le_refl 0
  · exact Int.le_refl 0

/-- A way costs its questions and its schedules. -/
theorem cost_eq (way : List (Exchange Call Answer)) : cost (Call.price fee schedule) way =
    (questions way).length * fee + ((schedules way).map schedule).sum := by
  induction way with
  | nil => simp [questions, schedules]
  | cons exchange way inductionHypothesis =>
    have asked : ((questions (exchange :: way)).length : Int) * fee =
        exchange.request.question?.elim 0 (fun _ => fee) + (questions way).length * fee := by
      unfold questions
      rw [Activity.trail_cons]
      cases exchange.request.question? with
      | none => simp
      | some request => simp [Int.add_mul, Int.add_comm]
    have noted : ((schedules (exchange :: way)).map schedule).sum =
        exchange.request.scheduled?.elim 0 schedule + ((schedules way).map schedule).sum := by
      unfold schedules
      rw [Activity.trail_cons]
      cases exchange.request.scheduled? <;> simp
    rw [Activity.cost_cons, inductionHypothesis, asked, noted, Call.price]
    omega

end Prices

/-! ## Conversations -/

/-- What an agent of a run spends at most on replies. -/
def Context.budget (context : Context) (fee : Int) : Int :=
  (iterationBound (some context.maxIterations)).toNat * fee

/-- What an agent of a run spends at most, if it may make an iteration at all. -/
theorem Context.budget_eq {context : Context} (bounded : 1 ≤ context.maxIterations) (fee : Int) :
    context.budget fee = context.maxIterations * fee := by
  have bound : iterationBound (some context.maxIterations) = context.maxIterations := by
    unfold iterationBound
    split <;> simp_all
  rw [Context.budget, bound, Int.toNat_of_nonneg (by omega)]

section Conversations

variable {fee : Int} {schedule : Nat -> Int} (nonnegative : 0 ≤ fee) {context : Context} {checkout : Files.Checkout}

include nonnegative

/-- What an agent spends at most is not negative. -/
theorem Context.budget_nonneg (context : Context) : 0 ≤ context.budget fee :=
  Int.mul_nonneg (Int.natCast_nonneg _) nonnegative

/-- An agent spends no more than its iterations. -/
theorem spends_carryOut (profile : Agent.Profile) (task : Agent.Task) :
    Spends (Call.price fee schedule) (profile.maxIterations.toNat * task.iterationFee fee)
      (carryOut profile task) := by
  have same : (fun call => (Call.agent call).price fee schedule) = Agent.Call.price fee := funext price_agent
  refine costs_bind (Activity.costs_embed (same ▸ Agent.costs_execute nonnegative false)) fun outcome => ?_
  cases outcome <;> exact costs_done (Int.le_of_eq (Int.sub_self _).symm)

/-- An agent of a run that is asked for JSON spends its budget at most. -/
theorem spends_json (key : String) (task : Agent.Task) (json : task.jsonOutput = true) :
    Spends (Call.price fee schedule) (context.budget fee) (carryOut (context.agent key) task) := by
  have work : Spends (Call.price fee schedule) _ _ := spends_carryOut nonnegative (context.agent key) task
  rwa [Agent.Task.iterationFee, if_pos json] at work

/-- Every correction takes an agent's budget at most. -/
theorem spends_extract (key role : String) (withTools : Bool) (remaining : Nat) (reply : String)
    (history : List Chat.Message) : Spends (Call.price fee schedule) (remaining * context.budget fee)
      (Reply.extract (correct (context.agent key) role withTools) remaining reply history) := by
  have budget := context.budget_nonneg nonnegative
  induction remaining generalizing reply history with
  | zero =>
    unfold Reply.extract
    split <;> exact Activity.spends_pure _ (by simp)
  | succ remaining inductionHypothesis =>
    have left : 0 ≤ (remaining : Int) * context.budget fee := Int.mul_nonneg (Int.natCast_nonneg _) budget
    have corrected : ∀ correction, Spends (Call.price fee schedule) (context.budget fee)
        (correct (context.agent key) role withTools correction history) := fun _ =>
      (spends_json nonnegative key _ rfl).andFree fun _ => Activity.spends_pure _ (Int.le_refl 0)
    rw [Nat.cast_succ, Int.add_mul, Int.one_mul, Int.add_comm]
    unfold Reply.extract
    split
    · exact Activity.spends_pure _ (by omega)
    · dsimp only
      split
      · exact (corrected _).andThen (fun _ => inductionHypothesis _ _) left
      · exact Activity.spends_pure _ (by omega)

/-- An agent of a run that is not asked for JSON spends its budget twice at most. -/
theorem spends_prose (key : String) (task : Agent.Task) (free : task.jsonOutput = false) :
    Spends (Call.price fee schedule) (2 * context.budget fee) (carryOut (context.agent key) task) := by
  have work : Spends (Call.price fee schedule) _ _ := spends_carryOut nonnegative (context.agent key) task
  rw [Agent.Task.iterationFee, if_neg (by simp [free])] at work
  rwa [Context.budget, Int.mul_left_comm]

omit nonnegative in
/-- To render a prompt is free. -/
theorem spends_rendered (name : String) (values : List (String × String)) :
    Spends (Call.price fee schedule) 0 (rendered context name values) :=
  Fares.spends (fares_rendered name values)

omit nonnegative in
/-- To draw a key is free. -/
theorem spends_drawKey : Spends (Call.price fee schedule) 0 drawKey :=
  Fares.spends (fares_drawKey (Int.le_refl 0) : Abides _ _)

omit nonnegative in
/-- To put a system prompt together is free. -/
theorem spends_systemPrompt (withEnvironment : Bool) (role : String) :
    Spends (Call.price fee schedule) 0 (systemPrompt context checkout withEnvironment role) :=
  Fares.spends (fares_systemPrompt (Int.le_refl 0) withEnvironment role : Abides _ _)

omit nonnegative in
/-- To record what an agent did is free. -/
theorem spends_recordIn (session : Option String) (stage : Stage) (outcome : Agent.Outcome) :
    Spends (Call.price fee schedule) 0 (recordIn session stage outcome) :=
  Fares.spends (fares_recordIn (fun _ _ _ _ => Int.le_refl 0) (fun _ _ _ _ _ => Int.le_refl 0) stage outcome : Abides _ _)

/-- Whoever asks for JSON spends the budget of the first agent and of two corrections at most. -/
theorem spends_askForJson (inquiry : Inquiry) : Spends (Call.price fee schedule) (3 * context.budget fee)
    (askForJson context checkout inquiry) := by
  have budget := context.budget_nonneg nonnegative
  refine (spends_rendered _ _).after (fun prompt => ?_) (by omega)
  refine spends_drawKey.after (fun key => ?_) (by omega)
  refine (spends_systemPrompt _ _).after (fun system => ?_) (by omega)
  have parts : 3 * context.budget fee = context.budget fee + 2 * context.budget fee := by omega
  rw [parts]
  refine (spends_json nonnegative key _ rfl).andThen (fun outcome => ?_) (by omega)
  refine (spends_recordIn _ _ _).after (fun _ => ?_) (by omega)
  split
  · refine (spends_extract nonnegative key _ _ Reply.correctionLimit _ _).andFree fun found => ?_
    obtain ⟨extraction, history⟩ := found
    cases extraction with
    | ok value => exact Activity.spends_pure _ (Int.le_refl 0)
    | error failure =>
      dsimp only
      split <;> exact Activity.spends_throw _ (Int.le_refl 0)
  · exact Activity.spends_throw _ (by omega)

/-- Whoever asks for a record asks for JSON. -/
theorem spends_askForRecord {α : Type} (inquiry : Inquiry) (recordName : String) (codec : Schema.Codec α) :
    Spends (Call.price fee schedule) (3 * context.budget fee)
      (askForRecord context checkout inquiry recordName codec) := by
  refine (spends_askForJson nonnegative inquiry).andFree fun value => ?_
  split
  · exact Activity.spends_pure _ (Int.le_refl 0)
  · exact Activity.spends_throw _ (Int.le_refl 0)

/-- Whoever asks for tasks asks for JSON. -/
theorem spends_askForTasks (plan : String) (features : Features) (session : Option String) :
    Spends (Call.price fee schedule) (3 * context.budget fee)
      (askForTasks context checkout plan features session) := by
  refine (spends_askForJson nonnegative _).andFree fun value => ?_
  split
  · exact Activity.spends_pure _ (Int.le_refl 0)
  · exact Activity.spends_throw _ (Int.le_refl 0)

/-- Whoever asks for a plan spends the budget of an agent on replies and on decisions about its turns at most. -/
theorem spends_askForPlan (values : List (String × String)) (session : Option String) :
    Spends (Call.price fee schedule) (2 * context.budget fee)
      (askForPlan context checkout values session) := by
  have budget := context.budget_nonneg nonnegative
  refine (spends_rendered _ _).after (fun prompt => ?_) (by omega)
  refine spends_drawKey.after (fun key => ?_) (by omega)
  refine (spends_systemPrompt _ _).after (fun system => ?_) (by omega)
  refine (spends_prose nonnegative key _ rfl).andFree fun outcome => ?_
  refine (spends_recordIn _ _ _).andFree fun _ => ?_
  split
  · exact Activity.spends_pure _ (Int.le_refl 0)
  · exact Activity.spends_throw _ (Int.le_refl 0)

end Conversations

/-! ## Documents -/

section Documents

variable {fee : Int} {schedule : Nat -> Int} (nonnegative : 0 ≤ fee) {context : Context} {batch : Batch}

/-- To require a document in a reply is free. -/
theorem spends_requireDocument (reply : Json) (label : String) :
    Spends (Call.price fee schedule) 0 (requireDocument reply label) :=
  (fares_requireDocument reply label).spends

include nonnegative

/-- A document takes a writer and a translator. -/
theorem spends_composeDocument (task : DocumentTask) :
    Spends (Call.price fee schedule) (6 * context.budget fee) (composeDocument context batch task) := by
  have budget := context.budget_nonneg nonnegative
  have parts : 6 * context.budget fee = 3 * context.budget fee + 3 * context.budget fee := by omega
  rw [parts]
  refine (spends_askForJson nonnegative _).andThen (fun written => ?_) (by omega)
  refine (spends_requireDocument _ _).after (fun document => ?_) (by omega)
  refine (spends_askForJson nonnegative _).andFree fun translated => ?_
  exact (spends_requireDocument _ _).andFree fun _ => Activity.spends_pure _ (Int.le_refl 0)

/-- To attempt a document costs what it takes to compose it. -/
theorem costs_attemptDocument (task : DocumentTask) (docName : String) :
    Costs (Call.price fee schedule) (fun _ => 6 * context.budget fee)
      (attemptDocument context batch task docName) := by
  have saved : ∀ content language, Spends (Call.price fee schedule) 0
      (saveDocument batch.projectKey docName content language) := fun _ _ =>
    Fares.spends (abides_accepted ⟨Int.le_refl 0, fun _ _ => trivial⟩)
  have discarded : Spends (Call.price fee schedule) 0 (discardDrafts batch.projectKey (some docName)) :=
    Fares.spends (abides_accepted ⟨Int.le_refl 0, fun _ _ => trivial⟩)
  have written : Spends (Call.price fee schedule) (6 * context.budget fee)
      (writeDocument context batch task docName) :=
    (spends_composeDocument nonnegative task).andFree fun manuscript =>
      ((saved _ _).andFree fun _ => saved _ _).andFree fun _ => Activity.spends_pure _ (Int.le_refl 0)
  refine costs_bind written fun outcome => ?_
  rw [Int.sub_self]
  cases outcome with
  | ok document => exact costs_done (Int.le_refl 0)
  | error problem => exact costs_bind discarded fun _ => costs_done (Int.le_refl 0)

/-- Documents cost what it takes to compose each of them, in whatever order they are worked on. -/
theorem costs_writeAll {tell : Nat -> Nat -> Attempt Unit} {tasks : List DocumentTask}
    (tells : ∀ count total, Spends (Call.price fee schedule) 0 (tell count total)) :
    Costs (Call.price fee schedule) (fun _ => tasks.length * (6 * context.budget fee))
      (writeAll context batch tell tasks) := by
  have budget := context.budget_nonneg nonnegative
  have settled : ∀ number value, Costs (Call.price fee schedule) (fun _ => 0)
      (settleDocument tell tasks.length number value) := fun number value =>
    costs_bind (tells number tasks.length) fun told => by cases told <;> exact costs_done (Int.le_refl 0)
  have chosen : ∀ count, (choose count).Keeps
      (asking Answer fun call => call.price fee schedule ≤ 0) fun _ => True :=
    fun _ => ⟨Int.le_refl 0, fun _ _ => trivial⟩
  refine costs_bind (Activity.costs_sideBySide settled (fun activity member => ?_) chosen) fun outcomes =>
    costs_done (Int.sub_nonneg_of_le (Int.mul_le_mul_of_nonneg_right ?_ (by omega)))
  · obtain ⟨⟨task, docName⟩, -, rfl⟩ := List.mem_map.mp member
    exact costs_attemptDocument nonnegative task docName
  · simp

end Documents

/-! ## Stages -/

/-- What the documents of a number of tasks cost at most. -/
def Context.share (context : Context) (fee : Int) (tasks : Nat) : Int := tasks * (6 * context.budget fee)

/-- What documents cost is not negative. -/
theorem Context.share_nonneg (context : Context) {fee : Int} (nonnegative : 0 ≤ fee) (tasks : Nat) :
    0 ≤ context.share fee tasks := by
  have budget := context.budget_nonneg nonnegative
  exact Int.mul_nonneg (Int.natCast_nonneg _) (by omega)

/-- No documents cost nothing. -/
theorem Context.share_zero (context : Context) (fee : Int) : context.share fee 0 = 0 := Int.zero_mul _

/-- The number of tasks that a stage came to, which is none if it failed. -/
def taskCount {α : Type} (tasks : α -> List DocumentTask) (outcome : Option α) : Nat :=
  outcome.elim 0 fun value => (tasks value).length

section Stages

variable {α : Type} {fee : Int} {schedule : Nat -> Int} {stage : Stage} {attempt : Attempt α} {limit : Option α -> Int}

/-- What is done during a stage costs what it would otherwise. -/
theorem costs_during
    (costs : Costs (Call.price fee schedule) (fun outcome => limit outcome.toOption) attempt.run) :
    Costs (Call.price fee schedule) (fun outcome => limit outcome.toOption) (during stage attempt).run := by
  rw [run_during]
  refine costs_bind costs fun outcome => ?_
  cases outcome <;> exact costs_done (Int.le_of_eq (Int.sub_self _).symm)

/-- To enter a stage costs nothing beside what is done in it. -/
theorem costs_entering {run : Running}
    (costs : Costs (Call.price fee schedule) (fun outcome => limit outcome.toOption) attempt.run) :
    Costs (Call.price fee schedule) (fun outcome => limit outcome.toOption) (run.entering stage attempt).run := by
  intro way outcome goes
  obtain ⟨answer, rest, rfl, onward⟩ := Running.goes_entering_iff.mp goes
  rw [Activity.cost_cons, price_enter, Int.zero_add]
  exact costs_during costs rest outcome onward

/-- What is done during a stage spends what it would otherwise. -/
theorem spends_during {enough : Int} (spends : Spends (Call.price fee schedule) enough attempt) :
    Spends (Call.price fee schedule) enough (during stage attempt) :=
  @costs_during _ _ _ _ _ (fun _ => enough) spends

/-- To enter a stage spends nothing beside what is done in it. -/
theorem spends_entering {run : Running} {enough : Int} (spends : Spends (Call.price fee schedule) enough attempt) :
    Spends (Call.price fee schedule) enough (run.entering stage attempt) :=
  @costs_entering _ _ _ _ _ (fun _ => enough) _ spends

/-- To report progress is free. -/
theorem spends_emit (run : Running) (context : Context) (stage : String) (progress : Int) :
    Spends (Call.price fee schedule) 0 (run.emit context stage progress) :=
  (abides_emit (fun _ => price_notes) stage progress).spends

namespace Running

variable {run : Running} {context : Context}

/-- The survey of a checkout is free. -/
theorem spends_inspect : Spends (Call.price fee schedule) 0 (run.inspect context) := by
  have layout : Spends (Call.price fee schedule) 0 (layoutOf run.checkout) := by
    unfold layoutOf
    split
    · exact Activity.spends_throw _ (Int.le_refl 0)
    · exact Activity.spends_pure _ (Int.le_refl 0)
  have dependencies : Spends (Call.price fee schedule) 0 (declaredDependencies run.checkout) := by
    unfold declaredDependencies
    split
    · exact Activity.spends_pure _ (Int.le_refl 0)
    · exact Activity.spends_throw _ (Int.le_refl 0)
  refine layout.andFree fun layout => (spends_emit _ _ _ _).andFree fun _ => ?_
  refine dependencies.andFree fun dependencies => (spends_emit _ _ _ _).andFree fun _ => ?_
  exact (spends_emit _ _ _ _).andFree fun _ => Activity.spends_pure _ (Int.le_refl 0)

/-- To assemble and publish documents is free. -/
theorem spends_assemblingStage (written : WriteReport) :
    Spends (Call.price fee schedule) 0 (run.assemblingStage context written) := by
  have saved : ∀ name content language, Spends (Call.price fee schedule) 0
      (saveDocument run.projectKey name content language) := fun _ _ _ =>
    Fares.spends (abides_accepted ⟨Int.le_refl 0, fun _ _ => trivial⟩)
  have sidebars : Spends (Call.price fee schedule) 0 (saveSidebars context run.projectKey written.written) := by
    unfold saveSidebars
    split
    · exact Activity.spends_throw _ (Int.le_refl 0)
    · exact (saved _ _ _).andFree fun _ => saved _ _ _
  have published : Spends (Call.price fee schedule) 0 (publishDrafts run.projectKey) :=
    (abides_publishDrafts (Int.le_refl 0) (Int.le_refl 0)).spends
  refine sidebars.andFree fun _ => (spends_emit _ _ _ _).andFree fun _ => ?_
  exact published.andFree fun _ => Activity.spends_pure _ (Int.le_refl 0)

/-- The stages after the writing of documents are free. -/
theorem spends_publish (findings : Findings) (preparation : Preparation) (written : WriteReport) :
    Spends (Call.price fee schedule) 0 (run.publish context findings preparation written) := by
  have timed : Spends (Call.price fee schedule) 0 present :=
    Fares.spends (fares_anyPresent (Int.le_refl 0) : Abides _ _)
  have result : Spends (Call.price fee schedule) 0 (run.result findings preparation written) :=
    timed.andFree fun _ => Activity.spends_pure _ (Int.le_refl 0)
  have kept : ∀ result, Spends (Call.price fee schedule) 0 (run.keep context result) := fun _ =>
    Fares.spends (abides_accepted ⟨Int.le_refl 0, fun _ _ => trivial⟩)
  have completed : Spends (Call.price fee schedule) 0 (run.complete context) := spends_emit run context _ _
  refine (spends_entering (run.spends_assemblingStage written)).andFree fun _ => ?_
  refine (spends_during result).andFree fun result => ?_
  refine (spends_during (kept result)).andFree fun _ => ?_
  exact (spends_entering completed).andFree fun _ => Activity.spends_pure _ (Int.le_refl 0)

variable {total : Int} (nonnegative : 0 ≤ fee)

include nonnegative

/-- A stage that asks for a record spends what asking for it does. -/
theorem spends_asking {β : Type} (inquiry : Inquiry) (recordName : String) (codec : Schema.Codec β)
    (event : β -> String) (progress : Int) :
    Spends (Call.price fee schedule) (3 * context.budget fee) (do
      let found <- askForRecord context run.checkout inquiry recordName codec
      run.emit context (event found) progress
      pure found) :=
  (spends_askForRecord nonnegative inquiry recordName codec).andFree fun _ =>
    (spends_emit _ _ _ _).andFree fun _ => Activity.spends_pure _ (Int.le_refl 0)

/-- Planning spends what asking for a plan does. -/
theorem spends_planningStage (overview : Overview) (features : Features) :
    Spends (Call.price fee schedule) (2 * context.budget fee) (run.planningStage context overview features) :=
  (spends_askForPlan nonnegative _ _).andFree fun _ =>
    (spends_emit _ _ _ _).andFree fun _ => Activity.spends_pure _ (Int.le_refl 0)

/-- Writing spends the share of its tasks at most. -/
theorem spends_writingStage (preparation : Preparation) :
    Spends (Call.price fee schedule) (context.share fee preparation.tasks.length)
      (run.writingStage context preparation) := by
  have share := context.share_nonneg nonnegative preparation.tasks.length
  have written : Spends (Call.price fee schedule) (context.share fee preparation.tasks.length)
      (Attempt.certain (writeAll context (run.batch preparation.overview) (run.tellWritten context)
        preparation.tasks)) :=
    costs_bind (costs_writeAll nonnegative fun _ _ => spends_emit _ _ _ _) fun _ =>
      costs_done (Int.le_of_eq (Int.sub_self _).symm)
  refine (spends_emit _ _ _ _).after (fun _ => written.andFree fun report => ?_) share
  split
  · exact Activity.spends_throw _ (Int.le_refl 0)
  · exact Activity.spends_pure _ (Int.le_refl 0)

variable (enough : 0 ≤ total) (pays : ∀ tasks, schedule tasks + context.share fee tasks ≤ total)

include enough pays

/-- What scheduling spends leaves the share of the tasks that were noted. -/
theorem costs_schedulingStage (plan : String) (features : Features) : Costs (Call.price fee schedule)
    (fun outcome => 3 * context.budget fee + total - context.share fee (taskCount id outcome.toOption))
    (run.schedulingStage context plan features).run := by
  have none := context.share_zero fee
  refine Activity.costs_then (spends_askForTasks nonnegative plan features (some run.session))
    (fun planned => ?_) fun problem => ?_
  · dsimp only
    generalize prepareTasks planned features = tasks
    have paid := pays tasks.length
    have share := context.share_nonneg nonnegative tasks.length
    have noted : Costs (Call.price fee schedule) (fun _ => schedule tasks.length) (updateSession run.session
        [("document_tasks", .arr (tasks.map fun task => .str task.title))]).run := by
      intro way outcome goes
      obtain ⟨answer, asked, rfl⟩ := goes_certain.mp goes
      obtain rfl := Activity.goes_ask.mp asked
      rw [Activity.cost_cons, price_schedule, List.length_map, Activity.cost_nil, Int.add_zero]
    refine Activity.costs_then noted (fun _ => ?_) fun problem => ?_
    · refine Activity.costs_then (spends_emit _ _ _ _) (fun _ => costs_done ?_) fun problem => ?_
      · change 0 ≤ 3 * context.budget fee + total - context.share fee tasks.length - 3 * context.budget fee -
          schedule tasks.length - 0
        omega
      · change 0 ≤ 3 * context.budget fee + total - context.share fee 0 - 3 * context.budget fee -
          schedule tasks.length
        omega
    · change schedule tasks.length ≤ 3 * context.budget fee + total - context.share fee 0 - 3 * context.budget fee
      omega
  · change 3 * context.budget fee ≤ 3 * context.budget fee + total - context.share fee 0
    omega

/-- What the preparation of documents spends leaves the share of the tasks that were prepared. -/
theorem costs_prepare (findings : Findings) : Costs (Call.price fee schedule)
    (fun outcome => 14 * context.budget fee + total -
      context.share fee (taskCount Preparation.tasks outcome.toOption))
    (run.prepare context findings).run := by
  have budget := context.budget_nonneg nonnegative
  have none := context.share_zero fee
  refine Activity.costs_then (spends_entering (spends_asking nonnegative _ _ _ _ _)) (fun overview => ?_) fun stop => ?_
  refine Activity.costs_then (spends_entering (spends_asking nonnegative _ _ _ _ _)) (fun graph => ?_) fun stop => ?_
  refine Activity.costs_then (spends_entering (spends_asking nonnegative _ _ _ _ _)) (fun features => ?_) fun stop => ?_
  refine Activity.costs_then (spends_entering (spends_planningStage nonnegative _ _)) (fun plan => ?_) fun stop => ?_
  have scheduled : Costs (Call.price fee schedule)
      (fun outcome => 3 * context.budget fee + total - context.share fee (taskCount id outcome.toOption))
      (run.entering .scheduling (run.schedulingStage context plan features)).run :=
    @costs_entering _ _ _ _ _ (fun outcome => 3 * context.budget fee + total -
      context.share fee (taskCount id outcome)) run (costs_schedulingStage nonnegative enough pays plan features)
  refine Activity.costs_then scheduled (fun tasks => costs_done ?_) fun stop => ?_
  all_goals
    simp only [taskCount, Except.toOption, Option.elim_some, Option.elim_none, id, none]
    omega

/-- What a run does once it has begun spends what its stages do. -/
theorem spends_advance :
    Spends (Call.price fee schedule) (14 * context.budget fee + total) (run.advance context) := by
  have budget := context.budget_nonneg nonnegative
  have none := context.share_zero fee
  refine (spends_during run.spends_inspect).after (fun findings => ?_) (by omega)
  refine Activity.costs_then (costs_prepare nonnegative enough pays findings) (fun preparation => ?_) fun stop => ?_
  · refine Costs.mono ((spends_entering (spends_writingStage nonnegative preparation)).andFree fun written =>
      run.spends_publish findings preparation written) fun _ => ?_
    change context.share fee preparation.tasks.length ≤ 14 * context.budget fee + total -
      (14 * context.budget fee + total - context.share fee preparation.tasks.length)
    omega
  · change 14 * context.budget fee + total - context.share fee 0 ≤ 14 * context.budget fee + total
    omega

end Running

end Stages

/-! ## Runs -/

section Runs

variable {fee total : Int} {schedule : Nat -> Int} {context : Context} {listening : Listening} {request : Request}
  (nonnegative : 0 ≤ fee) (enough : 0 ≤ total) (pays : ∀ tasks, schedule tasks + context.share fee tasks ≤ total)

include nonnegative enough pays

/-- A run in a session spends what its stages do. -/
theorem spends_outcome (session : String) : Spends (Call.price fee schedule)
    (14 * context.budget fee + total) ((runIn context listening request session).outcome context) := by
  have budget := context.budget_nonneg nonnegative
  have commenced : Spends (Call.price fee schedule) 0
      ((runIn context listening request session).commence context) :=
    (abides_commencing (tells_anything fun _ => price_notes) (Int.le_refl 0)).spends
  have course : Spends (Call.price fee schedule) (14 * context.budget fee + total)
      ((runIn context listening request session).course context) :=
    (spends_during commenced).after (fun _ => Running.spends_advance nonnegative enough pays) (by omega)
  refine costs_bind course fun outcome => ?_
  rw [Int.sub_self]
  cases outcome with
  | ok result => exact costs_done (Int.le_refl 0)
  | error stop => exact (abides_abandoning (tells_anything fun _ => price_notes) (Int.le_refl 0) stop).spends

/-- A request spends what its run does. -/
theorem spends_runRequest : Spends (Call.price fee schedule) (14 * context.budget fee + total)
    (runRequest context listening request) := by
  have budget := context.budget_nonneg nonnegative
  have looked : Spends (Call.price fee schedule) 0 (lookUp (context.checkout request.repositoryPath) request) :=
    (abides_looking (Int.le_refl 0)).spends
  have all : 0 ≤ 14 * context.budget fee + total := by omega
  refine costs_bind looked fun found => ?_
  rw [Int.sub_zero]
  rcases found with problem | (- | value)
  · have rejected : Spends (Call.price fee schedule) 0 (rejectRun context listening request problem) :=
      ((abides_reportFailure (fun _ => price_notes) _).andThen fun _ => Activity.abides_throw _).spends
    exact Costs.mono rejected fun _ => all
  · have created : Spends (Call.price fee schedule) 0
        (createSession sessionGoal (context.checkout request.repositoryPath).path.text) :=
      (abides_createSession (Int.le_refl 0) fun _ => Int.le_refl 0).spends
    refine created.after (fun session => ?_) all
    have closed : Spends (Call.price fee schedule) 0 (closeSession session) :=
      Fares.spends (fares_session (Int.le_refl 0) : Abides _ _)
    refine costs_bind (spends_outcome nonnegative enough pays session) fun outcome => ?_
    rw [Int.sub_self]
    exact costs_bind closed fun _ => costs_done (Int.le_refl 0)
  · exact Costs.mono (abides_returning (tells_anything fun _ => price_notes) value).spends fun _ => all

end Runs

section Bounds

variable {context : Context} {listening : Listening} {request : Request} {way : List (Exchange Call Answer)}
  {outcome : Except Problem Result}

/-- A run notes one schedule at most. -/
theorem schedules_le_one (goes : (runRequest context listening request).run.Goes way outcome) :
    (schedules way).length ≤ 1 := by
  have free : ∀ tasks, (1 : Int) + context.share 0 tasks ≤ 1 := by simp [Context.share, Context.budget]
  have spent := spends_runRequest (Int.le_refl 0) (by decide) free way outcome goes
  rw [cost_eq] at spent
  simpa [Context.budget] using spent

/-- Every way of an attempt that spends so many budgets asks so many times the iterations of an agent at most. -/
theorem questions_le_of_spends {α : Type} {attempt : Attempt α} {agents : Int} {outcome : Except Problem α}
    (bounded : 1 ≤ context.maxIterations)
    (spends : Spends (Call.price 1 fun _ => 0) (agents * context.budget 1) attempt)
    (goes : attempt.run.Goes way outcome) : (questions way).length ≤ agents * context.maxIterations := by
  have spent := spends way outcome goes
  rw [cost_eq, context.budget_eq bounded] at spent
  simpa using spent

/-- **What runs ask.** A run ends among any surroundings. It asks models no more than fourteen times the iterations
of an agent, and six times them for each prepared task, whatever is answered. Whoever asks for JSON does so three
times the iterations at most, with all corrections, and the planner twice, with all decisions about its turns. -/
theorem runRequest_bounded {σ : Type} (surroundings : Surroundings σ) (context : Context) (listening : Listening)
    (request : Request) (world : World σ) (bounded : 1 ≤ context.maxIterations) :
    let way := runExchanges surroundings context listening request world
    (∃ outcome after, World.run surroundings (runRequest context listening request).run world = (outcome, after) ∧
        (runRequest context listening request).run.Goes way outcome) ∧
      (questions way).length ≤
        (14 + 6 * preparedTasks (trail Call.landmark? way) : Int) * context.maxIterations ∧
      (∀ checkout inquiry stageWay outcome, (askForJson context checkout inquiry).run.Goes stageWay outcome ->
        (questions stageWay).length ≤ 3 * context.maxIterations) ∧
      ∀ checkout values session stageWay outcome,
        (askForPlan context checkout values session).run.Goes stageWay outcome ->
          (questions stageWay).length ≤ 2 * context.maxIterations := by
  intro way
  have goes : (runRequest context listening request).run.Goes way _ := Activity.goes_run _ world
  refine ⟨⟨_, _, rfl, goes⟩, ?_, ?_, ?_⟩
  · have pays : ∀ tasks : Nat, -context.share 1 tasks + context.share 1 tasks ≤ 0 := by simp
    have spent := spends_runRequest Int.one_nonneg (Int.le_refl 0) pays way _ goes
    have single := schedules_le_one goes
    rw [cost_eq, context.budget_eq bounded] at spent
    rw [preparedTasks_eq]
    generalize schedules way = noted at single spent
    match noted, single with
    | [], _ =>
      simp only [List.map_nil, List.sum_nil, List.headD_nil] at spent ⊢
      push_cast
      linarith
    | [tasks], _ =>
      simp only [List.map_cons, List.map_nil, List.sum_singleton, List.headD_cons, Context.share,
        context.budget_eq bounded] at spent ⊢
      linarith
  · intro checkout inquiry stageWay outcome asked
    exact questions_le_of_spends bounded (spends_askForJson Int.one_nonneg inquiry) asked
  · intro checkout values session stageWay outcome asked
    exact questions_le_of_spends bounded (spends_askForPlan Int.one_nonneg values session) asked

/-- The run over an empty repository prepares one task and asks its models no more than twenty times. -/
theorem emptyRun_bounded : (1 : Int) ≤ emptyContext.maxIterations ∧
    preparedTasks (trail Call.landmark? (emptyExchanges emptyReplies)) = 1 ∧
    (questions (emptyExchanges emptyReplies)).length ≤ 20 := by
  have bounded : (1 : Int) ≤ emptyContext.maxIterations := by decide
  obtain ⟨served, result, returns, documents, noFailures⟩ := emptyRun_returns
  obtain ⟨goes, answered⟩ := way_of_run (Prod.ext returns rfl)
  have legs := (completed_of_goes (findsNoResult_of_get rfl) goes answered served).1
  have prepared : preparedTasks (trail Call.landmark? (emptyExchanges emptyReplies)) = 1 := by
    refine (congrArg preparedTasks legs).trans ((preparedTasks_legs _ _).trans ?_)
    rw [noFailures, ← List.length_map (·.docName), documents]
    rfl
  have within := (runRequest_bounded (.reciting fun _ => none) emptyContext ⟨true⟩ (emptyRequest .full)
    (.untouched emptyReplies) bounded).2.1
  change _ ≤ (14 + 6 * (preparedTasks (trail Call.landmark? (emptyExchanges emptyReplies)) : Int)) * 1 at within
  rw [prepared] at within
  exact ⟨bounded, prepared, Int.ofNat_le.mp within⟩

end Bounds

end RepoSurvey.Analysis

import RepoSurvey.Proofs.Analysis.Failures

/-!
# The checkpoints of runs

The percentages that a listener hears of are told by the number of prepared tasks alone, in whatever order the
tasks settle. A run that is completed passes all checkpoints, and one that stops passes those before the stage
that stops it, and then reports nothing but zero: `runRequest_checkpoints`.
-/

namespace RepoSurvey.Analysis

open Activity (Answered Exchange Leaves trail)
open Clock (Moment)

/-- The percentage that a call reports to the listener. -/
def Call.percentage? : Call -> Option Int
  | .report event => some event.progress
  | _ => none

/-- The percentages that are reported to the listener on a way. -/
def percentages (way : List (Exchange Call Answer)) : List Int := trail Call.percentage? way

/-- The percentage that is heard of. -/
def Landmark.percentage? : Landmark -> Option Int
  | .reported progress => some progress
  | _ => none

/-- The number of tasks that is noted. -/
def Landmark.tasks? : Landmark -> Option Nat
  | .scheduled tasks => some tasks
  | _ => none

/-- The number of tasks that were prepared, which is none before it is noted. -/
def preparedTasks (landmarks : List Landmark) : Nat := (landmarks.filterMap Landmark.tasks?).headD 0

/-- The percentages of a completed run with some number of tasks. -/
def checkpoints (tasks : Nat) : List Int :=
  [5, 10, 15, 20, 30, 40, 50, 60, 70, 80] ++
    ((List.range' 1 tasks).map fun number => Running.writingProgress number tasks) ++ [97, 100]

/-- How many checkpoints a run with some number of tasks has passed when it stops. -/
def Stop.passed (tasks : Nat) (stop : Stop) : Nat :=
  match stop.reached with
  | .notStarted => if stop.problem.isManifest then 2 else 1
  | .overview => 4
  | .dependencies => 5
  | .coreFeatures => 6
  | .planning => 7
  | .scheduling => 8
  | .writing | .assembling => 10 + tasks
  | .published => 11 + tasks
  | .failed => 0

/-- The checkpoints until all tasks are settled. -/
theorem take_checkpoints (tasks : Nat) : (checkpoints tasks).take (10 + tasks) =
    [5, 10, 15, 20, 30, 40, 50, 60, 70, 80] ++
      (List.range' 1 tasks).map fun number => Running.writingProgress number tasks :=
  List.take_left' (by rw [List.length_append, List.length_map, List.length_range']; rfl)

/-! ## Percentages of landmarks -/

/-- A call reports a percentage exactly if it is a landmark that does. -/
theorem Call.percentage?_eq (call : Call) : call.percentage? = call.landmark?.bind Landmark.percentage? := by
  unfold percentage? landmark?
  split
  · rfl
  · next noReport =>
    split
    · rfl
    · rfl
    · next event => exact absurd rfl (noReport event)
    · rfl

/-- The percentages of a way are those of its landmarks. -/
theorem percentages_eq (way : List (Exchange Call Answer)) :
    percentages way = (trail Call.landmark? way).filterMap Landmark.percentage? := by
  unfold percentages trail
  rw [List.filterMap_filterMap]
  exact congrArg (List.filterMap · way) (funext fun exchange => exchange.request.percentage?_eq)

section Listeners

variable {listening : Listening} {tasks : Nat}

/-- What is heard of is no number of tasks. -/
@[simp] theorem tasks_heard (listening : Listening) (progress : Int) :
    (listening.heard progress).filterMap Landmark.tasks? = [] := by
  unfold Listening.heard
  split <;> rfl

/-- Tasks that settle are no number of tasks. -/
@[simp] theorem tasks_settled (listening : Listening) (tasks : Nat) :
    (listening.settled tasks).filterMap Landmark.tasks? = [] := by
  unfold Listening.settled
  simp [List.filterMap_flatMap]

/-- The tasks of a completed run were prepared. -/
theorem preparedTasks_legs (listening : Listening) (tasks : Nat) :
    preparedTasks (listening.legs tasks Stage.route) = tasks := by
  have noted : (listening.legs tasks Stage.route).filterMap Landmark.tasks? = [tasks] := by
    simp [Listening.legs, Stage.route, Listening.leg, List.filterMap_cons, Landmark.tasks?]
  rw [preparedTasks, noted]
  rfl

/-- The tasks of a run that stops in writing were prepared. -/
theorem preparedTasks_writing (listening : Listening) (tasks : Nat) :
    preparedTasks (listening.legs tasks Stage.writing.before ++ listening.leg tasks .writing) = tasks := by
  have noted : (listening.legs tasks Stage.writing.before ++ listening.leg tasks .writing).filterMap
      Landmark.tasks? = [tasks] := by
    simp [Listening.legs, Stage.before, Stage.route, Listening.leg, List.filterMap_cons, Landmark.tasks?]
  rw [preparedTasks, noted]
  rfl

variable (listens : listening.hasListener = true)

include listens

/-- A listener hears of the percentage. -/
theorem percentages_heard (progress : Int) :
    (listening.heard progress).filterMap Landmark.percentage? = [progress] := by
  unfold Listening.heard
  rw [if_pos listens]
  rfl

/-- A listener hears of each task that settles. -/
theorem percentages_settled (tasks : Nat) :
    (listening.settled tasks).filterMap Landmark.percentage? =
      (List.range' 1 tasks).map fun number => Running.writingProgress number tasks := by
  unfold Listening.settled
  rw [List.filterMap_flatMap, List.map_eq_flatMap]
  exact congrArg (List.flatMap · (List.range' 1 tasks)) (funext fun number => percentages_heard listens _)

/-- A run that is completed passes all checkpoints. -/
theorem percentages_legs (tasks : Nat) :
    (listening.legs tasks Stage.route).filterMap Landmark.percentage? = checkpoints tasks := by
  simp [checkpoints, Listening.legs, Stage.route, Listening.leg, List.filterMap_cons, Landmark.percentage?,
    percentages_heard listens, percentages_settled listens]

/-- A run that stops passes the checkpoints before the stage of the stop. -/
theorem percentages_of_halts {landmarks : List Landmark} {stop : Stop}
    (halts : listening.Halts tasks landmarks stop) : landmarks.filterMap Landmark.percentage? =
      (checkpoints (preparedTasks landmarks)).take (stop.passed (preparedTasks landmarks)) := by
  obtain ⟨reached, problem⟩ := stop
  obtain ⟨-, halts⟩ := halts
  cases reached with
  | notStarted =>
    obtain rfl := halts
    cases isManifest : problem.isManifest <;>
      simp [checkpoints, Stop.passed, isManifest, percentages_heard listens]
  | writing =>
    obtain rfl := halts
    rw [preparedTasks_writing, Stop.passed, take_checkpoints]
    simp [Listening.legs, Stage.before, Stage.route, Listening.leg,
      List.filterMap_cons, Landmark.percentage?, percentages_heard listens, percentages_settled listens]
  | assembling | published | failed => exact halts.elim
  | overview | dependencies | coreFeatures | planning | scheduling =>
    obtain rfl := halts
    simp [checkpoints, Stop.passed, Listening.legs, Stage.before, Stage.route, Listening.leg,
      List.filterMap_cons, Landmark.percentage?, percentages_heard listens]

end Listeners

/-! ## Laws of checkpoints -/

/-- The progress of writing is that of a number of tasks that are settled. -/
theorem writing_bounds {tasks : Nat} {progress : Int}
    (member : progress ∈ (List.range' 1 tasks).map fun number => Running.writingProgress number tasks) :
    80 ≤ progress ∧ progress ≤ 95 := by
  obtain ⟨number, isNumber, rfl⟩ := List.mem_map.mp member
  have low := List.mem_range'_1.mp isNumber
  exact Running.writingProgress_bounds (by omega)

/-- The progress of writing never decreases. -/
theorem sorted_writing (tasks : Nat) :
    ((List.range' 1 tasks).map fun number => Running.writingProgress number tasks).Pairwise (· ≤ ·) := by
  refine List.Pairwise.map _ (fun first second less => ?_) (List.pairwise_le_range' 1)
  have le : first * 15 / tasks ≤ second * 15 / tasks := Nat.div_le_div_right (Nat.mul_le_mul_right 15 less)
  exact Int.add_le_add_left (Int.ofNat_le.mpr le) 80

/-- Checkpoints never decrease. -/
theorem sorted_checkpoints (tasks : Nat) : (checkpoints tasks).Pairwise (· ≤ ·) := by
  have early : ∀ progress ∈ [(5 : Int), 10, 15, 20, 30, 40, 50, 60, 70, 80], progress ≤ 80 := by decide
  have late : ∀ progress ∈ [(97 : Int), 100], 97 ≤ progress := by decide
  unfold checkpoints
  rw [List.pairwise_append, List.pairwise_append]
  refine ⟨⟨by decide, sorted_writing tasks, ?_⟩, by decide, ?_⟩
  · intro first isFirst second isSecond
    exact Int.le_trans (early first isFirst) (writing_bounds isSecond).1
  · intro first isFirst second isSecond
    have before : first ≤ 95 := by
      rcases List.mem_append.mp isFirst with isEarly | isWriting
      · exact Int.le_trans (early first isEarly) (by decide)
      · exact (writing_bounds isWriting).2
    have after := late second isSecond
    omega

/-- The checkpoint after all tasks comes after those of all tasks. -/
theorem late_of_mem {tasks count : Nat} (member : 97 ∈ (checkpoints tasks).take count) :
    10 + tasks < count := by
  by_contra early
  have earlier := List.take_subset_take_left (checkpoints tasks) (Nat.le_of_not_lt early) member
  rw [take_checkpoints, List.mem_append] at earlier
  rcases earlier with isEarly | isWriting
  · exact absurd isEarly (by decide)
  · exact absurd (writing_bounds isWriting).2 (by decide)

/-! ## The record of a completed run -/

/-- Whether a record is that of a completed run. -/
def Progress.Completed (record : Progress) : Prop := record.status = .completed ∧ record.progress = 100

section Runs

variable {σ : Type} {surroundings : Surroundings σ} {world after : World σ} {context : Context}
  {listening : Listening} {request : Request} {way : List (Exchange Call Answer)}

/-- A course that comes to a result ends with the report that the run is complete. -/
theorem completes_of_advance {run : Running} {result : Result}
    (goes : (run.advance context).run.Goes way (.ok result)) : ∃ before completing,
      way = before ++ completing ∧ (run.complete context).run.Goes completing (.ok ()) := by
  obtain ⟨_, _, _, inspecting, preparing, entered, writing, _, rfl, -, -, -, published⟩ :=
    Running.goes_advance_ok goes
  obtain ⟨assembled, assembling, now, keeping, completed, completing, rfl, -, -, -, completes⟩ :=
    Running.goes_publish_ok published
  refine ⟨inspecting ++ preparing ++ ⟨run.entry .writing, entered⟩ :: writing ++
    (⟨run.entry .assembling, assembled⟩ :: assembling ++ ⟨.now, now⟩ :: keeping ++
      [⟨run.entry .published, completed⟩]), completing, ?_, completes⟩
  simp

/-- After a run that is completed the record says so. -/
theorem holdsRecord_of_course {session : String} {first second : List (Exchange Call Answer)} {result : Result}
    (commenced : ((runIn context listening request session).commence context).run.Goes first (.ok ()))
    (advanced : ((runIn context listening request session).advance context).run.Goes second (.ok result))
    (orderly : Orderly (SharesRecord request.repositoryUrl) request.repositoryUrl world.cache)
    (swift : ∀ state, context.progressLifetime.isOver (surroundings.elapsed state).1 = .ok false)
    (answered : Answered (World.answer surroundings) world (first ++ second) after)
    (served : AllServed (first ++ second)) :
    HoldsRecord request.repositoryUrl Progress.Completed after.cache := by
  have serves : (runIn context listening request session).Serves context
      (terms (SharesRecord request.repositoryUrl) request.repositoryUrl fun _ => True) (fun _ => True)
      Moment.InCalendar :=
    Running.serves_terms (.refl _) (fun _ _ => trivial) trivial fun _ => trivial
  have course : ((runIn context listening request session).course context).run.Goes (first ++ second)
      (.ok result) :=
    Activity.goes_then_ok.mpr ⟨first, second, (), rfl, goes_during_ok.mpr commenced, advanced⟩
  have keepsOrder := (orderly_answered (Running.fares_course serves (fun _ _ => trivial)
    (fares_discardDrafts trivial)) orderly course answered served).1
  obtain ⟨before, completing, rfl, completes⟩ := completes_of_advance advanced
  rw [← List.append_assoc] at answered served keepsOrder
  obtain ⟨middle, start, finish⟩ := Activity.answered_append.mp answered
  obtain ⟨servedStart, servedFinish⟩ := allServed_append.mp served
  have orderlyThen := orderly_of_keepsOrder orderly
    (fun exchange member => (keepsOrder exchange (List.mem_append_left _ member)).2) start servedStart
  obtain ⟨value, record, held, reads, shows⟩ :=
    holdsRecord_of_emit (by decide) orderlyThen swift completes finish servedFinish
  exact ⟨value, record, held, reads, shows.2.2.2, shows.2.1⟩

/-! ## Checkpoints of runs -/

/-- How the percentages of a run are those of checkpoints, given the number of its tasks and how many sessions
there may be. -/
inductive Passes (request : Request) (tasks : Nat) (maxSessions : Int) :
    List Int -> Except Problem Result -> Prop where
  /-- The run passes all checkpoints and tells of all tasks. -/
  | completed {result : Result} (all : result.documents.length + result.failedDocuments.length = tasks) :
    Passes request tasks maxSessions (checkpoints tasks) (.ok result)
  /-- The run passes the checkpoints before the stage of the stop, which its failure names. -/
  | stopped (stop : Stop) {report : String} (named : stop.failure = .stage stop.reached report) :
    Passes request tasks maxSessions ((checkpoints tasks).take (stop.passed tasks) ++ [0])
      (.error (.stage stop.reached report))
  /-- The path is bad. -/
  | rejected {problem : Problem} (bad : problem.IsBadPath request) :
    Passes request tasks maxSessions [0] (.error problem)
  /-- There is room for no session at all, and nothing is told about that. -/
  | noRoom {noRoom : Session.NoRoom} (none : maxSessions ≤ 0) :
    Passes request tasks maxSessions [] (.error (.noRoom noRoom))

/-- A run that returns a result passed all checkpoints. -/
theorem Passes.eq_checkpoints {tasks : Nat} {maxSessions : Int} {reported : List Int} {result : Result}
    (passes : Passes request tasks maxSessions reported (.ok result)) :
    result.documents.length + result.failedDocuments.length = tasks ∧ reported = checkpoints tasks := by
  cases passes with
  | completed all => exact ⟨all, rfl⟩

section Passes

variable {tasks count : Nat} {maxSessions : Int} {reported : List Int} {outcome : Except Problem Result}
  (passes : Passes request tasks maxSessions reported outcome)

include passes

/-- The percentages of a run never decrease before the last. -/
theorem Passes.sorted : reported.dropLast.Pairwise (· ≤ ·) := by
  cases passes with
  | completed all => exact (sorted_checkpoints tasks).sublist (List.dropLast_sublist _)
  | stopped stop named =>
    rw [List.dropLast_concat]
    exact (sorted_checkpoints tasks).sublist (List.take_sublist _ _)
  | rejected bad => exact .nil
  | noRoom none => exact .nil

/-- A run does not assemble anything before all tasks are settled. -/
theorem Passes.late (member : 97 ∈ reported.take count) : 10 + tasks < count := by
  cases passes with
  | completed all => exact late_of_mem member
  | stopped stop named =>
    rw [List.take_append, List.mem_append, List.take_take] at member
    rcases member with isCheckpoint | isFailure
    · exact Nat.lt_of_lt_of_le (late_of_mem isCheckpoint) (Nat.min_le_left _ _)
    · exact absurd (List.mem_of_mem_take isFailure) (by decide)
  | rejected bad => exact absurd (List.mem_of_mem_take member) (by decide)
  | noRoom none => exact absurd (List.mem_of_mem_take member) (by decide)

end Passes

/-- A run that is completed leaves the landmarks of all stages, and its record says that it is completed. -/
theorem completed_of_goes {result : Result} (fresh : FindsNoResult surroundings context request world)
    (goes : (runRequest context listening request).run.Goes way (.ok result))
    (answered : Answered (World.answer surroundings) world way after) (served : AllServed way) :
    trail Call.landmark? way =
        listening.legs (result.documents.length + result.failedDocuments.length) Stage.route ∧
      (Orderly (SharesRecord request.repositoryUrl) request.repositoryUrl world.cache ->
        (∀ state, context.progressLifetime.isOver (surroundings.elapsed state).1 = .ok false) ->
        HoldsRecord request.repositoryUrl Progress.Completed after.cache) := by
  obtain ⟨kept, id, commencing, advancing, closed, rfl, commenced, advanced⟩ :=
    goes_runRequest_ok fresh goes answered
  obtain ⟨opened, opens, working⟩ := Activity.answered_append.mp answered
  obtain ⟨begun, begins, onward⟩ := Activity.answered_append.mp working
  obtain ⟨made, makes, closes⟩ := Activity.answered_append.mp onward
  obtain ⟨servedOpening, servedWorking⟩ := allServed_append.mp served
  obtain ⟨servedBeginning, servedOnward⟩ := allServed_append.mp servedWorking
  obtain ⟨servedMaking, -⟩ := allServed_append.mp servedOnward
  obtain ⟨heard, told, -⟩ :=
    fair_of_commence commenced begins servedBeginning advanced makes servedMaking
  constructor
  · have legs := Leaves.goes Running.trails_advance advanced told
    refine Eq.trans ?_ legs
    simp [opening, sessionCreated, Activity.trail_cons, Call.landmark?, heard, runIn]
  · intro orderly swift
    have orderlyThen := orderly_of_keepsOrder orderly (by simp [opening, sessionCreated, Call.KeepsOrder])
      opens servedOpening
    obtain ⟨-, ends⟩ := Activity.answered_cons.mp closes
    rw [Activity.answered_nil.mp ends, World.cache_of_idle fun _ _ => rfl]
    exact holdsRecord_of_course commenced advanced orderlyThen swift
      (Activity.answered_append.mpr ⟨begun, begins, makes⟩)
      (allServed_append.mpr ⟨servedBeginning, servedMaking⟩)

/-- A run that fails passes the checkpoints before the stage of the stop, if it begins. -/
theorem passes_of_failure {problem : Problem} (listens : listening.hasListener = true)
    (fresh : FindsNoResult surroundings context request world)
    (goes : (runRequest context listening request).run.Goes way (.error problem))
    (answered : Answered (World.answer surroundings) world way after) (served : AllServed way) :
    Passes request (preparedTasks (trail Call.landmark? way)) world.sessions.maxSessions (percentages way)
      (.error problem) := by
  obtain ⟨looking, rest, middle, rfl, start, finish, ⟨failure, looked, rejected⟩ | ⟨⟨kept, rfl⟩, started⟩⟩ :=
    goes_runRequest_fresh fresh goes answered
  · obtain ⟨servedFirst, servedSecond⟩ := allServed_append.mp served
    obtain ⟨rfl, rfl, bad, reported⟩ := rejected_of_served servedFirst servedSecond looked rejected
    have heard := (trail_of_reportFailure servedSecond reported).1
    rw [List.nil_append, percentages_eq, heard, percentages_heard listens]
    exact .rejected bad
  · obtain ⟨-, servedRun⟩ := allServed_append.mp served
    obtain ⟨id, ⟨noRoom, rfl, rfl⟩ | ⟨course, count, reporting, closed, stop, rfl, rfl, stopped, reported⟩⟩ :=
      stopped_of_served servedRun started
    · have full := maxSessions_of_noRoom finish
      rw [sessions_of_looking start] at full
      exact .noRoom full
    · obtain ⟨created, -, finishing⟩ := Activity.answered_append.mp finish
      obtain ⟨final, stopping, -⟩ := Activity.answered_append.mp finishing
      have servedCourse : AllServed course :=
        fun exchange member => servedRun exchange (by simp [stoppedRun, member])
      obtain ⟨⟨tasks, halts⟩, -⟩ := halts_of_course stopped stopping servedCourse
      have landmarks : trail Call.landmark? ([⟨.readCache (resultKey request.repositoryUrl
          request.analysisType.name), .ok kept⟩] ++ stoppedRun context request id course count reporting closed) =
          trail Call.landmark? course ++ listening.heard 0 := by
        rw [Activity.trail_append, trail_of_stoppedRun reported servedRun]
        rfl
      have prepared : preparedTasks (trail Call.landmark? course ++ listening.heard 0) =
          preparedTasks (trail Call.landmark? course) := by
        unfold preparedTasks
        rw [List.filterMap_append, tasks_heard, List.append_nil]
      rw [percentages_eq, landmarks, prepared, List.filterMap_append, percentages_of_halts listens halts,
        percentages_heard listens]
      obtain ⟨report, named, -⟩ := halts.1.failure_eq
      rw [named]
      exact .stopped stop named

end Runs

end RepoSurvey.Analysis

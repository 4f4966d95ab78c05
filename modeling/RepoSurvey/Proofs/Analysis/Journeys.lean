import RepoSurvey.Proofs.Activity.Trails
import RepoSurvey.Proofs.Analysis.Courses

/-!
# How far runs come

The calls of a run that note a stage, that note the schedule and that report progress are its landmarks. When
all calls are served and progress records are orderly, the landmarks of a run that has begun are a list that
depends on nothing but the number of its tasks, or the part of that list up to the stage that stops it:
`trails_advance`.
-/

namespace RepoSurvey.Analysis

open Activity (Abides Announced Exchange Fares Leaves Terms Trails announcements trail)

/-- What tells how far a run has come. -/
inductive Landmark where
  /-- A stage was noted. -/
  | entered (stage : String)
  /-- The titles of a number of tasks were noted. -/
  | scheduled (tasks : Nat)
  /-- Progress was reported to the listener. -/
  | reported (progress : Int)
  deriving DecidableEq, Repr

/-- The landmark that a call is. -/
def Call.landmark? : Call -> Option Landmark
  | .session (.updateContext _ [("stage", .str name)]) => some (.entered name)
  | .session (.updateContext _ [("document_tasks", .arr titles)]) => some (.scheduled titles.length)
  | .report event => some (.reported event.progress)
  | _ => none

/-- Calls to the outside are no landmarks. -/
theorem Call.IsOutside.landmark? {call : Call} (outside : call.IsOutside) : call.landmark? = none := by
  cases call with
  | session request => cases request <;> first | exact outside.elim | rfl
  | _ => first | exact outside.elim | rfl

/-- Calls that write progress records are no landmarks. -/
theorem Call.Records.landmark? {owned : String -> Prop} {url : String} {call : Call}
    (records : call.Records owned url) : call.landmark? = none := by
  cases call <;> first | exact records.elim | rfl

/-- Calls that save or discard drafts are no landmarks. -/
theorem Call.Drafts.landmark? {project : String} {call : Call} (drafts : call.Drafts project) :
    call.landmark? = none := by
  cases call <;> first | exact drafts.elim | rfl

/-! ## Legs -/

namespace Listening

/-- The landmark of progress that is reported if there is a listener. -/
def heard (listening : Listening) (progress : Int) : List Landmark :=
  if listening.hasListener then [.reported progress] else []

/-- The landmarks of some number of tasks that settle. -/
def settled (listening : Listening) (tasks : Nat) : List Landmark :=
  (List.range' 1 tasks).flatMap fun number => listening.heard (Running.writingProgress number tasks)

/-- The landmarks of a stage that is passed in a run of some number of tasks. -/
def leg (listening : Listening) (tasks : Nat) : Stage -> List Landmark
  | .notStarted => listening.heard 5 ++ listening.heard 10 ++ listening.heard 15 ++ listening.heard 20
  | .overview => .entered Stage.overview.name :: listening.heard 30
  | .dependencies => .entered Stage.dependencies.name :: listening.heard 40
  | .coreFeatures => .entered Stage.coreFeatures.name :: listening.heard 50
  | .planning => .entered Stage.planning.name :: listening.heard 60
  | .scheduling => .entered Stage.scheduling.name :: .scheduled tasks :: listening.heard 70
  | .writing => .entered Stage.writing.name :: listening.heard 80 ++ listening.settled tasks
  | .assembling => .entered Stage.assembling.name :: listening.heard 97
  | .published => .entered Stage.published.name :: listening.heard 100
  | .failed => []

/-- The landmarks of some stages that are passed. -/
def legs (listening : Listening) (tasks : Nat) (stages : List Stage) : List Landmark :=
  stages.foldl (fun landmarks stage => landmarks ++ listening.leg tasks stage) []

end Listening

/-- The stages of a run that is completed, in their order. -/
def Stage.route : List Stage :=
  [.notStarted, .overview, .dependencies, .coreFeatures, .planning, .scheduling, .writing, .assembling,
    .published]

/-- The stages before one. -/
def Stage.before (stage : Stage) : List Stage := Stage.route.takeWhile (· ≠ stage)

/-- Whether a problem is with a manifest. -/
def Problem.isManifest : Problem -> Bool
  | .manifest _ => true
  | _ => false

/-- Whether some landmarks are those of a run that stops: it passes the stages before that of the stop, and of
the latter no landmark but that it is entered. The survey has come to some progress when a manifest fails, and
writing fails when all tasks are settled. Nothing stops a run in later stages. -/
def Listening.Halts (listening : Listening) (tasks : Nat) (landmarks : List Landmark) (stop : Stop) : Prop :=
  stop.IsProper ∧
    match stop.reached with
    | .notStarted =>
      landmarks = listening.heard 5 ++ if stop.problem.isManifest then listening.heard 10 else []
    | .overview | .dependencies | .coreFeatures | .planning | .scheduling =>
      landmarks = listening.legs tasks stop.reached.before ++ [.entered stop.reached.name]
    | .writing => landmarks = listening.legs tasks stop.reached.before ++ listening.leg tasks stop.reached
    | .assembling | .published | .failed => False

/-- The name of a stage that was entered. -/
def Landmark.stage? : Landmark -> Option String
  | .entered stage => some stage
  | _ => none

/-- The name of the stage that was entered last. -/
def lastStage (landmarks : List Landmark) : String :=
  (landmarks.filterMap Landmark.stage?).getLast?.getD Stage.notStarted.name

/-- What is heard of is no stage. -/
@[simp] theorem stages_heard (listening : Listening) (progress : Int) :
    (listening.heard progress).filterMap Landmark.stage? = [] := by
  unfold Listening.heard
  split <;> rfl

/-- Tasks that settle are no stages. -/
@[simp] theorem stages_settled (listening : Listening) (tasks : Nat) :
    (listening.settled tasks).filterMap Landmark.stage? = [] := by
  unfold Listening.settled
  simp [List.filterMap_flatMap]

/-- A run that stops stops in the stage that it entered last. -/
theorem Listening.Halts.lastStage_eq {listening : Listening} {tasks : Nat} {landmarks : List Landmark}
    {stop : Stop} (halts : listening.Halts tasks landmarks stop) :
    lastStage (landmarks ++ listening.heard 0) = stop.reached.name := by
  obtain ⟨reached, problem⟩ := stop
  obtain ⟨-, halts⟩ := halts
  have entered : ∀ stage : Stage, Landmark.stage? (.entered stage.name) = some stage.name := fun _ => rfl
  unfold lastStage
  rw [List.filterMap_append, stages_heard, List.append_nil]
  cases reached with
  | notStarted =>
    rw [halts]
    split <;> simp
  | writing =>
    obtain rfl := halts
    simp [List.filterMap_append, Listening.leg, entered]
  | assembling | published | failed => exact halts.elim
  | overview | dependencies | coreFeatures | planning | scheduling =>
    obtain rfl := halts
    simp [List.filterMap_append, entered]

/-! ## Reports -/

section Reports

variable {conditions : Terms Call Answer} {listening : Listening} {earlier : List Landmark}
  {context : Context} {url : String} {fails : Problem -> Prop}
  (reports : ∀ event, conditions.asks (.report event))
  (served : ∀ call answer, conditions.told call answer -> call.Served answer)

include reports served

/-- A listener who is there hears of an event. -/
theorem trails_tell (event : Event) : Trails Call.landmark? conditions
    (fun landmarks _ => landmarks = earlier ++ listening.heard event.progress)
    (fun _ (_ : Problem) => False) earlier (listening.tell event) := by
  unfold Listening.tell Listening.heard
  split
  · refine Activity.leaves_bind.mpr ⟨reports _, fun answer told => ?_⟩
    obtain rfl : answer = .ok () := served _ _ told
    rfl
  · exact Activity.trails_pure (List.append_nil earlier).symm

/-- A listener who is there hears of progress, whatever comes of writing it down. -/
theorem trails_emit {stage : String} {progress : Int}
    (notes : Fares (conditions.unmarked Call.landmark?) (fun _ => True) fails
      (Progress.note context.progressLifetime url ⟨stage, progress, none⟩)) :
    Trails Call.landmark? conditions (fun landmarks _ => landmarks = earlier ++ listening.heard progress)
      (fun landmarks problem => landmarks = earlier ++ listening.heard progress ∧ fails problem) earlier
      (emit context listening url stage progress) := by
  refine ((trails_tell reports served _).mono (fun _ _ heard => heard) fun _ _ => False.elim).bind
    fun landmarks _ heard => ?_
  subst heard
  exact notes.trails.bind fun landmarks _ noted => Activity.trails_pure noted.1

/-- A listener who is there hears of a failure. -/
theorem trails_reportFailure (details : String)
    (records : ∀ call, call.Records (fun _ => True) url -> (conditions.unmarked Call.landmark?).asks call) :
    Trails Call.landmark? conditions (fun landmarks _ => landmarks = earlier ++ listening.heard 0)
      (fun _ (_ : Problem) => False) earlier (reportFailure context listening url details) := by
  refine (trails_tell reports served _).bind fun landmarks _ heard => ?_
  subst heard
  have noted : Fares (conditions.unmarked Call.landmark?) (fun _ => True) (fun _ => False)
    (noteFailure context url details).ignore := fares_ignore (abides_noteFailure records details)
  exact noted.trails.mono (fun _ _ left => left.1) fun _ _ left => left.2

end Reports

section Served

variable {way : List (Exchange Call Answer)} {context : Context} {listening : Listening} {url : String}
  {outcome : Except Problem Unit}

/-- The terms on which all calls are served and may be asked. -/
def serving : Terms Call Answer := ⟨Call.Served, fun _ => True⟩

/-- Calls that write progress records may be asked as they are no landmarks. -/
theorem unmarked_of_records (call : Call) (records : call.Records (fun _ => True) url) :
    (serving.unmarked Call.landmark?).asks call := ⟨trivial, records.landmark?⟩

/-- When all calls are served, progress is heard of whatever comes of writing it down. -/
theorem trail_of_emit {stage : String} {progress : Int} (served : AllServed way)
    (goes : (emit context listening url stage progress).run.Goes way outcome) :
    trail Call.landmark? way = listening.heard progress := by
  have reports : ∀ event, serving.asks (.report event) := fun _ => trivial
  have trails : Trails Call.landmark? serving _ _ [] (emit context listening url stage progress) :=
    trails_emit reports (fun _ _ told => told) (abides_note unmarked_of_records _)
  have ending := Leaves.goes trails goes served
  cases outcome with
  | ok done => exact ending
  | error problem => exact ending.1

/-- When all calls are served, a failure is heard of, and reporting it does not fail. -/
theorem trail_of_reportFailure {details : String} (served : AllServed way)
    (goes : (reportFailure context listening url details).run.Goes way outcome) :
    trail Call.landmark? way = listening.heard 0 ∧ outcome = .ok () := by
  have reports : ∀ event, serving.asks (.report event) := fun _ => trivial
  have trails : Trails Call.landmark? serving _ _ [] (reportFailure context listening url details) :=
    trails_reportFailure reports (fun _ _ told => told) details unmarked_of_records
  have ending := Leaves.goes trails goes served
  cases outcome with
  | ok done => exact ⟨ending, rfl⟩
  | error problem => exact ending.elim

end Served

/-! ## Stages -/

namespace Running

/-- The terms on which all calls of a run are served and its progress record is orderly. -/
abbrev fair (run : Running) : Terms Call Answer :=
  terms (fun _ => True) run.request.repositoryUrl fun _ => True

variable {α β : Type} {run : Running} {context : Context} {earlier : List Landmark} {stage : Stage}
  {attempt : Attempt α}

/-- What is done on fair terms without calls that are landmarks leaves none. -/
theorem fares_unmarked {succeeds : α -> Prop} {fails : Problem -> Prop} (fares : Fares
    (terms (fun _ => True) run.request.repositoryUrl fun call => call.landmark? = none) succeeds fails
      attempt) : Fares (run.fair.unmarked Call.landmark?) succeeds fails attempt :=
  Activity.Keeps.relax fares (fun _ _ told => told) fun _ asks => ⟨⟨trivial, asks.2⟩, asks.1⟩

/-- On fair terms progress is heard of, and reporting it does not fail. -/
theorem trails_emit (stage : String) {progress : Int} (inRange : 0 ≤ progress ∧ progress ≤ 100) :
    Trails Call.landmark? run.fair
      (fun landmarks _ => landmarks = earlier ++ run.listening.heard progress)
      (fun _ (_ : Problem) => False) earlier (run.emit context stage progress) := by
  have noted : Fares (run.fair.unmarked Call.landmark?) (fun _ => True) (fun _ => False)
      (Progress.note context.progressLifetime run.request.repositoryUrl ⟨stage, progress, none⟩) :=
    fares_unmarked (fares_note (fun _ records => records.landmark?) trivial inRange)
  have reports : ∀ event, run.fair.asks (.report event) := fun _ => ⟨trivial, trivial⟩
  exact (Analysis.trails_emit reports (fun _ _ told => told.1) noted).mono (fun _ _ heard => heard)
    fun _ _ failed => failed.2

/-- What agents are asked in a stage leaves no landmark, and then progress is heard of. -/
theorem trails_asked {progress : Int} {text : α -> String} {value : α -> β}
    (asked : ∀ conditions : Terms Call Answer, (∀ call, call.IsOutside -> conditions.asks call) ->
      Fares conditions (fun _ => True) (Problem.Within stage) attempt)
    (inRange : 0 ≤ progress ∧ progress ≤ 100) : Trails Call.landmark? run.fair
      (fun landmarks _ => landmarks = earlier ++ run.listening.heard progress)
      (fun landmarks problem => landmarks = earlier ∧ problem.Within stage) earlier
      (do
        let found <- attempt
        run.emit context (text found) progress
        pure (value found)) := by
  have unmarked : Fares (run.fair.unmarked Call.landmark?) (fun _ => True) (Problem.Within stage) attempt :=
    fares_unmarked (asked _ fun _ => asks_of_outside fun _ outside => outside.landmark?)
  refine (unmarked.trails.mono (fun _ _ left => left) fun _ _ left => left).bind fun landmarks found left => ?_
  obtain ⟨rfl, -⟩ := left
  refine ((trails_emit _ inRange).mono (fun _ _ heard => heard) fun _ _ => False.elim).bind
    fun landmarks _ heard => ?_
  exact Activity.trails_pure heard

section During

variable {succeeds : List Landmark -> α -> Prop} {fails : List Landmark -> Stop -> Prop}

/-- What is done during a stage leaves the landmarks that it would otherwise. -/
theorem trails_during (trails : Trails Call.landmark? run.fair succeeds
    (fun landmarks problem => fails landmarks ⟨stage, problem⟩) earlier attempt) :
    Trails Call.landmark? run.fair succeeds fails earlier (during stage attempt) := by
  refine Activity.leaves_bind.mpr (Leaves.mono trails fun landmarks outcome ending => ?_)
  cases outcome <;> exact ending

/-- A stage is a landmark, and then those of its work follow. -/
theorem trails_entering (trails : Trails Call.landmark? run.fair succeeds
    (fun landmarks problem => fails landmarks ⟨stage, problem⟩) (earlier ++ [.entered stage.name]) attempt) :
    Trails Call.landmark? run.fair succeeds fails earlier (run.entering stage attempt) :=
  ⟨⟨trivial, trivial⟩, fun _ _ => trails_during trails⟩

end During

/-! ## Single stages -/

/-- The survey is heard of in three steps. It may fail before the first or the second. -/
theorem trails_inspect : Trails Call.landmark? run.fair
    (fun landmarks _ => landmarks = earlier ++ run.listening.heard 10 ++ run.listening.heard 15 ++
      run.listening.heard 20)
    (fun landmarks (problem : Problem) =>
      landmarks = earlier ++ (if problem.isManifest then run.listening.heard 10 else []) ∧
        problem.Within .notStarted) earlier (run.inspect context) := by
  have layout : Trails Call.landmark? run.fair (fun landmarks _ => landmarks = earlier)
      (fun landmarks (problem : Problem) =>
        landmarks = earlier ++ (if problem.isManifest then run.listening.heard 10 else []) ∧
          problem.Within .notStarted) earlier (layoutOf run.checkout) := by
    unfold layoutOf
    split
    · exact Activity.trails_throw ⟨(List.append_nil earlier).symm, trivial⟩
    · exact Activity.trails_pure rfl
  have dependencies : ∀ earlier, Trails Call.landmark? run.fair (fun landmarks _ => landmarks = earlier)
      (fun landmarks (problem : Problem) =>
        landmarks = earlier ∧ problem.isManifest = true ∧ problem.Within .notStarted) earlier
      (declaredDependencies run.checkout) := by
    intro earlier
    unfold declaredDependencies
    split
    · exact Activity.trails_pure rfl
    · exact Activity.trails_throw ⟨rfl, rfl, trivial⟩
  refine layout.bind fun landmarks found left => ?_
  subst left
  refine ((trails_emit _ (by decide)).mono (fun _ _ heard => heard) fun _ _ => False.elim).bind
    fun landmarks _ heard => ?_
  subst heard
  refine ((dependencies _).mono (fun _ _ left => left) fun landmarks problem left =>
    ⟨by rw [left.1, left.2.1, if_pos rfl], left.2.2⟩).bind fun landmarks found left => ?_
  subst left
  refine ((trails_emit _ (by decide)).mono (fun _ _ heard => heard) fun _ _ => False.elim).bind
    fun landmarks _ heard => ?_
  subst heard
  refine ((trails_emit _ (by decide)).mono (fun _ _ heard => heard) fun _ _ => False.elim).bind
    fun landmarks _ heard => ?_
  exact Activity.trails_pure heard

/-- The overview is heard of. -/
theorem trails_overviewStage (findings : Findings) : Trails Call.landmark? run.fair
    (fun landmarks _ => landmarks = earlier ++ run.listening.heard 30)
    (fun landmarks (problem : Problem) => landmarks = earlier ∧ problem.Within .overview) earlier
    (run.overviewStage context findings) :=
  trails_asked (fun _ outside => (fares_askForRecord (hosts_of_outside outside _) _ _).mono (fun _ _ => trivial)
    fun _ within => within) (by decide)

/-- The dependency graph is heard of. -/
theorem trails_dependencyStage (findings : Findings) (overview : Overview) :
    Trails Call.landmark? run.fair (fun landmarks _ => landmarks = earlier ++ run.listening.heard 40)
      (fun landmarks (problem : Problem) => landmarks = earlier ∧ problem.Within .dependencies) earlier
      (run.dependencyStage context findings overview) :=
  trails_asked (fun _ outside => (fares_askForRecord (hosts_of_outside outside _) _ _).mono (fun _ _ => trivial)
    fun _ within => within) (by decide)

/-- The features are heard of. -/
theorem trails_featureStage (overview : Overview) (graph : Graph) : Trails Call.landmark? run.fair
    (fun landmarks _ => landmarks = earlier ++ run.listening.heard 50)
    (fun landmarks (problem : Problem) => landmarks = earlier ∧ problem.Within .coreFeatures) earlier
    (run.featureStage context overview graph) :=
  trails_asked (fun _ outside => (fares_askForRecord (hosts_of_outside outside _) _ _).mono (fun _ _ => trivial)
    fun _ within => within) (by decide)

/-- The plan is heard of. -/
theorem trails_planningStage (overview : Overview) (features : Features) :
    Trails Call.landmark? run.fair (fun landmarks _ => landmarks = earlier ++ run.listening.heard 60)
      (fun landmarks (problem : Problem) => landmarks = earlier ∧ problem.Within .planning) earlier
      (run.planningStage context overview features) :=
  trails_asked (fun _ outside => (fares_askForPlan (hosts_of_outside outside _) _).mono (fun _ _ => trivial)
    fun _ within => within) (by decide)

/-- The schedule is noted when the tasks are there. -/
theorem trails_schedulingStage (plan : String) (features : Features) : Trails Call.landmark? run.fair
    (fun landmarks tasks => landmarks =
      earlier ++ [.scheduled tasks.length] ++ run.listening.heard 70)
    (fun landmarks (problem : Problem) => landmarks = earlier ∧ problem.Within .scheduling) earlier
    (run.schedulingStage context plan features) := by
  have asked : Fares (run.fair.unmarked Call.landmark?) (fun _ => True) (Problem.Within .scheduling)
      (askForTasks context run.checkout plan features (some run.session)) :=
    fares_unmarked (fares_askForTasks
      (hosts_of_outside (fun _ => asks_of_outside fun _ outside => outside.landmark?) _) _ _)
  refine (asked.trails.mono (fun _ _ left => left) fun _ _ left => left).bind fun landmarks planned left => ?_
  obtain ⟨rfl, -⟩ := left
  refine ⟨⟨trivial, trivial⟩, fun _ _ => ?_⟩
  refine ((trails_emit _ (by decide)).mono (fun _ _ heard => heard) fun _ _ => False.elim).bind
    fun landmarks _ heard => Activity.trails_pure ?_
  rw [heard]
  simp [Call.landmark?]

/-- When there is a listener, progress is reported first of all. -/
theorem announced_emit (listens : run.listening.hasListener = true) (stage : String) {progress : Int}
    (inRange : 0 ≤ progress ∧ progress ≤ 100) :
    Announced Call.landmark? run.fair (.reported progress) (run.emit context stage progress).run := by
  have told : ∀ event, Announced Call.landmark? run.fair (.reported event.progress)
      (run.listening.tell event).run := by
    intro event
    unfold Listening.tell
    rw [listens]
    exact ⟨_, _, rfl, ⟨trivial, trivial⟩, rfl, fun answer _ => by rcases answer with (_ | _) | _ <;> trivial⟩
  have noted : Fares (run.fair.unmarked Call.landmark?) (fun _ => True) (fun _ => True)
      (Progress.note context.progressLifetime run.request.repositoryUrl ⟨stage, progress, none⟩) :=
    fares_unmarked (fares_note (fun _ records => records.landmark?) trivial inRange)
  have written : Abides (run.fair.unmarked Call.landmark?) (do
      let _ <- Progress.note context.progressLifetime run.request.repositoryUrl ⟨stage, progress, none⟩) :=
    noted.andThen fun _ => Activity.abides_pure ()
  refine (told ⟨stage, progress, none⟩).bind fun outcome => ?_
  cases outcome with
  | error problem => trivial
  | ok done => exact Activity.Keeps.mono written fun _ _ => trivial

/-- When there is no listener, progress is written down without a landmark. -/
theorem unmarked_emit (deaf : ¬ run.listening.hasListener = true) (stage : String) {progress : Int}
    (inRange : 0 ≤ progress ∧ progress ≤ 100) :
    Abides (run.fair.unmarked Call.landmark?) (run.emit context stage progress) := by
  have told : Abides (run.fair.unmarked Call.landmark?)
      (run.listening.tell ⟨stage, progress, none⟩) := by
    unfold Listening.tell
    rw [if_neg deaf]
    exact Activity.abides_pure ()
  have noted : Abides (run.fair.unmarked Call.landmark?)
      (Progress.note context.progressLifetime run.request.repositoryUrl ⟨stage, progress, none⟩) :=
    fares_unmarked (fares_note (fun _ records => records.landmark?) trivial inRange)
  exact told.andThen fun _ => noted.andThen fun _ => Activity.abides_pure ()

/-- To tell that a task is settled begins with reporting it, when there is a listener. -/
theorem announced_settle (listens : run.listening.hasListener = true) {number total : Nat}
    (low : number ≤ total) (outcome : Except String WrittenDocument) :
    Announced Call.landmark? run.fair (.reported (writingProgress number total))
      (settleDocument (run.tellWritten context) total number outcome) := by
  refine (announced_emit listens _ (writingProgress_inRange low)).bind fun told => ?_
  cases told <;> trivial

/-- Calls to the outside may be asked as they are no landmarks. -/
theorem unmarked_of_outside {call : Call} (outside : call.IsOutside) :
    (run.fair.unmarked Call.landmark?).asks call :=
  ⟨asks_of_outside (fun _ _ => trivial) outside, outside.landmark?⟩

/-- Calls to drafts may be asked as they are no landmarks. -/
theorem unmarked_of_drafts {project : String} {call : Call} (drafts : call.Drafts project) :
    (run.fair.unmarked Call.landmark?).asks call :=
  ⟨⟨trivial, by cases call <;> trivial⟩, drafts.landmark?⟩

/-- However the tasks of a batch take turns, it is heard in order how many of them are settled. -/
theorem leaves_writeAll (batch : Batch) (tasks : List DocumentTask) : Leaves Call.landmark? run.fair
    (fun landmarks _ => landmarks = earlier ++ run.listening.settled tasks.length) earlier
    (writeAll context batch (run.tellWritten context) tasks) := by
  unfold Listening.settled Listening.heard
  by_cases listens : run.listening.hasListener = true
  · have orders : ∀ count, (choose count).Keeps (run.fair.unmarked Call.landmark?) fun _ => True :=
      fun _ => ⟨unmarked_of_outside trivial, fun _ _ => trivial⟩
    simp only [if_pos listens, ← List.map_eq_flatMap]
    refine Activity.leaves_bind.mpr (Leaves.mono (Activity.leaves_sideBySide
      (fun number => .reported (writingProgress number tasks.length)) orders ?_) ?_)
    · intro activity member
      obtain ⟨⟨task, docName⟩, -, rfl⟩ := List.mem_map.mp member
      refine (keeps_attemptDocument (hosts_of_outside fun _ => unmarked_of_outside)
        (fun _ => unmarked_of_drafts) task docName).mono fun outcome _ number low => ?_
      have few : number ≤ tasks.length := by simpa using low
      exact announced_settle listens few outcome
    · intro landmarks results heard
      refine heard.trans ?_
      simp [announcements]
  · have tells : ∀ count ≤ tasks.length, Abides (run.fair.unmarked Call.landmark?)
        (run.tellWritten context count tasks.length) :=
      fun count low => unmarked_emit listens _ (writingProgress_inRange low)
    have silent : (writeAll context batch (run.tellWritten context) tasks).Keeps
        (run.fair.unmarked Call.landmark?) fun _ => True :=
      keeps_writeAll (hosts_of_outside fun _ => unmarked_of_outside) (fun _ => unmarked_of_drafts) tells
    simp only [if_neg listens]
    exact silent.leaves.mono fun _ _ left => left.1.trans (by simp)

/-- The writing of documents is heard of at its beginning and as each task is settled. It fails when all are
settled and none could be written. -/
theorem trails_writingStage (preparation : Preparation) : Trails Call.landmark? run.fair
    (fun landmarks report => landmarks =
        earlier ++ run.listening.heard 80 ++ run.listening.settled preparation.tasks.length ∧
      report.written ≠ [] ∧ report.written.length + report.failed.length = preparation.tasks.length)
    (fun landmarks (problem : Problem) => landmarks =
        earlier ++ run.listening.heard 80 ++ run.listening.settled preparation.tasks.length ∧
      problem.Within .writing) earlier (run.writingStage context preparation) := by
  refine ((trails_emit _ (by decide)).mono (fun _ _ heard => heard) fun _ _ => False.elim).bind
    fun landmarks _ heard => ?_
  subst heard
  refine Trails.bind (Activity.leaves_bind.mpr ((leaves_writeAll _ _).also
    fun _ _ goes => length_of_writeAll goes)) fun landmarks report ending => ?_
  split
  · exact Activity.trails_throw ⟨ending.1, rfl⟩
  · next some =>
    refine Activity.trails_pure ⟨ending.1, fun none => some ?_, ending.2⟩
    rw [none]
    rfl

/-- Assembling is heard of, and does not fail when there is a document. -/
theorem trails_assemblingStage {written : WriteReport} (some : written.written ≠ []) :
    Trails Call.landmark? run.fair
      (fun landmarks _ => landmarks = earlier ++ run.listening.heard 97) (fun _ (_ : Problem) => False) earlier
      (run.assemblingStage context written) := by
  have saved : Fares (run.fair.unmarked Call.landmark?) (fun _ => True) (fun _ => False)
      (saveSidebars context run.projectKey written.written) := by
    unfold saveSidebars
    split
    · next none => exact absurd (List.isEmpty_iff.mp none) some
    · exact (fares_unmarked (fares_saveDocument rfl)).andThen fun _ => fares_unmarked (fares_saveDocument rfl)
  have published : Fares (run.fair.unmarked Call.landmark?) (fun _ => True) (fun _ => False)
    (publishDrafts run.projectKey) := fares_unmarked (fares_publishDrafts rfl rfl)
  refine (saved.trails.mono (fun _ _ left => left) fun _ _ left => left.2).bind fun landmarks _ left => ?_
  obtain ⟨rfl, -⟩ := left
  refine (trails_emit _ (by decide)).bind fun landmarks _ heard => ?_
  subst heard
  refine (published.trails.mono (fun _ _ left => left) fun _ _ left => left.2).bind fun landmarks _ left => ?_
  exact Activity.trails_pure left.1

/-! ## Courses -/

/-- The preparation passes its stages, or it halts in one of them. -/
theorem trails_prepare (findings : Findings) : Trails Call.landmark? run.fair
    (fun landmarks preparation =>
      landmarks = run.listening.legs preparation.tasks.length Stage.writing.before)
    (run.listening.Halts 0) (run.listening.legs 0 Stage.overview.before)
    (run.prepare context findings) := by
  refine (trails_entering ((trails_overviewStage findings).mono (fun _ _ heard => heard)
    fun _ _ left => ⟨left.2, left.1⟩)).bind fun landmarks overview heard => ?_
  rw [List.append_assoc] at heard
  subst heard
  refine (trails_entering ((trails_dependencyStage findings overview).mono (fun _ _ heard => heard)
    fun _ _ left => ⟨left.2, left.1⟩)).bind fun landmarks graph heard => ?_
  rw [List.append_assoc] at heard
  subst heard
  refine (trails_entering ((trails_featureStage overview graph).mono (fun _ _ heard => heard)
    fun _ _ left => ⟨left.2, left.1⟩)).bind fun landmarks features heard => ?_
  rw [List.append_assoc] at heard
  subst heard
  refine (trails_entering ((trails_planningStage overview features).mono (fun _ _ heard => heard)
    fun _ _ left => ⟨left.2, left.1⟩)).bind fun landmarks plan heard => ?_
  rw [List.append_assoc] at heard
  subst heard
  refine (trails_entering ((trails_schedulingStage plan features).mono (fun _ _ heard => heard)
    fun _ _ left => ⟨left.2, left.1⟩)).bind fun landmarks tasks heard => ?_
  rw [List.append_assoc, List.append_assoc] at heard
  exact Activity.trails_pure heard

/-- Publication passes its stages. -/
theorem trails_publish {findings : Findings} {preparation : Preparation} {written : WriteReport}
    (some : written.written ≠ []) (tasks : Nat) : Trails Call.landmark? run.fair
      (fun landmarks result => landmarks = run.listening.legs tasks Stage.route ∧
        result.documents = written.written ∧ result.failedDocuments = written.failed)
      (fun _ (_ : Stop) => False) (run.listening.legs tasks Stage.assembling.before)
      (run.publish context findings preparation written) := by
  refine (trails_entering (trails_assemblingStage some)).bind fun landmarks _ heard => ?_
  rw [List.append_assoc] at heard
  subst heard
  have made : Fares (run.fair.unmarked Call.landmark?)
      (fun result => result.documents = written.written ∧ result.failedDocuments = written.failed)
      (fun _ => False) (run.result findings preparation written) :=
    (fares_unmarked (fares_present rfl)).bind fun now _ => Activity.fares_pure ⟨rfl, rfl⟩
  refine (trails_during (made.trails.mono (fun _ _ left => left) fun _ _ left => left.2)).bind
    fun landmarks result left => ?_
  obtain ⟨rfl, documents⟩ := left
  have kept : Fares (run.fair.unmarked Call.landmark?) (fun _ => True) (fun _ => False)
      (run.keep context result) :=
    fares_unmarked (fares_writeCache rfl fun same => absurd same (resultKey_ne_progressKey _ _ _))
  refine (trails_during (kept.trails.mono (fun _ _ left => left) fun _ _ left => left.2)).bind
    fun landmarks _ left => ?_
  obtain ⟨rfl, -⟩ := left
  refine (trails_entering (trails_emit _ (by decide))).bind fun landmarks _ heard => ?_
  rw [List.append_assoc] at heard
  exact Activity.trails_pure ⟨heard, documents⟩

/-- Writing passes its stage, or it halts there when all tasks are settled. -/
theorem trails_writing (preparation : Preparation) : Trails Call.landmark? run.fair
    (fun landmarks report =>
      landmarks = run.listening.legs preparation.tasks.length Stage.assembling.before ∧
        report.written ≠ [] ∧ report.written.length + report.failed.length = preparation.tasks.length)
    (fun landmarks stop => ∃ tasks, run.listening.Halts tasks landmarks stop)
    (run.listening.legs preparation.tasks.length Stage.writing.before)
    (run.entering .writing (run.writingStage context preparation)) := by
  refine trails_entering ((trails_writingStage preparation).mono ?_ ?_)
  · rintro landmarks report ⟨heard, written⟩
    rw [List.append_assoc, List.append_assoc] at heard
    exact ⟨heard, written⟩
  · rintro landmarks problem ⟨heard, within⟩
    rw [List.append_assoc, List.append_assoc] at heard
    exact ⟨preparation.tasks.length, within, heard⟩

/-- A run that has begun passes all stages, or it halts in one of them. -/
theorem trails_advance : Trails Call.landmark? run.fair
    (fun landmarks result => landmarks = run.listening.legs
      (result.documents.length + result.failedDocuments.length) Stage.route)
    (fun landmarks stop => ∃ tasks, run.listening.Halts tasks landmarks stop) (run.listening.heard 5)
    (run.advance context) := by
  refine (trails_during (trails_inspect.mono (fun _ _ heard => heard)
    fun _ _ left => ⟨0, left.2, left.1⟩)).bind fun landmarks findings heard => ?_
  subst heard
  refine ((trails_prepare findings).mono (fun _ _ heard => heard) fun _ _ halts => ⟨0, halts⟩).bind
    fun landmarks preparation heard => ?_
  subst heard
  refine (trails_writing preparation).bind fun landmarks written heard => ?_
  obtain ⟨rfl, some, all⟩ := heard
  refine (trails_publish some preparation.tasks.length).mono ?_ fun _ _ => False.elim
  rintro landmarks result ⟨rfl, documents, failedDocuments⟩
  rw [documents, failedDocuments, all]

end Running

end RepoSurvey.Analysis

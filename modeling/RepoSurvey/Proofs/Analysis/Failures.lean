import RepoSurvey.Proofs.Analysis.Journeys
import RepoSurvey.Proofs.Analysis.Publication

/-!
# What failed runs leave behind

A run that fails publishes nothing and keeps no result: `runRequest_fails` says what it does leave when all
calls are served. It is the failure of the last stage that was entered, and written down as such; or the
repository is no directory, or its path is too long for that to be found out, and the run fails with that.
-/

namespace RepoSurvey.Analysis

open Activity (Abides Answered Exchange Fares Leaves Terms trail)
open Clock (Moment)
open Store (Cache Variant)

variable {σ : Type} {surroundings : Surroundings σ} {world after : World σ} {context : Context}
  {listening : Listening} {request : Request} {way : List (Exchange Call Answer)}

/-! ## Worlds that are spared -/

/-- Whether an exchange publishes nothing and changes no results: its call does not, or was not carried out. -/
def Sparing (project : String) (exchange : Exchange Call Answer) : Prop :=
  exchange.request.carried exchange.answer = true -> exchange.request.Tentative project

/-- Whether a world has what another had, but for the drafts of a project, and finds the results that the
other would find from then on. -/
structure Spared (project : String) (world after : World σ) : Prop where
  documents : after.documents.beyond project = world.documents.beyond project
  results : ∀ url typeName later, after.clock.microseconds ≤ later.microseconds ->
    (after.cache.get (resultKey url typeName) later).1 = (world.cache.get (resultKey url typeName) later).1

/-- Results are found as before when only calls that leave them alone were carried out. -/
theorem World.result_answered (answered : Answered (World.answer surroundings) world way after)
    (leaves : ∀ exchange ∈ way, exchange.request.carried exchange.answer = true ->
      exchange.request.LeavesResults) (url typeName : String) {later : Moment}
    (le : after.clock.microseconds ≤ later.microseconds) :
    (after.cache.get (resultKey url typeName) later).1 =
      (world.cache.get (resultKey url typeName) later).1 := by
  rw [Cache.get_fst, Cache.get_fst]
  induction answered with
  | nil => rfl
  | @cons state final exchanges request rest inductionHypothesis =>
    rw [inductionHypothesis (fun exchange member => leaves exchange (.tail _ member)) le]
    have soon := Int.le_trans (World.clock_le_answered rest) le
    rw [World.clock_answer] at soon
    rw [World.cache_of_answer rfl]
    split
    · next carried =>
      have leavesFirst := leaves _ (.head _) carried
      cases request with
      | readCache key => exact Cache.found_get soon
      | writeCache key value lifetime =>
        obtain ⟨other, rfl⟩ := leavesFirst
        rw [Call.caching, Cache.kept?_set_of_ne (resultKey_ne_progressKey _ _ _)]
      | deleteCache key => exact leavesFirst.elim
      | _ => rfl
    · rfl

/-- A way that publishes nothing and changes no results spares the world. -/
theorem spared_of_sparing {project : String}
    (answered : Answered (World.answer surroundings) world way after)
    (sparing : ∀ exchange ∈ way, Sparing project exchange) : Spared project world after where
  documents := World.beyond_answered answered fun exchange member carried => (sparing exchange member carried).1
  results url typeName _ le := World.result_answered answered
    (fun exchange member carried => (sparing exchange member carried).2) url typeName le

/-! ## Courses that stop -/

/-- A course that stops once it has begun makes tentative calls, or it stops on publishing documents. -/
theorem Running.goes_advance_error {run : Running} {stop : Stop}
    (goes : (run.advance context).run.Goes way (.error stop)) :
    (∀ exchange ∈ way, exchange.request.Tentative run.projectKey) ∨
      ∃ findings preparation written before publishing, way = before ++ publishing ∧
        (∀ exchange ∈ before, exchange.request.Tentative run.projectKey) ∧
        findings.AreOf run.checkout ∧ preparation.IsReplied ∧ written.written ≠ [] ∧
        (run.publish context findings preparation written).run.Goes publishing (.error stop) := by
  have suits := run.suits_tentative context
  have inspects := fares_inspect suits fun _ _ => trivial
  have prepares := fares_prepare suits fun _ _ => trivial
  have writes : ∀ preparation, Fares (Activity.asking Answer (Call.Tentative run.projectKey))
      (fun report => report.written ≠ []) (fun _ => True)
      (run.entering .writing (run.writingStage context preparation)) := fun preparation =>
    fares_entering suits (fares_writingStage suits (fun _ _ => trivial) preparation
      fun _ drafts => drafts.tentative)
  unfold advance at goes
  rcases Activity.goes_then_error.mp goes with stopped | ⟨first, _, findings, rfl, inspected, goes⟩
  · obtain ⟨problem, failed, -⟩ := goes_during_error.mp stopped
    exact .inl (inspects.confined failed)
  have areFindings := inspects.ends (goes_during_ok.mp inspected)
  have surveyed := inspects.confined (goes_during_ok.mp inspected)
  rcases Activity.goes_then_error.mp goes with stopped | ⟨second, _, preparation, rfl, prepared, goes⟩
  · exact .inl (List.forall_mem_append.mpr ⟨surveyed, (prepares findings).confined stopped⟩)
  have isReplied := (prepares findings).ends prepared
  have asked := (prepares findings).confined prepared
  rcases Activity.goes_then_error.mp goes with stopped | ⟨third, publishing, written, rfl, wrote, published⟩
  · refine .inl (List.forall_mem_append.mpr ⟨surveyed, List.forall_mem_append.mpr ⟨asked, ?_⟩⟩)
    exact (writes preparation).confined stopped
  · refine .inr ⟨findings, preparation, written, first ++ second ++ third, publishing, by simp, ?_,
      areFindings, isReplied, (writes preparation).ends wrote, published⟩
    rw [List.forall_mem_append, List.forall_mem_append]
    exact ⟨⟨surveyed, asked⟩, (writes preparation).confined wrote⟩

/-- When all calls are served, a run that begins and goes on does so on fair terms, and its beginning was
heard of. -/
theorem fair_of_commence {run : Running} {first second : List (Exchange Call Answer)} {middle : World σ}
    {outcome : Except Stop Result} (commenced : (run.commence context).run.Goes first (.ok ()))
    (start : Answered (World.answer surroundings) world first middle) (servedFirst : AllServed first)
    (advanced : (run.advance context).run.Goes second outcome)
    (finish : Answered (World.answer surroundings) middle second after) (servedSecond : AllServed second) :
    trail Call.landmark? first = run.listening.heard 5 ∧
      (∀ exchange ∈ second, run.fair.told exchange.request exchange.answer) ∧
      Orderly (fun _ => True) run.request.repositoryUrl middle.cache := by
  obtain ⟨count, beginning, rfl, emitted, ⟨-, orderly⟩ | ⟨report, same⟩⟩ :=
    Running.commence_cases commenced start servedFirst
  · have serves : run.Serves context run.fair (fun _ => True) Moment.InCalendar :=
      Running.serves_terms trivial (fun _ _ => trivial) trivial fun _ => trivial
    have told := (orderly_answered (Running.fares_advance serves fun _ _ => trivial) orderly advanced finish
      servedSecond).1
    have heard := trail_of_emit (fun exchange member => servedFirst exchange (.tail _ member)) emitted
    refine ⟨heard, ?_, orderly⟩
    exact fun exchange member => ⟨servedSecond exchange member, (told exchange member).1⟩
  · nomatch same

/-- When all calls are served, a course that stops halts in a stage before publication, with tentative calls
only. -/
theorem halts_of_course {session : String} {stop : Stop}
    (goes : ((runIn context listening request session).course context).run.Goes way (.error stop))
    (answered : Answered (World.answer surroundings) world way after) (served : AllServed way) :
    (∃ tasks, listening.Halts tasks (trail Call.landmark? way) stop) ∧
      ∀ exchange ∈ way, exchange.request.Tentative (projectKey request.repositoryUrl) := by
  have begins : Abides (Activity.asking Answer (Call.Tentative (projectKey request.repositoryUrl)))
    ((runIn context listening request session).commence context) :=
      abides_commence (fun _ tentative => tentative) session
  rcases Activity.goes_then_error.mp goes with stopped | ⟨first, second, _, rfl, commenced, advanced⟩
  · obtain ⟨problem, failed, rfl⟩ := goes_during_error.mp stopped
    refine ⟨⟨0, ?_⟩, begins.confined failed⟩
    obtain ⟨count, beginning, rfl, emitted, ⟨same, -⟩ | ⟨report, same⟩⟩ :=
      Running.commence_cases failed answered served
    · nomatch same
    · obtain rfl := Except.error.inj same
      have heard := trail_of_emit (fun exchange member => served exchange (.tail _ member)) emitted
      exact ⟨trivial, heard.trans (List.append_nil _).symm⟩
  · have commenced := goes_during_ok.mp commenced
    obtain ⟨begun, start, finish⟩ := Activity.answered_append.mp answered
    obtain ⟨servedFirst, servedSecond⟩ := allServed_append.mp served
    obtain ⟨heard, told, -⟩ := fair_of_commence commenced start servedFirst advanced finish servedSecond
    have halts := Leaves.goes Running.trails_advance advanced told
    rw [← heard, ← Activity.trail_append] at halts
    refine ⟨halts, List.forall_mem_append.mpr ⟨begins.confined commenced, ?_⟩⟩
    rcases Running.goes_advance_error advanced with tentative |
      ⟨findings, preparation, written, before, publishing, rfl, -, areFindings, isReplied, some, published⟩
    · exact tentative
    · -- Nothing stops the publication of a document when all calls are served.
      have serves : (runIn context listening request session).Serves context
        (runIn context listening request session).fair (fun _ => False) Moment.InCalendar :=
          Running.serves_terms trivial (fun _ _ => trivial) trivial fun _ => trivial
      exact ((Running.fares_publish serves areFindings isReplied some).failed published
        fun exchange member => told exchange (List.mem_append_right _ member)).elim

/-! ## Parts of failed runs -/

/-- Whether a problem is that the repository is no directory, or that its path is too long for that to be found
out. -/
def Problem.IsBadPath (request : Request) (problem : Problem) : Prop :=
  problem = .notDirectory request.repositoryPath ∨ ∃ path, problem = .overlongPath path

/-- When all calls are served, the look for a kept result fails only for a bad path. -/
theorem badPath_of_lookUp {checkout : Files.Checkout} {problem : Problem} (served : AllServed way)
    (goes : (lookUp checkout request).run.Goes way (.error problem)) :
    way = [] ∧ problem.IsBadPath request := by
  unfold lookUp at goes
  split at goes
  · obtain ⟨_, -, same⟩ := goes_readCache_of_served served goes
    nomatch same
  · obtain ⟨rfl, same⟩ := Activity.goes_problem.mp goes
    exact ⟨rfl, .inr ⟨_, Except.error.inj same⟩⟩
  · obtain ⟨rfl, same⟩ := Activity.goes_problem.mp goes
    exact ⟨rfl, .inl (Except.error.inj same)⟩

/-- A look into the cache leaves the table of sessions alone. -/
theorem sessions_of_looking {key : String} {found : Except Obstacle (Option Json)}
    (answered : Answered (World.answer surroundings) world [⟨.readCache key, found⟩] after) :
    after.sessions = world.sessions := by
  obtain ⟨-, ends⟩ := Activity.answered_cons.mp answered
  rw [Activity.answered_nil.mp ends]
  exact World.sessions_answer fun _ isSession => (nomatch isSession)

/-- There is no room for a session only in a table that holds none at all. -/
theorem maxSessions_of_noRoom {id : String} {noRoom : Session.NoRoom} (answered : Answered
    (World.answer surroundings) world (sessionCreated context request id (.error noRoom)) after) :
    world.sessions.maxSessions ≤ 0 := by
  obtain ⟨-, creating⟩ := Activity.answered_cons.mp answered
  obtain ⟨isAnswer, -⟩ := Activity.answered_cons.mp creating
  have same : (World.answer surroundings .freshId world).2.sessions = world.sessions :=
    World.sessions_answer fun _ isSession => (nomatch isSession)
  have refused : ((World.answer surroundings .freshId world).2.sessions.create _ _ _ _).1 = .error noRoom :=
    isAnswer.symm
  rw [same] at refused
  unfold Session.Table.create at refused
  dsimp only at refused
  split at refused
  · next none => exact none
  · nomatch refused

/-- When all calls are served, a course that stops is abandoned with the failure of the stop. -/
theorem abandoned_of_served {run : Running} {stop : Stop} {problem : Problem} (served : AllServed way)
    (goes : (run.abandon context stop).run.Goes way (.error problem)) : ∃ count reporting,
      way = ⟨.discardDrafts run.projectKey none, .ok count⟩ :: reporting ∧
      (reportFailure context run.listening run.request.repositoryUrl stop.details).run.Goes reporting
        (.ok ()) ∧ problem = stop.failure := by
  obtain ⟨_, reporting, discarded, reported, rfl, discard, report, same⟩ := goes_abandon goes
  obtain ⟨answer, rfl, -⟩ := goes_discardDrafts discard
  obtain ⟨count, rfl⟩ : ∃ count, answer = .ok count := served _ (.head _)
  obtain ⟨-, rfl⟩ := trail_of_reportFailure (fun exchange member => served exchange (.tail _ member)) report
  exact ⟨count, reporting, rfl, report, Except.error.inj same⟩

/-- When all calls are served, a run is rejected for a bad path and does nothing but report that. -/
theorem rejected_of_served {checkout : Files.Checkout} {first second : List (Exchange Call Answer)}
    {failure problem : Problem} (servedFirst : AllServed first) (servedSecond : AllServed second)
    (looked : (lookUp checkout request).run.Goes first (.error failure))
    (rejected : (rejectRun context listening request failure).run.Goes second (.error problem)) :
    first = [] ∧ problem = failure ∧ failure.IsBadPath request ∧
      (reportFailure context listening request.repositoryUrl
        (Stage.notStarted.name ++ ": " ++ failure.message)).run.Goes second (.ok ()) := by
  obtain ⟨rfl, bad⟩ := badPath_of_lookUp servedFirst looked
  obtain ⟨reported, report, same⟩ := goes_rejectRun rejected
  obtain ⟨-, rfl⟩ := trail_of_reportFailure servedSecond report
  exact ⟨rfl, Except.error.inj same, bad, report⟩

/-- The exchanges of a run that stops, from the creation of its session to its end. -/
def stoppedRun (context : Context) (request : Request) (id : String) (course : List (Exchange Call Answer))
    (count : Nat) (reporting : List (Exchange Call Answer)) (closed : Bool) : List (Exchange Call Answer) :=
  sessionCreated context request id (.ok ()) ++
    (course ++ (⟨.discardDrafts (projectKey request.repositoryUrl) none, .ok count⟩ :: reporting ++
      [⟨.session (.close ("session-" ++ id)), closed⟩]))

/-- When all calls are served, a run that fails stops in its course, discards its drafts and reports the
failure of the stop, unless there is no room for its session. -/
theorem stopped_of_served {problem : Problem} (served : AllServed way)
    (goes : (startRun context listening request).run.Goes way (.error problem)) : ∃ id : String,
    (∃ noRoom, way = sessionCreated context request id (.error noRoom) ∧ problem = .noRoom noRoom) ∨
      ∃ course count reporting closed stop,
        way = stoppedRun context request id course count reporting closed ∧ problem = stop.failure ∧
        ((runIn context listening request ("session-" ++ id)).course context).run.Goes course
          (.error stop) ∧
        (reportFailure context listening request.repositoryUrl stop.details).run.Goes reporting (.ok ()) := by
  obtain ⟨id, ⟨noRoom, isWay, same⟩ | ⟨working, closed, rfl, worked⟩⟩ := goes_startRun goes
  · exact ⟨id, .inl ⟨noRoom, isWay, Except.error.inj same⟩⟩
  · obtain ⟨course, second, stop, rfl, stopped, abandoned⟩ := Running.goes_outcome_error worked
    have servedSecond : AllServed second := fun exchange member => served exchange (by simp [member])
    obtain ⟨count, reporting, rfl, reported, failure⟩ := abandoned_of_served servedSecond abandoned
    refine ⟨id, .inr ⟨course, count, reporting, closed, stop, ?_, failure, stopped, reported⟩⟩
    exact congrArg _ (List.append_assoc _ _ _)

section Stopped

variable {id : String} {course reporting : List (Exchange Call Answer)} {count : Nat} {closed : Bool}
  {stop : Stop}
  (reported : (reportFailure context listening request.repositoryUrl stop.details).run.Goes reporting (.ok ()))

include reported

/-- The calls of a run that stops are tentative if those of its course are. -/
theorem tentative_of_stoppedRun
    (tentative : ∀ exchange ∈ course, exchange.request.Tentative (projectKey request.repositoryUrl)) :
    ∀ exchange ∈ stoppedRun context request id course count reporting closed,
      exchange.request.Tentative (projectKey request.repositoryUrl) := by
  have reports := (abides_reporting (fun _ tentative => tentative) _).confined reported
  unfold stoppedRun
  simp only [List.forall_mem_append, List.forall_mem_cons]
  exact ⟨tentative_sessionCreated context request id _, tentative, ⟨⟨rfl, trivial⟩, reports⟩, ⟨trivial, trivial⟩,
    List.forall_mem_nil _⟩

/-- The landmarks of a run that stops are those of its course and that of the failure. -/
theorem trail_of_stoppedRun
    (served : AllServed (stoppedRun context request id course count reporting closed)) :
    trail Call.landmark? (stoppedRun context request id course count reporting closed) =
      trail Call.landmark? course ++ listening.heard 0 := by
  have servedReporting : AllServed reporting :=
    fun exchange member => served exchange (by simp [stoppedRun, member])
  have heard := (trail_of_reportFailure servedReporting reported).1
  simp [stoppedRun, sessionCreated, Activity.trail_append, Activity.trail_cons, Call.landmark?, heard]

variable (answered : Answered (World.answer surroundings) world
  (stoppedRun context request id course count reporting closed) after)

include answered

/-- A run that stops leaves no drafts. -/
theorem noDrafts_of_stoppedRun : after.documents.variants (projectKey request.repositoryUrl) .draft = [] := by
  have reports : Abides (Activity.asking Answer Call.IsQuiet)
      (reportFailure context listening request.repositoryUrl stop.details) :=
    abides_reportFailure (fun _ (notes : Call.Notes (fun _ => True) request.repositoryUrl _) =>
      Call.IsCommon.quiet (.inr notes)) _
  have quiet : ∀ exchange ∈ reporting ++ [⟨.session (.close ("session-" ++ id)), closed⟩],
      exchange.request.IsQuiet :=
    List.forall_mem_append.mpr ⟨reports.confined reported, List.forall_mem_singleton.mpr trivial⟩
  obtain ⟨created, -, finish⟩ := Activity.answered_append.mp answered
  obtain ⟨stopped, -, abandoning⟩ := Activity.answered_append.mp finish
  rw [List.cons_append] at abandoning
  rw [World.drafts_answered abandoning (List.forall_mem_cons.mpr
    ⟨rfl, fun exchange member => (quiet exchange member).concerns _⟩), drafted_cons, drafted_of_quiet quiet]
  rfl

/-- After a run that stops the record of the failure is held. -/
theorem holdsRecord_of_stoppedRun
    (orderly : Orderly (SharesRecord request.repositoryUrl) request.repositoryUrl world.cache)
    (swift : ∀ state, context.progressLifetime.isOver (surroundings.elapsed state).1 = .ok false)
    (goes : ((runIn context listening request ("session-" ++ id)).course context).run.Goes course
      (.error stop))
    (served : AllServed (stoppedRun context request id course count reporting closed)) :
    HoldsRecord request.repositoryUrl (Progress.Failed stop.details) after.cache := by
  unfold stoppedRun at answered served
  obtain ⟨created, creating, finish⟩ := Activity.answered_append.mp answered
  obtain ⟨stopped, stopping, abandoning⟩ := Activity.answered_append.mp finish
  obtain ⟨servedCreating, servedRest⟩ := allServed_append.mp served
  obtain ⟨servedCourse, servedAbandoning⟩ := allServed_append.mp servedRest
  rw [List.cons_append] at abandoning servedAbandoning
  obtain ⟨-, afterwards⟩ := Activity.answered_cons.mp abandoning
  obtain ⟨reportedWorld, reports, closes⟩ := Activity.answered_append.mp afterwards
  -- No step before the report disturbs the order of the cache.
  have orderlyCreated := orderly_of_keepsOrder orderly (by simp [sessionCreated, Call.KeepsOrder]) creating
    servedCreating
  have serves : (runIn context listening request ("session-" ++ id)).Serves context
      (terms (SharesRecord request.repositoryUrl) request.repositoryUrl fun _ => True) (fun _ => True)
      Moment.InCalendar :=
    Running.serves_terms (.refl _) (fun _ _ => trivial) trivial fun _ => trivial
  have orderlyStopped := (orderly_answered (Running.fares_course serves (fun _ _ => trivial)
    (fares_discardDrafts trivial)) orderlyCreated goes stopping servedCourse).2.2
  have orderlyDiscarded : Orderly (SharesRecord request.repositoryUrl) request.repositoryUrl
      (World.answer surroundings (.discardDrafts (projectKey request.repositoryUrl) none) stopped).2.cache := by
    rwa [World.cache_of_idle fun _ _ => rfl]
  obtain ⟨-, ends⟩ := Activity.answered_cons.mp closes
  rw [Activity.answered_nil.mp ends, World.cache_of_idle fun _ _ => rfl]
  exact holdsRecord_of_reportFailure orderlyDiscarded swift reported reports
    fun exchange member => servedAbandoning exchange (by simp [member])

end Stopped

/-- The failure of a stop is one of its stage, and is told as such. -/
theorem Stop.IsProper.failure_eq {stop : Stop} (proper : stop.IsProper) : ∃ report,
    stop.failure = .stage stop.reached report ∧
      (stop.details = (Problem.stage stop.reached report).message ∨
        stop.details = stop.reached.name ++ ": " ++ report) := by
  obtain ⟨reached, problem⟩ := stop
  unfold failure details
  cases problem with
  | stage named report =>
    obtain rfl : named = reached := proper
    exact ⟨report, rfl, .inl rfl⟩
  | _ => exact ⟨_, rfl, .inr rfl⟩

/-! ## Failed runs -/

/-- What a run failed with and what was noted about it, given its landmarks and the drafts that are left. -/
inductive FailedRun (request : Request) (landmarks : List Landmark) (drafts : List Variant) :
    Problem -> (details : String) -> Prop where
  /-- The path is bad. -/
  | rejected {problem : Problem} (bad : problem.IsBadPath request) :
    FailedRun request landmarks drafts problem (Stage.notStarted.name ++ ": " ++ problem.message)
  /-- The stage that was entered last failed, and all drafts were discarded. -/
  | stopped {reached : Stage} {report details : String} (last : lastStage landmarks = reached.name)
    (noted : details = (Problem.stage reached report).message ∨ details = reached.name ++ ": " ++ report)
    (noDrafts : drafts = []) : FailedRun request landmarks drafts (.stage reached report) details

/-- A run that fails without having found a result leaves all published documents, all drafts of other
projects and all kept results alone, and none of its own drafts, if it began. It fails as the stage that it
entered last, or for a bad path, and its progress record says so. -/
theorem runRequest_fails {problem : Problem} (room : 0 < world.sessions.maxSessions)
    (fresh : FindsNoResult surroundings context request world)
    (served : AllServed (runExchanges surroundings context listening request world))
    (fails : World.run surroundings (runRequest context listening request).run world =
      (.error problem, after)) :
    Spared (projectKey request.repositoryUrl) world after ∧
      ∃ details, FailedRun request
          (trail Call.landmark? (runExchanges surroundings context listening request world))
          (after.documents.variants (projectKey request.repositoryUrl) .draft) problem details ∧
        (Orderly (SharesRecord request.repositoryUrl) request.repositoryUrl world.cache ->
          (∀ state, context.progressLifetime.isOver (surroundings.elapsed state).1 = .ok false) ->
          HoldsRecord request.repositoryUrl (Progress.Failed details) after.cache) := by
  obtain ⟨goes, answered⟩ := way_of_run fails
  generalize runExchanges surroundings context listening request world = way at goes answered served ⊢
  obtain ⟨looking, rest, middle, rfl, start, finish, ⟨failure, looked, rejected⟩ | ⟨⟨kept, rfl⟩, started⟩⟩ :=
    goes_runRequest_fresh fresh goes answered
  · obtain ⟨servedFirst, servedSecond⟩ := allServed_append.mp served
    obtain ⟨rfl, rfl, bad, reported⟩ := rejected_of_served servedFirst servedSecond looked rejected
    obtain rfl := Activity.answered_nil.mp start
    have tentative := (abides_reporting (fun _ tentative => tentative) _).confined reported
    refine ⟨spared_of_sparing finish fun exchange member _ => tentative exchange member, _, .rejected bad,
      fun orderly swift => ?_⟩
    exact holdsRecord_of_reportFailure orderly swift reported finish servedSecond
  · obtain ⟨servedFirst, servedRun⟩ := allServed_append.mp served
    obtain ⟨id, ⟨noRoom, rfl, -⟩ | ⟨course, count, reporting, closed, stop, rfl, rfl, stopped, reported⟩⟩ :=
      stopped_of_served servedRun started
    · have full := maxSessions_of_noRoom finish
      rw [sessions_of_looking start] at full
      omega
    · obtain ⟨created, -, finishing⟩ := Activity.answered_append.mp finish
      obtain ⟨final, stopping, -⟩ := Activity.answered_append.mp finishing
      have servedCourse : AllServed course :=
        fun exchange member => servedRun exchange (by simp [stoppedRun, member])
      obtain ⟨⟨tasks, halts⟩, tentative⟩ := halts_of_course stopped stopping servedCourse
      have allTentative : ∀ exchange ∈ [⟨.readCache (resultKey request.repositoryUrl request.analysisType.name),
            .ok kept⟩] ++ stoppedRun context request id course count reporting closed,
          exchange.request.Tentative (projectKey request.repositoryUrl) :=
        List.forall_mem_append.mpr ⟨List.forall_mem_singleton.mpr ⟨trivial, trivial⟩,
          tentative_of_stoppedRun reported tentative⟩
      refine ⟨spared_of_sparing answered fun exchange member _ => allTentative exchange member, stop.details, ?_,
        fun orderly swift => ?_⟩
      · obtain ⟨report, failure, noted⟩ := halts.1.failure_eq
        rw [failure]
        refine .stopped ?_ noted (noDrafts_of_stoppedRun reported finish)
        rw [Activity.trail_append, trail_of_stoppedRun reported servedRun]
        exact halts.lastStage_eq
      · have orderlyThen := orderly_of_keepsOrder orderly (by simp [Call.KeepsOrder]) start servedFirst
        exact holdsRecord_of_stoppedRun reported finish orderlyThen swift stopped servedRun

/-- A run in which nothing is replied stops in its overview and says so. -/
theorem emptyRun_stops : ∃ problem after details,
    World.run (.reciting fun _ => none) emptyRun (.untouched []) = (.error problem, after) ∧
      FailedRun (emptyRequest .full) (trail Call.landmark? (emptyExchanges []))
        (after.documents.variants (projectKey "u") .draft) problem details ∧
      HoldsRecord "u" (Progress.Failed details) after.cache := by
  obtain ⟨served, problem, fails⟩ := emptyRun_fails
  obtain ⟨-, details, failed, holds⟩ := @runRequest_fails _ (.reciting fun _ => none) (.untouched []) _
    emptyContext ⟨true⟩ (emptyRequest .full) problem (by decide) (findsNoResult_of_get rfl) served
    (Prod.ext fails rfl)
  exact ⟨problem, _, details, Prod.ext fails rfl, failed, holds (orderly_untouched _ _ _) emptyContext_swift⟩

end RepoSurvey.Analysis

import RepoSurvey.Proofs.Analysis.Courses

/-!
# The parts of runs

A run for which no result is kept creates a session, passes through its course, does what is done about a
stop, and ends the session. `goes_startRun_ok` and `goes_startRun_error` take its ways apart.
-/

namespace RepoSurvey.Analysis

open Activity (Abides Answered Exchange Fares Terms)

variable {α : Type} {way : List (Exchange Call Answer)} {context : Context} {listening : Listening}
  {request : Request} {checkout : Files.Checkout}

/-- A look for a kept result that finds none is a look into the cache. -/
theorem goes_lookUp_none (goes : (lookUp checkout request).run.Goes way (.ok none)) : ∃ kept,
    way = [⟨.readCache (resultKey request.repositoryUrl request.analysisType.name), .ok kept⟩] := by
  unfold lookUp at goes
  split at goes
  · obtain ⟨kept, rfl, -⟩ := goes_readCache_ok.mp goes
    exact ⟨kept, rfl⟩
  · nomatch (Activity.goes_problem.mp goes).2
  · nomatch (Activity.goes_problem.mp goes).2

/-- A session is created under an identifier that was just made up, or there is no room for it. -/
theorem goes_createSession {goal path : String} {outcome : Except Problem String}
    (goes : (createSession goal path).run.Goes way outcome) : ∃ (id : String)
      (created : Except Session.NoRoom Unit), way =
        [⟨.freshId, id⟩, ⟨.session (.create ("session-" ++ id) goal path), created⟩] ∧
      outcome = (created.map fun _ => "session-" ++ id).mapError .noRoom := by
  obtain ⟨id, rest, rfl, onward⟩ := Activity.goes_call.mp goes
  obtain ⟨created, rest, rfl, ends⟩ := Activity.goes_call.mp onward
  refine ⟨id, created, ?_⟩
  cases created <;> obtain ⟨rfl, rfl⟩ := Activity.goes_done.mp ends <;> exact ⟨rfl, rfl⟩

/-- A course that stops is abandoned: its drafts are discarded and the failure is reported. -/
theorem goes_abandon {run : Running} {stop : Stop} {outcome : Except Problem Result}
    (goes : (run.abandon context stop).run.Goes way outcome) :
    ∃ discarding reporting discarded reported, way = discarding ++ reporting ∧
      (discardDrafts run.projectKey none).run.Goes discarding discarded ∧
      (reportFailure context run.listening run.request.repositoryUrl stop.details).run.Goes reporting
        reported ∧ outcome = reported.bind fun _ => .error stop.failure := by
  unfold Running.abandon at goes
  rw [Activity.run_then] at goes
  obtain ⟨discarding, reporting, ignored, rfl, ignore, onward⟩ := Activity.goes_bind.mp goes
  obtain ⟨discarded, discard, rfl⟩ := (Activity.goes_bind_done fun _ => rfl).mp ignore
  obtain ⟨reported, report, same⟩ := (Activity.goes_then_done fun _ => rfl).mp onward
  exact ⟨discarding, reporting, discarded, reported, rfl, discard, report, same⟩

/-- A run that returns a result went through its course without a stop. -/
theorem Running.goes_outcome_ok {run : Running} {result : Result}
    (goes : (run.outcome context).run.Goes way (.ok result)) :
    (run.course context).run.Goes way (.ok result) := by
  obtain ⟨first, second, outcome, rfl, course, onward⟩ := Activity.goes_bind.mp goes
  cases outcome with
  | ok found =>
    obtain ⟨rfl, same⟩ := Activity.goes_done.mp onward
    rw [List.append_nil, Except.ok.inj same]
    exact course
  | error stop =>
    obtain ⟨_, _, _, reported, -, -, -, same⟩ := goes_abandon onward
    cases reported <;> nomatch same

/-- A run that fails came to a stop and was abandoned. -/
theorem Running.goes_outcome_error {run : Running} {problem : Problem}
    (goes : (run.outcome context).run.Goes way (.error problem)) : ∃ first second stop,
      way = first ++ second ∧ (run.course context).run.Goes first (.error stop) ∧
        (run.abandon context stop).run.Goes second (.error problem) := by
  obtain ⟨first, second, outcome, rfl, course, onward⟩ := Activity.goes_bind.mp goes
  cases outcome with
  | ok found => nomatch (Activity.goes_done.mp onward).2
  | error stop => exact ⟨first, second, stop, rfl, course, onward⟩

/-- The session of a run is ended, whatever comes of it. -/
theorem Running.goes_closing {run : Running} {attempt : Attempt α} {outcome : Except Problem α}
    (goes : (run.closing attempt).run.Goes way outcome) : ∃ first answer,
      way = first ++ [⟨.session (.close run.session), answer⟩] ∧ attempt.run.Goes first outcome := by
  obtain ⟨first, second, found, rfl, attempted, onward⟩ := Activity.goes_bind.mp goes
  obtain ⟨answer, rest, rfl, ends⟩ := Activity.goes_call.mp onward
  obtain ⟨rfl, rfl⟩ := Activity.goes_done.mp ends
  exact ⟨first, answer, rfl, attempted⟩

/-- The run of a request in a session. -/
def runIn (context : Context) (listening : Listening) (request : Request) (session : String) :
    Running := ⟨request, context.checkout request.repositoryPath, session, listening⟩

/-- The exchanges by which a session is created. -/
def sessionCreated (context : Context) (request : Request) (id : String)
    (created : Except Session.NoRoom Unit) : List (Exchange Call Answer) :=
  [ ⟨.freshId, id⟩,
    ⟨.session (.create ("session-" ++ id) sessionGoal (context.checkout request.repositoryPath).path.text),
      created⟩ ]

/-- To create a session are tentative calls. -/
theorem tentative_sessionCreated (context : Context) (request : Request) {project : String} (id : String)
    (created : Except Session.NoRoom Unit) :
    ∀ exchange ∈ sessionCreated context request id created, exchange.request.Tentative project := by
  unfold sessionCreated
  rw [List.forall_mem_cons, List.forall_mem_singleton]
  exact ⟨⟨trivial, trivial⟩, trivial, trivial⟩

/-- A run creates a session, works in it and ends it, or there is no room for the session. -/
theorem goes_startRun {outcome : Except Problem Result}
    (goes : (startRun context listening request).run.Goes way outcome) : ∃ id : String,
      (∃ problem, way = sessionCreated context request id (.error problem) ∧
        outcome = .error (.noRoom problem)) ∨
      ∃ working answer, way = sessionCreated context request id (.ok ()) ++
          (working ++ [⟨.session (.close ("session-" ++ id)), answer⟩]) ∧
        ((runIn context listening request ("session-" ++ id)).outcome context).run.Goes working
          outcome := by
  unfold startRun at goes
  rw [Activity.run_then] at goes
  obtain ⟨creating, rest, session, rfl, create, onward⟩ := Activity.goes_bind.mp goes
  obtain ⟨id, created, rfl, rfl⟩ := goes_createSession create
  refine ⟨id, ?_⟩
  cases created with
  | error problem =>
    obtain ⟨rfl, rfl⟩ := Activity.goes_done.mp onward
    exact .inl ⟨problem, rfl, rfl⟩
  | ok done =>
    obtain ⟨working, answer, rfl, worked⟩ := Running.goes_closing onward
    exact .inr ⟨working, answer, rfl, worked⟩

/-- A run that is rejected reports that and fails. -/
theorem goes_rejectRun {problem : Problem} {outcome : Except Problem Result}
    (goes : (rejectRun context listening request problem).run.Goes way outcome) : ∃ reported,
      (reportFailure context listening request.repositoryUrl
        (Stage.notStarted.name ++ ": " ++ problem.message)).run.Goes way reported ∧
      outcome = reported.bind fun _ => .error problem := by
  unfold rejectRun at goes
  exact (Activity.goes_then_done fun _ => rfl).mp goes

/-- A kept result is given back as it reads at the present moment, after that was reported. -/
theorem goes_giveBack {value : Json} {outcome : Except Problem Result}
    (goes : (giveBack context listening request value).run.Goes way outcome) :
    ∃ emitting rest emitted, way = emitting ++ rest ∧
      (emit context listening request.repositoryUrl "Completed (cached)" 100).run.Goes emitting emitted ∧
      match emitted with
      | .error problem => rest = [] ∧ outcome = .error problem
      | .ok _ => ∃ now, rest = [⟨.now, now⟩] ∧
          outcome = (((Result.codec now).read value).toExcept Result.recordName).mapError .record := by
  unfold giveBack at goes
  rw [Activity.run_then] at goes
  obtain ⟨emitting, rest, emitted, rfl, emits, onward⟩ := Activity.goes_bind.mp goes
  refine ⟨emitting, rest, emitted, rfl, emits, ?_⟩
  cases emitted with
  | error problem => exact Activity.goes_done.mp onward
  | ok done =>
    dsimp only at onward
    rw [Activity.run_then] at onward
    obtain ⟨looking, ending, looked, rfl, look, ends⟩ := Activity.goes_bind.mp onward
    obtain ⟨now, asked, rfl⟩ := goes_certain.mp look
    obtain rfl := Activity.goes_ask.mp asked
    refine ⟨now, ?_⟩
    dsimp only at ends
    cases read : ((Result.codec now).read value).toExcept Result.recordName with
    | ok result =>
      rw [read] at ends
      obtain ⟨rfl, rfl⟩ := Activity.goes_value.mp ends
      exact ⟨rfl, rfl⟩
    | error report =>
      rw [read] at ends
      obtain ⟨rfl, rfl⟩ := Activity.goes_problem.mp ends
      exact ⟨rfl, rfl⟩

/-- A request is looked up first, and a run starts only if nothing is found. -/
theorem goes_runRequest {outcome : Except Problem Result}
    (goes : (runRequest context listening request).run.Goes way outcome) :
    ∃ looking rest looked, way = looking ++ rest ∧
      (lookUp (context.checkout request.repositoryPath) request).run.Goes looking looked ∧
      match looked with
      | .error problem => (rejectRun context listening request problem).run.Goes rest outcome
      | .ok (some value) => (giveBack context listening request value).run.Goes rest outcome
      | .ok none => (startRun context listening request).run.Goes rest outcome := by
  obtain ⟨looking, rest, looked, rfl, look, onward⟩ := Activity.goes_bind.mp goes
  refine ⟨looking, rest, looked, rfl, look, ?_⟩
  rcases looked with problem | (- | value) <;> exact onward

/-! ## Calls of runs, whatever is answered -/

section Parts

variable {conditions : Terms Call Answer}

/-- The look for a kept result is a look into the cache. -/
theorem abides_looking
    (may : conditions.asks (.readCache (resultKey request.repositoryUrl request.analysisType.name))) :
    Abides conditions (lookUp checkout request) := by
  unfold lookUp
  split
  · exact abides_readCache may
  · exact Activity.abides_throw _
  · exact Activity.abides_throw _

/-- To create a session takes an identifier and a call to the sessions. -/
theorem abides_createSession {goal path : String} (mayName : conditions.asks .freshId)
    (mayCreate : ∀ id, conditions.asks (.session (.create id goal path))) :
    Abides conditions (createSession goal path) :=
  Fares.andThen (fares_freshId mayName) fun _ =>
    ⟨mayCreate _, fun created _ => by cases created <;> trivial⟩

variable (tells : TellsProgress conditions context listening request.repositoryUrl)

include tells

/-- To give back a kept result is to report it at the present moment. -/
theorem abides_returning (value : Json) : Abides conditions (giveBack context listening request value) := by
  refine (tells.emits _ _).andThen fun _ => ?_
  have looked : Abides conditions present := fares_anyPresent tells.looks
  refine looked.andThen fun now => ?_
  split
  · exact Activity.abides_pure _
  · exact Activity.abides_throw _

variable {session : String}
  (mayDiscard : conditions.asks (.discardDrafts (projectKey request.repositoryUrl) none))

include mayDiscard

/-- To abandon a run is to discard its drafts and to report the failure. -/
theorem abides_abandoning (stop : Stop) :
    Abides conditions ((runIn context listening request session).abandon context stop) := by
  have discarded : Abides conditions (discardDrafts (projectKey request.repositoryUrl) none) :=
    abides_accepted ⟨mayDiscard, fun _ _ => trivial⟩
  refine (fares_ignore discarded).andThen fun _ => ?_
  exact (tells.fails _).andThen fun _ => Activity.abides_throw _

/-- To commence a run is to discard the drafts of earlier ones and to report that it begins. -/
theorem abides_commencing :
    Abides conditions ((runIn context listening request session).commence context) := by
  have discarded : Abides conditions (discardDrafts (projectKey request.repositoryUrl) none) :=
    abides_accepted ⟨mayDiscard, fun _ _ => trivial⟩
  exact discarded.andThen fun _ => tells.emits _ _

/-- A run in a session passes through its course and is abandoned if it stops. -/
theorem abides_working
    (serves : (runIn context listening request session).Serves context conditions (fun _ => True) fun _ => True) :
    Abides conditions ((runIn context listening request session).outcome context) := by
  have course : Abides conditions ((runIn context listening request session).course context) :=
    (fares_during (abides_commencing tells mayDiscard)).andThen fun _ =>
      (Running.fares_advance serves fun _ _ => trivial).abides
  refine Activity.keeps_bind.mpr (Activity.Keeps.mono course fun outcome _ => ?_)
  cases outcome with
  | ok result => trivial
  | error stop => exact abides_abandoning tells mayDiscard stop

/-- A request is looked up; it is rejected or given back what is kept, or it is run in a session. -/
theorem abides_running
    (mayLook : conditions.asks (.readCache (resultKey request.repositoryUrl request.analysisType.name)))
    (mayCreate : ∀ id goal path, conditions.asks (.session (.create id goal path)))
    (mayClose : ∀ id, conditions.asks (.session (.close id)))
    (serves : ∀ session, (runIn context listening request session).Serves context conditions (fun _ => True)
      fun _ => True) : Abides conditions (runRequest context listening request) := by
  refine Activity.keeps_bind.mpr (Activity.Keeps.mono (abides_looking mayLook) fun looked _ => ?_)
  rcases looked with problem | (- | value)
  · exact (tells.fails _).andThen fun _ => Activity.abides_throw _
  · have created : Abides conditions
        (createSession sessionGoal (context.checkout request.repositoryPath).path.text) :=
      abides_createSession tells.names fun _ => mayCreate _ _ _
    refine created.andThen fun session => ?_
    refine Activity.keeps_bind.mpr (Activity.Keeps.mono
      (abides_working tells mayDiscard (serves session)) fun outcome _ => ⟨mayClose _, fun _ _ => ?_⟩)
    cases outcome <;> trivial
  · exact abides_returning tells value

end Parts

section Calls

variable {allowed : Call -> Prop}
  (tentative : ∀ call, call.Tentative (projectKey request.repositoryUrl) -> allowed call)

include tentative

/-- Calls that report progress and write it down are allowed. -/
theorem allowed_of_notes {call : Call} (notes : call.Notes (fun _ => True) request.repositoryUrl) :
    allowed call := tentative call (Call.IsCommon.tentative (.inr notes) _)

/-- The drafts of the run may be discarded. -/
theorem allowed_discardDrafts : allowed (.discardDrafts (projectKey request.repositoryUrl) none) :=
  tentative _ ⟨rfl, trivial⟩

/-- The look for a kept result is a tentative call. -/
theorem abides_lookUp : Abides (Activity.asking Answer allowed) (lookUp checkout request) :=
  abides_looking (tentative _ ⟨trivial, trivial⟩)

/-- What is done about a failure are tentative calls. -/
theorem abides_reporting (details : String) : Abides (Activity.asking Answer allowed)
    (reportFailure context listening request.repositoryUrl details) :=
  abides_reportFailure (fun _ => allowed_of_notes tentative) details

/-- To give back a kept result are tentative calls. -/
theorem abides_giveBack (value : Json) : Abides (Activity.asking Answer allowed)
    (giveBack context listening request value) :=
  abides_returning (tells_anything fun _ => allowed_of_notes tentative) value

/-- What is done about a stop are tentative calls. -/
theorem abides_abandon (session : String) (stop : Stop) : Abides (Activity.asking Answer allowed)
    ((runIn context listening request session).abandon context stop) :=
  abides_abandoning (tells_anything fun _ => allowed_of_notes tentative) (allowed_discardDrafts tentative) stop

/-- A run begins with tentative calls. -/
theorem abides_commence (session : String) : Abides (Activity.asking Answer allowed)
    ((runIn context listening request session).commence context) :=
  abides_commencing (tells_anything fun _ => allowed_of_notes tentative) (allowed_discardDrafts tentative)

variable (mayPromote : allowed (.promoteDrafts (projectKey request.repositoryUrl)))
  (mayKeep : ∀ value, allowed (.writeCache
    (resultKey request.repositoryUrl request.analysisType.name) value context.resultLifetime))

include mayPromote mayKeep

/-- A run of a request makes tentative calls, publishes drafts and keeps a result. -/
theorem abides_runRequest : Abides (Activity.asking Answer allowed)
    (runRequest context listening request) :=
  abides_running (tells_anything fun _ => allowed_of_notes tentative) (allowed_discardDrafts tentative)
    (tentative _ ⟨trivial, trivial⟩) (fun _ _ _ => tentative _ ⟨trivial, trivial⟩)
    (fun _ => tentative _ ⟨trivial, trivial⟩) fun _ => Running.serves_asking tentative mayPromote mayKeep

end Calls

/-! ## Runs of requests -/

variable {σ : Type}

/-- What a run of a request exchanges with the world. -/
def runExchanges (surroundings : Surroundings σ) (context : Context) (listening : Listening)
    (request : Request) (world : World σ) : List (Exchange Call Answer) :=
  (runRequest context listening request).run.exchanges (World.answer surroundings) world

/-- A run of a request goes the way of its exchanges, and the world answers them. -/
theorem way_of_run {surroundings : Surroundings σ} {world after : World σ}
    {outcome : Except Problem Result}
    (ran : World.run surroundings (runRequest context listening request).run world = (outcome, after)) :
    (runRequest context listening request).run.Goes
        (runExchanges surroundings context listening request world) outcome ∧
      Answered (World.answer surroundings) world
        (runExchanges surroundings context listening request world) after := by
  obtain ⟨way, goes, answered⟩ := Activity.run_eq_iff.mp ran
  obtain rfl := (goes.eq_run answered).2
  exact ⟨goes, answered⟩

/-- Whether a run of a request finds no result kept for it, be it because the look for one fails. -/
def FindsNoResult (surroundings : Surroundings σ) (context : Context) (request : Request)
    (world : World σ) : Prop :=
  ∀ value, (World.run surroundings
    (lookUp (context.checkout request.repositoryPath) request).run world).1 ≠ .ok (some value)

/-- A run that finds no result is rejected, or it starts after a look into the cache. -/
theorem goes_runRequest_fresh {surroundings : Surroundings σ} {world after : World σ}
    {outcome : Except Problem Result} (fresh : FindsNoResult surroundings context request world)
    (goes : (runRequest context listening request).run.Goes way outcome)
    (answered : Answered (World.answer surroundings) world way after) : ∃ looking rest middle,
      way = looking ++ rest ∧ Answered (World.answer surroundings) world looking middle ∧
      Answered (World.answer surroundings) middle rest after ∧
      ((∃ problem, (lookUp (context.checkout request.repositoryPath) request).run.Goes looking
            (.error problem) ∧ (rejectRun context listening request problem).run.Goes rest outcome) ∨
        (∃ kept, looking = [⟨.readCache (resultKey request.repositoryUrl request.analysisType.name),
            .ok kept⟩]) ∧ (startRun context listening request).run.Goes rest outcome) := by
  obtain ⟨looking, rest, looked, rfl, look, onward⟩ := goes_runRequest goes
  obtain ⟨middle, start, finish⟩ := Activity.answered_append.mp answered
  refine ⟨looking, rest, middle, rfl, start, finish, ?_⟩
  rcases looked with problem | (- | value)
  · exact .inl ⟨problem, look, onward⟩
  · exact .inr ⟨goes_lookUp_none look, onward⟩
  · exact absurd (congrArg Prod.fst (look.eq_run start).1) (fresh value)

/-- The exchanges with which a run opens: a look for a result and the creation of a session. -/
def opening (context : Context) (request : Request) (kept : Option Json) (id : String) :
    List (Exchange Call Answer) :=
  ⟨.readCache (resultKey request.repositoryUrl request.analysisType.name), .ok kept⟩ ::
    sessionCreated context request id (.ok ())

/-- A run of a request that returns a result without having found one begins, advances to the result and
ends its session. -/
theorem goes_runRequest_ok {surroundings : Surroundings σ} {world after : World σ} {result : Result}
    (fresh : FindsNoResult surroundings context request world)
    (goes : (runRequest context listening request).run.Goes way (.ok result))
    (answered : Answered (World.answer surroundings) world way after) :
    ∃ kept id commencing advancing closed, way = opening context request kept id ++
        (commencing ++ (advancing ++ [⟨.session (.close ("session-" ++ id)), closed⟩])) ∧
      ((runIn context listening request ("session-" ++ id)).commence context).run.Goes commencing
        (.ok ()) ∧
      ((runIn context listening request ("session-" ++ id)).advance context).run.Goes advancing
        (.ok result) := by
  obtain ⟨looking, rest, middle, rfl, -, -, ⟨problem, -, rejected⟩ | ⟨⟨kept, rfl⟩, started⟩⟩ :=
    goes_runRequest_fresh fresh goes answered
  · obtain ⟨reported, -, same⟩ := goes_rejectRun rejected
    cases reported <;> nomatch same
  · obtain ⟨id, ⟨problem, -, same⟩ | ⟨working, closed, rfl, worked⟩⟩ := goes_startRun started
    · nomatch same
    · obtain ⟨commencing, advancing, _, rfl, commenced, advanced⟩ :=
        Activity.goes_then_ok.mp (Running.goes_outcome_ok worked)
      refine ⟨kept, id, commencing, advancing, closed, ?_, goes_during_ok.mp commenced, advanced⟩
      simp [opening]

end RepoSurvey.Analysis

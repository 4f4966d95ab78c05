import RepoSurvey.Proofs.Analysis.Keeping
import RepoSurvey.Proofs.Analysis.Recitals
import RepoSurvey.Proofs.Analysis.Results

/-!
# Runs that are repeated

A run that returns a result has kept it. As long as the lifetime of results lasts, the next run of the request gives
back what reads from the cache: `runRequest_repeats`. It asks no agent, creates no session and changes no document, and
it reports one event. What it returns is the result of the first run if that is plain, and only then.
-/

namespace RepoSurvey.Analysis

open Activity (Abides Answered Exchange Fares trail)
open Clock (Moment)
open Store (Cache)

variable {σ : Type} {surroundings : Surroundings σ} {world after : World σ} {context : Context}
  {listening : Listening} {request : Request} {way : List (Exchange Call Answer)} {result : Result}

/-! ## What the first run leaves -/

/-- When all calls are served, a run that returns a result without having found one makes it at a date of the
calendar, and leaves the progress record in order. -/
theorem made_of_runRequest (fresh : FindsNoResult surroundings context request world)
    (goes : (runRequest context listening request).run.Goes way (.ok result))
    (answered : Answered (World.answer surroundings) world way after) (served : AllServed way) :
    ∃ session, (runIn context listening request session).Makes Moment.InCalendar result ∧
      Orderly (fun _ => True) request.repositoryUrl after.cache := by
  obtain ⟨kept, id, commencing, advancing, closed, rfl, commenced, advanced⟩ := goes_runRequest_ok fresh goes answered
  obtain ⟨opened, -, working⟩ := Activity.answered_append.mp answered
  obtain ⟨begun, begins, onward⟩ := Activity.answered_append.mp working
  obtain ⟨made, makes, closes⟩ := Activity.answered_append.mp onward
  obtain ⟨-, servedWorking⟩ := allServed_append.mp served
  obtain ⟨servedBeginning, servedOnward⟩ := allServed_append.mp servedWorking
  obtain ⟨servedMaking, -⟩ := allServed_append.mp servedOnward
  obtain ⟨-, -, orderly⟩ := fair_of_commence commenced begins servedBeginning advanced makes servedMaking
  have serves : (runIn context listening request ("session-" ++ id)).Serves context
      (runIn context listening request ("session-" ++ id)).fair (fun _ => True) Moment.InCalendar :=
    Running.serves_terms trivial (fun _ _ => trivial) trivial fun _ => trivial
  obtain ⟨-, isMade, orderlyMade⟩ := orderly_answered (Running.fares_advance serves fun _ _ => trivial) orderly
    advanced makes servedMaking
  refine ⟨"session-" ++ id, isMade, ?_⟩
  obtain ⟨-, ends⟩ := Activity.answered_cons.mp closes
  rw [Activity.answered_nil.mp ends, World.cache_of_idle fun _ _ => rfl]
  exact orderlyMade

/-- A result that was kept is found as it was written, until its lifetime is over. -/
theorem found_of_kept {before completing : List (Exchange Call Answer)} {project : String}
    (answered : Answered (World.answer surroundings) world (before ++ request.kept context result :: completing) after)
    (sound : (Result.codec result.completedAt.reading).WritesSound result)
    (tentative : ∀ exchange ∈ completing, exchange.request.Tentative project) : ∃ keeps,
      Answered (World.answer surroundings) world (before ++ [request.kept context result]) keeps ∧
        ∀ later : Moment, after.clock.microseconds ≤ later.microseconds ->
          context.resultLifetime.isOver (later.since keeps.clock) = .ok false ->
            (after.cache.get (resultKey request.repositoryUrl request.analysisType.name) later).1 =
              .ok (some ((Result.codec result.completedAt.reading).write .stored result)) := by
  rw [List.append_cons] at answered
  obtain ⟨keeps, keeping, completes⟩ := Activity.answered_append.mp answered
  refine ⟨keeps, keeping, fun later late live => ?_⟩
  rw [World.result_answered completes (fun exchange member _ => (tentative exchange member).2) _ _ late,
    Cache.get_fst, kept_of_written sound keeping]
  simp only [Cache.found, live]

/-! ## What the second run does -/

/-- A run that returns a result is one of a directory. -/
theorem isDirectory_of_runRequest (goes : (runRequest context listening request).run.Goes way (.ok result)) :
    ∃ entry, (context.checkout request.repositoryPath).found = .ok (.directory entry) := by
  obtain ⟨looking, rest, looked, rfl, look, onward⟩ := goes_runRequest goes
  cases looked with
  | error problem =>
    obtain ⟨reported, -, same⟩ := goes_rejectRun onward
    cases reported <;> nomatch same
  | ok found =>
    unfold lookUp at look
    split at look
    · next isFound => exact ⟨_, isFound⟩
    · nomatch (Activity.goes_problem.mp look).2
    · nomatch (Activity.goes_problem.mp look).2

/-- What is found in the cache for a request whose repository is a directory is given back. -/
theorem goes_runRequest_found {value : Json} {outcome : Except Problem Result}
    (directory : ∃ entry, (context.checkout request.repositoryPath).found = .ok (.directory entry))
    (isFound : (world.cache.get (resultKey request.repositoryUrl request.analysisType.name)
      (world.next surroundings)).1 = .ok (some value)) (noNull : value ≠ .null)
    (goes : (runRequest context listening request).run.Goes way outcome)
    (answered : Answered (World.answer surroundings) world way after) (served : AllServed way) : ∃ rest,
      way = ⟨.readCache (resultKey request.repositoryUrl request.analysisType.name), .ok (some value)⟩ :: rest ∧
        (giveBack context listening request value).run.Goes rest outcome := by
  obtain ⟨looking, rest, looked, rfl, look, onward⟩ := goes_runRequest goes
  obtain ⟨entry, isDirectory⟩ := directory
  simp only [lookUp, isDirectory] at look
  obtain ⟨kept, rfl, rfl⟩ := goes_readCache_of_served (allServed_append.mp served).1 look
  obtain ⟨isAnswer, -⟩ := Activity.answered_cons.mp answered
  obtain rfl := Except.ok.inj ((World.cache_get_of_served isAnswer.symm).symm.trans isFound)
  rw [Option.filter_some, if_pos (bne_iff_ne.mpr noNull)] at onward
  exact ⟨rest, rfl, onward⟩

/-- The event that a call reports. -/
def Call.event? : Call -> Option Event
  | .report event => some event
  | _ => none

/-- The events reported so far are those of the calls made so far. -/
theorem World.events_eq (world : World σ) : world.events = world.calls.reverse.filterMap Call.event? :=
  congrArg (world.calls.reverse.filterMap ·) (funext fun call => by cases call <;> rfl)

/-- The events reported after a way are those reported before it and those of its calls. -/
theorem World.events_answered (answered : Answered (World.answer surroundings) world way after) :
    after.events = world.events ++ trail Call.event? way := by
  rw [World.events_eq, World.events_eq, World.calls_answered answered, List.reverse_append, List.reverse_reverse,
    List.filterMap_append, List.filterMap_map]
  rfl

/-- The event that a listener is told. -/
def Listening.hears (listening : Listening) (event : Event) : List Event :=
  if listening.hasListener then [event] else []

/-- A report of progress is the one event that a listener hears of. -/
theorem events_of_emit {url stage : String} {progress : Int}
    (goes : (emit context listening url stage progress).run.Goes way (.ok ())) :
    trail Call.event? way = listening.hears ⟨stage, progress, none⟩ := by
  unfold emit at goes
  obtain ⟨telling, noting, _, rfl, told, onward⟩ := Activity.goes_then_ok.mp goes
  obtain ⟨_, noted, -⟩ := (Activity.goes_then_value_ok fun _ => rfl).mp onward
  have silent : trail Call.event? noting = [] := by
    have records : Abides (Activity.asking Answer (Call.Records (fun _ => True) url))
      (Progress.note context.progressLifetime url ⟨stage, progress, none⟩) := abides_note (fun _ records => records) _
    refine List.filterMap_eq_nil_iff.mpr fun exchange member => ?_
    have isRecord := records.confined noted exchange member
    cases isCall : exchange.request with
    | report event =>
      rw [isCall] at isRecord
      exact isRecord.elim
    | _ => rfl
  rw [Activity.trail_append, silent, List.append_nil]
  unfold Listening.tell at told
  unfold Listening.hears
  split at told
  · next listens => 
    obtain rfl := Activity.goes_ask.mp (goes_accepted_ok.mp told)
    rw [if_pos listens]
    rfl
  · next deaf =>
    obtain ⟨rfl, -⟩ := Activity.goes_value.mp told
    rw [if_neg deaf]
    rfl

/-- Whether a call neither asks an agent nor creates or uses a session, and changes no document. -/
def Call.IsModest : Call -> Prop
  | .agent _ | .session _ | .saveDocument _ _ _ _ | .discardDrafts _ _ | .promoteDrafts _ => False
  | _ => True

/-- Modest calls change no document. -/
theorem Call.IsModest.quiet {call : Call} (modest : call.IsModest) : call.IsQuiet := by
  cases call <;> first | exact modest.elim | trivial

/-- The calls that report progress and write it down are modest. -/
theorem Call.Notes.modest {owned : String -> Prop} {url : String} {call : Call} (notes : call.Notes owned url) :
    call.IsModest := by
  rcases notes with records | ⟨event, rfl⟩
  · cases call <;> first | exact records.elim | trivial
  · trivial

/-- Whether the calls of a run are modest, no document is another one afterwards, and one event was heard of: that a
result was found. -/
structure Repeats (listening : Listening) (way : List (Exchange Call Answer)) (world after : World σ) : Prop where
  calls : ∀ exchange ∈ way, exchange.request.IsModest
  documents : after.documents = world.documents
  events : after.events = world.events ++ listening.hears ⟨"Completed (cached)", 100, none⟩

/-- In an orderly cache, a run that finds a result reports that and does nothing else. It returns what reads from what
it found. -/
theorem repeats_of_found {value : Json} {outcome : Except Problem Result} {rest : List (Exchange Call Answer)}
    (orderly : Orderly (fun _ => True) request.repositoryUrl world.cache)
    (isWay : way = ⟨.readCache (resultKey request.repositoryUrl request.analysisType.name), .ok (some value)⟩ :: rest)
    (goes : (giveBack context listening request value).run.Goes rest outcome)
    (answered : Answered (World.answer surroundings) world way after) (served : AllServed way) :
    Repeats listening way world after ∧ ∃ now,
      outcome = (((Result.codec now).read value).toExcept Result.recordName).mapError .record := by
  subst isWay
  obtain ⟨emitting, ending, emitted, rfl, emits, ends⟩ := goes_giveBack goes
  rw [← List.singleton_append] at answered served
  obtain ⟨servedLooking, servedGiving⟩ := allServed_append.mp served
  obtain ⟨looked, looking, giving⟩ := Activity.answered_append.mp answered
  obtain ⟨told, telling, -⟩ := Activity.answered_append.mp giving
  have orderlyThen := orderly_of_keepsOrder orderly (by simp [Call.KeepsOrder]) looking servedLooking
  have fares : Fares (terms (fun _ => True) request.repositoryUrl fun _ => True) (fun _ => True) (fun _ => False)
      (emit context listening request.repositoryUrl "Completed (cached)" 100) :=
    fares_emit (fun _ _ => trivial) trivial _ (by decide)
  have succeeds := (orderly_answered fares orderlyThen emits telling (allServed_append.mp servedGiving).1).2.1
  cases emitted with
  | error problem => exact succeeds.elim
  | ok done =>
    obtain ⟨now, rfl, rfl⟩ := ends
    have notes : Abides (Activity.asking Answer (Call.Notes (fun _ => True) request.repositoryUrl))
        (emit context listening request.repositoryUrl "Completed (cached)" 100) :=
      abides_emit (fun _ notes => notes) _ _
    have modest : ∀ exchange ∈ [⟨.readCache (resultKey request.repositoryUrl request.analysisType.name),
        .ok (some value)⟩] ++ (emitting ++ [⟨.now, now⟩]), exchange.request.IsModest := by
      simp only [List.forall_mem_append, List.forall_mem_singleton]
      exact ⟨trivial, fun exchange member => (notes.confined emits exchange member).modest, trivial⟩
    refine ⟨⟨modest, ?_, ?_⟩, now, rfl⟩
    · exact World.documents_of_quiet answered fun exchange member => (modest exchange member).quiet
    · rw [World.events_answered answered, Activity.trail_append, Activity.trail_append, events_of_emit emits]
      simp [trail, Call.event?]

/-! ## Runs that are repeated -/

/-- Whether an exchange of a way takes place at a moment. -/
def TakesPlace (surroundings : Surroundings σ) (world : World σ) (way : List (Exchange Call Answer))
    (exchange : Exchange Call Answer) (moment : Moment) : Prop :=
  ∃ before rest reached, way = before ++ exchange :: rest ∧
    Answered (World.answer surroundings) world (before ++ [exchange]) reached ∧ reached.clock = moment

/-- **Repeated runs.** When all calls are served, a run that returns a result without having found one keeps it at some
moment. As long as the lifetime of results is not over since then, the next run of the request asks no agent, creates no
session, changes no document and reports a single event. It returns what is read back of the result, which is the result
itself if that is plain, and only then. -/
theorem runRequest_repeats (metadata : (Json.obj request.metadata).Sound)
    (fresh : FindsNoResult surroundings context request world)
    (served : AllServed (runExchanges surroundings context listening request world))
    (returns : World.run surroundings (runRequest context listening request).run world = (.ok result, after)) :
    ∃ kept, TakesPlace surroundings world (runExchanges surroundings context listening request world)
        (request.kept context result) kept ∧
      ∀ again outcome later, context.resultLifetime.isOver ((after.next surroundings).since kept) = .ok false ->
        AllServed (runExchanges surroundings context again request after) ->
        World.run surroundings (runRequest context again request).run after = (outcome, later) ->
          Repeats again (runExchanges surroundings context again request after) after later ∧
            (∃ now, outcome = (((Result.codec now).read ((Result.codec now).write .stored result)).toExcept
              Result.recordName).mapError .record) ∧
            (outcome = .ok result ↔ result.IsPlain) := by
  obtain ⟨goes, answered⟩ := way_of_run returns
  generalize runExchanges surroundings context listening request world = way at goes answered served ⊢
  obtain ⟨session, makes, orderly⟩ := made_of_runRequest fresh goes answered served
  obtain ⟨_, found, before, completing, rfl, -, -, -, isResult, tentative, -⟩ :=
    kept_of_runRequest goes (kept_mem_of_ok fresh goes answered)
  obtain rfl := isResult result rfl
  obtain ⟨keeps, keeping, live⟩ := found_of_kept answered (Result.writesSound_of_makes makes metadata) tentative
  refine ⟨keeps.clock, ⟨before, completing, keeps, rfl, keeping, rfl⟩, ?_⟩
  intro again outcome later inTime servedAgain ran
  obtain ⟨repeated, isAnswered⟩ := way_of_run ran
  have isFound := live (after.next surroundings) (World.clock_le_next surroundings after) inTime
  obtain ⟨rest, isWay, givesBack⟩ := goes_runRequest_found (isDirectory_of_runRequest goes) isFound Json.noConfusion
    repeated isAnswered servedAgain
  obtain ⟨repeats, now, returned⟩ := repeats_of_found orderly isWay givesBack isAnswered servedAgain
  rw [Result.write_codec _ now] at returned
  refine ⟨repeats, ⟨now, returned⟩, ?_⟩
  rw [returned, mapError_eq_ok, Schema.Checked.toExcept_eq_ok]
  exact Result.restores_iff_isPlain makes metadata now

/-- Among surroundings that recite, the clock stands still. -/
theorem clock_reciting {refuses : Call -> Option String} {world after : World (List String)}
    (answered : Answered (World.answer (.reciting refuses)) world way after) : after.clock = world.clock := by
  induction answered with
  | nil => rfl
  | cons request rest inductionHypothesis =>
    rw [inductionHypothesis, World.clock_answer]
    simp [World.next, Surroundings.reciting, Moment.after]

/-- The world after the empty repository was analyzed. -/
def analyzedWorld : World (List String) :=
  (World.run (.reciting fun _ => none) emptyRun (.untouched emptyReplies)).2

set_option maxRecDepth 100000 in
/-- All calls of the analysis and of the same run after it are served, and the result is plain. -/
theorem emptyRun_plain : AllServed (emptyExchanges emptyReplies) ∧
    AllServed (runExchanges (.reciting fun _ => none) emptyContext ⟨true⟩ (emptyRequest .full) analyzedWorld) ∧
    ∃ result, (World.run (.reciting fun _ => none) emptyRun (.untouched emptyReplies)).1 = .ok result ∧
      result.IsPlain := by
  have computed : AllServed (emptyExchanges emptyReplies) ∧
      AllServed (runExchanges (.reciting fun _ => none) emptyContext ⟨true⟩ (emptyRequest .full) analyzedWorld) ∧
      ((World.run (.reciting fun _ => none) emptyRun (.untouched emptyReplies)).1.toOption.map fun result =>
        (result.metadata, result.dependencies, result.coreFeatures.features)) = some ([], .empty, []) := by
    simp only [analyzedWorld, emptyRun, emptyExchanges, runExchanges, runRequest, startRun, Running.outcome,
      Running.course, Running.advance, Running.inspect, Running.declaredDependencies, Running.writingStage,
      @writeAll_one emptyContext rfl, emptyRequest, emptyContext_checkout, ofCheckout_empty]
    decide +kernel
  obtain ⟨served, servedAgain, parts⟩ := computed
  obtain ⟨result, returned, same⟩ := Option.map_eq_some_iff.mp parts
  simp only [Prod.mk.injEq] at same
  obtain ⟨noMetadata, noDependencies, noFeatures⟩ := same
  refine ⟨served, servedAgain, result, ok_of_toOption returned, ?_, ?_, ?_⟩
  · rw [noDependencies]
    exact ⟨List.forall_mem_nil _, List.forall_mem_nil _⟩
  · rw [noMetadata]
    rfl
  · rw [noFeatures]
    exact List.forall_mem_nil _

/-- The empty repository is analyzed once: the second time the result is given back and one event is heard of. -/
theorem emptyRun_repeats : ∃ result later,
    (World.run (.reciting fun _ => none) emptyRun (.untouched emptyReplies)).1 = .ok result ∧
      World.run (.reciting fun _ => none) emptyRun analyzedWorld = (.ok result, later) ∧
      later.documents = analyzedWorld.documents ∧
      later.events = analyzedWorld.events ++ [⟨"Completed (cached)", 100, none⟩] := by
  obtain ⟨served, servedAgain, result, returned, plain⟩ := emptyRun_plain
  have ran : World.run (.reciting fun _ => none) emptyRun (.untouched emptyReplies) = (.ok result, analyzedWorld) :=
    Prod.ext returned rfl
  obtain ⟨_, ⟨_, _, kept, -, keeps, rfl⟩, repeats⟩ := runRequest_repeats
    (by simp [emptyRequest, Json.Sound, Json.SoundMembers]) (findsNoResult_of_get rfl) served ran
  have inTime : emptyContext.resultLifetime.isOver
      ((analyzedWorld.next (.reciting fun _ => none)).since kept.clock) = .ok false := by
    unfold World.next
    rw [clock_reciting keeps, clock_reciting (way_of_run ran).2]
    exact Store.Lifetime.isOver_ofSeconds 10 0
  obtain ⟨repeats, -, same⟩ := repeats ⟨true⟩ _ _ inTime servedAgain rfl
  exact ⟨result, _, returned, Prod.ext (same.mpr plain) rfl, repeats.documents, repeats.events⟩

end RepoSurvey.Analysis

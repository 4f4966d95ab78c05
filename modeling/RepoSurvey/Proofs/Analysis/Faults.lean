import RepoSurvey.Proofs.Analysis.Failures

/-!
# Runs among refused calls

Whichever calls are refused, a run that fails spares what was published and what results are kept, unless it
fails after its drafts were published: `runRequest_faults`. A result is kept only after that. What is published
then stays published: a run that is reported as failed is not taken back.
-/

namespace RepoSurvey.Analysis

open Activity (Abides Answered Exchange)

variable {σ : Type} {surroundings : Surroundings σ} {world after : World σ} {context : Context}
  {listening : Listening} {request : Request} {way : List (Exchange Call Answer)}

/-- Whether drafts of a request were published on a way and none later, and whether a result was kept after
that if any was. -/
def Exposes (context : Context) (request : Request) (way : List (Exchange Call Answer)) : Prop :=
  ∃ before rest, way = before ++ ⟨.promoteDrafts (projectKey request.repositoryUrl), .ok ()⟩ :: rest ∧
    (∀ exchange ∈ before, Sparing (projectKey request.repositoryUrl) exchange) ∧
    (∀ exchange ∈ rest, exchange.request.OnlyDrafts (projectKey request.repositoryUrl)) ∧
    ((∀ exchange ∈ rest, Sparing (projectKey request.repositoryUrl) exchange) ∨
      ∃ value, ⟨.writeCache (resultKey request.repositoryUrl request.analysisType.name) value
        context.resultLifetime, .ok ()⟩ ∈ rest)

/-- Whether a way publishes nothing and changes no results, or does so in their order. -/
def Orders (context : Context) (request : Request) (way : List (Exchange Call Answer)) : Prop :=
  (∀ exchange ∈ way, Sparing (projectKey request.repositoryUrl) exchange) ∨ Exposes context request way

/-- Tentative calls before and after a way make no difference. -/
theorem Orders.extend {first last : List (Exchange Call Answer)} (orders : Orders context request way)
    (before : ∀ exchange ∈ first, exchange.request.Tentative (projectKey request.repositoryUrl))
    (afterwards : ∀ exchange ∈ last, exchange.request.Tentative (projectKey request.repositoryUrl)) :
    Orders context request (first ++ way ++ last) := by
  have sparing : ∀ {part : List (Exchange Call Answer)},
      (∀ exchange ∈ part, exchange.request.Tentative (projectKey request.repositoryUrl)) ->
      ∀ exchange ∈ part, Sparing (projectKey request.repositoryUrl) exchange :=
    fun tentative exchange member _ => tentative exchange member
  rcases orders with spares | ⟨published, rest, rfl, spares, onlyDrafts, kept⟩
  · left
    rw [List.forall_mem_append, List.forall_mem_append]
    exact ⟨⟨sparing before, spares⟩, sparing afterwards⟩
  · refine .inr ⟨first ++ published, rest ++ last, by simp, ?_, ?_, ?_⟩
    · exact List.forall_mem_append.mpr ⟨sparing before, spares⟩
    · exact List.forall_mem_append.mpr ⟨onlyDrafts, fun exchange member => (afterwards exchange member).1⟩
    · rcases kept with spares | ⟨value, member⟩
      · exact .inl (List.forall_mem_append.mpr ⟨spares, sparing afterwards⟩)
      · exact .inr ⟨value, List.mem_append_left _ member⟩

/-! ## Publication that fails -/

namespace Running

variable {run : Running} {findings : Findings} {preparation : Preparation} {written : WriteReport}
  {problem : Problem}

/-- Drafts that are not published without trouble are not published at all. -/
theorem sparing_of_publishDrafts {project : String}
    (goes : (publishDrafts project).run.Goes way (.error problem)) :
    ∀ exchange ∈ way, Sparing project exchange := by
  unfold publishDrafts at goes
  rcases Activity.goes_then_error.mp goes with failed | ⟨_, second, count, rfl, counted, failed⟩
  · obtain ⟨obstacle, asked⟩ := obstacle_of_goes_accepted failed
    obtain rfl := Activity.goes_ask.mp asked
    exact List.forall_mem_singleton.mpr fun _ => ⟨trivial, trivial⟩
  · obtain rfl := Activity.goes_ask.mp (goes_accepted_ok.mp counted)
    refine List.forall_mem_cons.mpr ⟨fun _ => ⟨trivial, trivial⟩, ?_⟩
    split at failed
    · nomatch (Activity.goes_value.mp failed).2
    · obtain ⟨obstacle, asked⟩ := obstacle_of_goes_accepted ((Activity.goes_then_value_error fun _ => rfl).mp failed)
      obtain rfl := Activity.goes_ask.mp asked
      exact List.forall_mem_singleton.mpr fun carried => (nomatch carried)

/-- Sidebars are saved with tentative calls. -/
theorem abides_saveSidebars {project : String} (documents : List WrittenDocument) :
    Abides (Activity.asking Answer (Call.Tentative project)) (saveSidebars context project documents) := by
  have saved : ∀ name content language, Abides (Activity.asking Answer (Call.Tentative project))
      (saveDocument project name content language) :=
    fun _ _ _ => abides_accepted ⟨⟨rfl, trivial⟩, fun _ _ => trivial⟩
  unfold saveSidebars
  split
  · exact Activity.abides_throw _
  · exact (saved _ _ _).andThen fun _ => saved _ _ _

/-- Assembling that fails publishes nothing. -/
theorem sparing_of_assemblingStage
    (goes : (run.assemblingStage context written).run.Goes way (.error problem)) :
    ∀ exchange ∈ way, Sparing run.projectKey exchange := by
  have emits := (run.suits_tentative context).emits .assembling "Documentation assembled" 97 (by decide)
  unfold assemblingStage at goes
  rcases Activity.goes_then_error.mp goes with failed | ⟨saving, _, _, rfl, saved, goes⟩
  · exact fun exchange member _ => (abides_saveSidebars _).confined failed exchange member
  have saves := (abides_saveSidebars _).confined saved
  rcases Activity.goes_then_error.mp goes with failed | ⟨emitting, _, _, rfl, emitted, goes⟩
  · refine List.forall_mem_append.mpr ⟨fun exchange member _ => saves exchange member, ?_⟩
    exact fun exchange member _ => emits.confined failed exchange member
  rw [List.forall_mem_append, List.forall_mem_append]
  exact ⟨fun exchange member _ => saves exchange member,
    fun exchange member _ => emits.confined emitted exchange member,
    sparing_of_publishDrafts ((Activity.goes_then_value_error fun _ => rfl).mp goes)⟩

/-- A result is put together without trouble. -/
theorem not_goes_result_error :
    ¬ (run.result findings preparation written).run.Goes way (.error problem) := by
  intro goes
  obtain ⟨_, -, same⟩ := goes_certain.mp ((Activity.goes_then_value_error fun _ => rfl).mp goes)
  nomatch same

/-- A result is kept by a single call, which is not carried out if that fails. -/
theorem goes_keep {result : Result} {outcome : Except Problem Unit}
    (goes : (run.keep context result).run.Goes way outcome) : ∃ value answer,
      way = [⟨.writeCache (resultKey run.request.repositoryUrl run.request.analysisType.name) value
        context.resultLifetime, answer⟩] ∧ ∀ done, outcome = .ok done ↔ answer = .ok done := by
  obtain ⟨answer, asked, rfl⟩ := goes_accepted.mp goes
  exact ⟨_, answer, Activity.goes_ask.mp asked, fun _ => mapError_eq_ok⟩

end Running

/-- Publication that fails publishes nothing, or it keeps a result after that at most. -/
theorem orders_of_publish {run : Running} {findings : Running.Findings} {preparation : Running.Preparation}
    {written : WriteReport} {stop : Stop}
    (goes : (run.publish context findings preparation written).run.Goes way (.error stop))
    (answered : Answered (World.answer surroundings) world way after) : Orders context run.request way := by
  have entry : ∀ stage answer, Sparing run.projectKey ⟨run.entry stage, answer⟩ := fun _ _ _ => ⟨trivial, trivial⟩
  unfold Running.publish at goes
  rcases Activity.goes_then_error.mp goes with failed | ⟨first, second, _, rfl, assembled, onward⟩
  · obtain ⟨entered, assembling, rfl, working⟩ := Running.goes_entering_iff.mp failed
    obtain ⟨problem, failed, -⟩ := goes_during_error.mp working
    exact .inl (List.forall_mem_cons.mpr ⟨entry _ _, Running.sparing_of_assemblingStage failed⟩)
  obtain ⟨entered, assembling, rfl, working⟩ := Running.goes_entering_iff.mp assembled
  obtain ⟨middle, start, -⟩ := Activity.answered_append.mp answered
  obtain ⟨-, assembles⟩ := Activity.answered_cons.mp start
  obtain ⟨before, rfl, tentative, -⟩ := Running.promoted_of_assembled (goes_during_ok.mp working) assembles
  have spares : ∀ exchange ∈ ⟨run.entry .assembling, entered⟩ :: before, Sparing run.projectKey exchange :=
    List.forall_mem_cons.mpr ⟨entry _ _, fun exchange member _ => tentative exchange member⟩
  refine .inr ⟨⟨run.entry .assembling, entered⟩ :: before, second, ?_, spares, ?_⟩
  · rw [List.cons_append, List.cons_append, List.append_assoc]
    rfl
  rcases Activity.goes_then_error.mp onward with failed | ⟨_, third, result, rfl, resulted, keeping⟩
  · obtain ⟨problem, failed, -⟩ := goes_during_error.mp failed
    exact (Running.not_goes_result_error failed).elim
  obtain ⟨now, rfl, -⟩ := Running.goes_result_ok (goes_during_ok.mp resulted)
  rcases Activity.goes_then_error.mp keeping with failed | ⟨_, fourth, _, rfl, kept, finishing⟩
  · obtain ⟨problem, failed, -⟩ := goes_during_error.mp failed
    obtain ⟨value, answer, rfl, isAnswer⟩ := Running.goes_keep failed
    refine ⟨?_, .inl ?_⟩
    · rw [List.forall_mem_append, List.forall_mem_singleton, List.forall_mem_singleton]
      exact ⟨trivial, trivial⟩
    · rw [List.forall_mem_append, List.forall_mem_singleton, List.forall_mem_singleton]
      refine ⟨fun _ => ⟨trivial, trivial⟩, fun carried => ?_⟩
      cases answer with
      | error obstacle => nomatch carried
      | ok done => nomatch (isAnswer done).mpr rfl
  obtain ⟨value, answer, rfl, isAnswer⟩ := Running.goes_keep (goes_during_ok.mp kept)
  obtain rfl := (isAnswer ()).mp rfl
  refine ⟨?_, .inr ⟨value, by simp⟩⟩
  obtain ⟨completed, completing, rfl, working⟩ :=
    Running.goes_entering_iff.mp ((Activity.goes_then_value_error fun _ => rfl).mp finishing)
  obtain ⟨problem, failed, -⟩ := goes_during_error.mp working
  have completes := ((run.suits_tentative context).emits .published _ _ (by decide)).confined failed
  simp only [List.forall_mem_append, List.forall_mem_cons]
  exact ⟨⟨trivial, List.forall_mem_nil _⟩, ⟨trivial, List.forall_mem_nil _⟩, trivial,
    fun exchange member => (completes exchange member).1⟩

/-- A course that stops publishes nothing, or it keeps a result after that at most. -/
theorem orders_of_course {session : String} {stop : Stop}
    (goes : ((runIn context listening request session).course context).run.Goes way (.error stop))
    (answered : Answered (World.answer surroundings) world way after) : Orders context request way := by
  have begins : Abides (Activity.asking Answer (Call.Tentative (projectKey request.repositoryUrl)))
    ((runIn context listening request session).commence context) :=
      abides_commence (fun _ tentative => tentative) session
  rcases Activity.goes_then_error.mp goes with stopped | ⟨first, second, _, rfl, commenced, advanced⟩
  · obtain ⟨problem, failed, -⟩ := goes_during_error.mp stopped
    exact .inl fun exchange member _ => begins.confined failed exchange member
  obtain ⟨begun, -, finish⟩ := Activity.answered_append.mp answered
  have commences := begins.confined (goes_during_ok.mp commenced)
  have advances : Orders context request second := by
    rcases Running.goes_advance_error advanced with tentative |
      ⟨findings, preparation, written, before, publishing, rfl, tentative, -, -, -, published⟩
    · exact .inl fun exchange member _ => tentative exchange member
    · obtain ⟨middle, -, publishes⟩ := Activity.answered_append.mp finish
      have orders := (orders_of_publish published publishes).extend tentative (List.forall_mem_nil _)
      rwa [List.append_nil] at orders
  have orders := advances.extend commences (List.forall_mem_nil _)
  rwa [List.append_nil] at orders

/-- A run that starts and fails publishes nothing, or it keeps a result after that at most. -/
theorem orders_of_startRun {problem : Problem}
    (goes : (startRun context listening request).run.Goes way (.error problem))
    (answered : Answered (World.answer surroundings) world way after) : Orders context request way := by
  obtain ⟨id, ⟨noRoom, rfl, -⟩ | ⟨working, closed, rfl, worked⟩⟩ := goes_startRun goes
  · exact .inl fun exchange member _ => tentative_sessionCreated context request id _ exchange member
  · obtain ⟨course, abandoning, stop, rfl, stopped, abandoned⟩ := Running.goes_outcome_error worked
    obtain ⟨created, -, finish⟩ := Activity.answered_append.mp answered
    obtain ⟨ceased, ends, -⟩ := Activity.answered_append.mp finish
    obtain ⟨final, stops, -⟩ := Activity.answered_append.mp ends
    have abandons := (abides_abandon (fun _ tentative => tentative) _ stop).confined abandoned
    have closes : ∀ exchange ∈ abandoning ++ [⟨.session (.close ("session-" ++ id)), closed⟩],
        exchange.request.Tentative (projectKey request.repositoryUrl) :=
      List.forall_mem_append.mpr ⟨abandons, List.forall_mem_singleton.mpr ⟨trivial, trivial⟩⟩
    have orders := (orders_of_course stopped stops).extend
      (tentative_sessionCreated context request id (.ok ())) closes
    rwa [List.append_assoc, ← List.append_assoc course] at orders

/-- A run for which no result is found and that fails publishes nothing, or it keeps a result after that at
most. -/
theorem orders_of_failure {problem : Problem} (fresh : FindsNoResult surroundings context request world)
    (goes : (runRequest context listening request).run.Goes way (.error problem))
    (answered : Answered (World.answer surroundings) world way after) : Orders context request way := by
  have looks : Abides (Activity.asking Answer (Call.Tentative (projectKey request.repositoryUrl)))
    (lookUp (context.checkout request.repositoryPath) request) := abides_lookUp fun _ tentative => tentative
  obtain ⟨looking, rest, middle, rfl, -, finish, ⟨failure, looked, rejected⟩ | ⟨⟨kept, rfl⟩, started⟩⟩ :=
    goes_runRequest_fresh fresh goes answered
  · obtain ⟨reported, report, -⟩ := goes_rejectRun rejected
    left
    rw [List.forall_mem_append]
    exact ⟨fun exchange member _ => looks.confined looked exchange member, fun exchange member _ =>
      (abides_reporting (fun _ tentative => tentative) _).confined report exchange member⟩
  · have look : ∀ exchange ∈ ([⟨.readCache (resultKey request.repositoryUrl request.analysisType.name),
        .ok kept⟩] : List (Exchange Call Answer)),
        exchange.request.Tentative (projectKey request.repositoryUrl) :=
      List.forall_mem_singleton.mpr ⟨trivial, trivial⟩
    have orders := (orders_of_startRun started finish).extend look (List.forall_mem_nil _)
    rwa [List.append_nil] at orders

/-! ## What is left behind -/

/-- Whichever calls are refused, a run for which no result is found and that fails spares the world but for
its own drafts, unless it published them before it failed. Then they stay published, and the results that are
kept are the same unless the run kept its own. -/
theorem runRequest_faults {problem : Problem} (fresh : FindsNoResult surroundings context request world)
    (fails : World.run surroundings (runRequest context listening request).run world =
      (.error problem, after)) :
    Spared (projectKey request.repositoryUrl) world after ∨
      ∃ before rest middle, runExchanges surroundings context listening request world =
          before ++ ⟨.promoteDrafts (projectKey request.repositoryUrl), .ok ()⟩ :: rest ∧
        Answered (World.answer surroundings) world before middle ∧
        after.documents.variants (projectKey request.repositoryUrl) .published =
          middle.documents.variants (projectKey request.repositoryUrl) .draft ∧
        after.documents.others (projectKey request.repositoryUrl) =
          world.documents.others (projectKey request.repositoryUrl) ∧
        ((∀ url typeName later, after.clock.microseconds ≤ later.microseconds ->
            (after.cache.get (resultKey url typeName) later).1 =
              (world.cache.get (resultKey url typeName) later).1) ∨
          ∃ value, ⟨.writeCache (resultKey request.repositoryUrl request.analysisType.name) value
            context.resultLifetime, .ok ()⟩ ∈ rest) := by
  obtain ⟨goes, answered⟩ := way_of_run fails
  rcases orders_of_failure fresh goes answered with sparing | ⟨before, rest, isWay, sparing, onlyDrafts, kept⟩
  · exact .inl (spared_of_sparing answered sparing)
  refine .inr ⟨before, rest, ?_⟩
  rw [isWay] at answered ⊢
  obtain ⟨middle, start, finish⟩ := Activity.answered_append.mp answered
  obtain ⟨isAnswer, afterwards⟩ := Activity.answered_cons.mp finish
  have promoted : (World.answer surroundings (.promoteDrafts (projectKey request.repositoryUrl)) middle).2.documents =
      middle.documents.published (projectKey request.repositoryUrl) := World.documents_of_served isAnswer.symm
  have same := World.beyond_answered afterwards fun exchange member _ => onlyDrafts exchange member
  rw [promoted] at same
  refine ⟨middle, rfl, start, ?_, ?_, kept.imp_left fun spares url typeName later le => ?_⟩
  · exact (Store.Documents.variants_eq_of_beyond same).trans Store.Documents.variants_published
  · rw [Store.Documents.others_eq_of_beyond same, Store.Documents.others_published]
    exact Store.Documents.others_eq_of_beyond (spared_of_sparing start sparing).documents
  · refine World.result_answered answered ?_ url typeName le
    rw [List.forall_mem_append, List.forall_mem_cons]
    exact ⟨fun exchange member carried => (sparing exchange member carried).2, fun _ => trivial,
      fun exchange member carried => (spares exchange member carried).2⟩

/-- A run of which only the end is refused to be heard of fails, and yet its documents are published. -/
theorem emptyRun_exposed : ∃ (problem : Problem) (after middle : World (List String))
      (before rest : List (Exchange Call Answer)),
    World.run (.reciting refusesEnd) emptyRun (.untouched emptyReplies) = (.error problem, after) ∧
      (unheardExchanges.filter fun exchange => !decide (exchange.request.Served exchange.answer)).length = 1 ∧
      unheardExchanges = before ++ ⟨.promoteDrafts (projectKey "u"), .ok ()⟩ :: rest ∧
      after.documents.variants (projectKey "u") .published =
        middle.documents.variants (projectKey "u") .draft ∧
      (after.documents.variants (projectKey "u") .published).map (·.name) =
        ["Overview", "Overview", "_sidebar", "_sidebar"] := by
  obtain ⟨⟨problem, fails⟩, single, names⟩ := emptyRun_unheard
  obtain spared | ⟨before, rest, middle, isWay, -, published, -⟩ := @runRequest_faults _ (.reciting refusesEnd)
    (.untouched emptyReplies) _ emptyContext ⟨true⟩ (emptyRequest .full) problem (findsNoResult_of_get rfl)
    (Prod.ext fails rfl)
  · -- Nothing was published before, so that the published documents would have to be none.
    have nothing : (World.run (.reciting refusesEnd) emptyRun (.untouched emptyReplies)).2.documents.variants
      (projectKey "u") .published = [] := Store.Documents.variants_eq_of_beyond spared.documents
    rw [nothing] at names
    nomatch names
  · exact ⟨problem, _, middle, before, rest, Prod.ext fails rfl, single, isWay, published, names⟩

end RepoSurvey.Analysis

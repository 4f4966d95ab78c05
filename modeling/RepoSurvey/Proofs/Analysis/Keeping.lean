import RepoSurvey.Proofs.Analysis.Faults
import RepoSurvey.Proofs.Analysis.Settling

/-!
# Where runs publish and keep results

All calls of a run are tentative until it publishes what was written: a call that is not, is made in the last
part of its course, `publishing_of_advance`. A result is kept after the drafts were published, and a run that has
kept one may still fail, but does nothing more with documents or results: `kept_of_runRequest`.
-/

namespace RepoSurvey.Analysis

open Activity (Abides Answered Exchange Fares trail)
open Store (Cache Documents)

variable {context : Context} {listening : Listening} {request : Request} {way : List (Exchange Call Answer)}

/-- A publication of the drafts of a project that is carried out. -/
def promotion (project : String) : Exchange Call Answer := ⟨.promoteDrafts project, .ok ()⟩

/-- A publication is no call that writes drafts at most. -/
theorem promotion_notMem {project : String} (onlyDrafts : ∀ exchange ∈ way,
    exchange.request.carried exchange.answer = true -> exchange.request.OnlyDrafts project) :
    promotion project ∉ way := fun member => onlyDrafts _ member rfl

/-- A call that concerns a project and is no publication writes drafts of the project at most. -/
theorem onlyDrafts_of_concerns {project : String} {exchange : Exchange Call Answer}
    (concerns : exchange.request.Concerns project)
    (carried : exchange.request.carried exchange.answer = true) (differs : exchange ≠ promotion project) :
    exchange.request.OnlyDrafts project := by
  obtain ⟨request, answer⟩ := exchange
  cases request with
  | promoteDrafts other =>
    obtain rfl : other = project := concerns
    cases answer with
    | ok done => exact (differs rfl).elim
    | error obstacle => nomatch carried
  | saveDocument | discardDrafts => exact concerns
  | _ => trivial

/-- Every call concerns a project, whichever it is. -/
theorem Call.exists_concerns (call : Call) : ∃ project, call.Concerns project := by
  cases call with
  | saveDocument other | discardDrafts other | promoteDrafts other => exact ⟨other, rfl⟩
  | _ => exact ⟨"", trivial⟩

/-- What is published for a project stays until a publication for it is carried out. -/
theorem World.published_stays {σ : Type} {surroundings : Surroundings σ} {world after : World σ} {project : String}
    (answered : Answered (World.answer surroundings) world way after) (none : promotion project ∉ way) :
    after.documents.variants project .published = world.documents.variants project .published := by
  refine World.documents_answered (fun documents => documents.variants project .published) answered
    fun exchange member carried now documents => ?_
  by_cases concerns : exchange.request.Concerns project
  · have onlyDrafts := onlyDrafts_of_concerns concerns carried fun same => none (same ▸ member)
    exact Documents.variants_eq_of_beyond (Call.beyond_storing onlyDrafts)
  · obtain ⟨other, concernsOther⟩ := exchange.request.exists_concerns
    refine Documents.variants_eq_of_others ?_ (Call.others_storing concernsOther)
    rintro rfl
    exact concerns concernsOther

/-- A result that is kept under a key. -/
def keeping (key : String) (value : Json) (lifetime : Store.Lifetime) : Exchange Call Answer :=
  ⟨.writeCache key value lifetime, .ok ()⟩

/-- To keep a result is no call that leaves results alone. -/
theorem not_leavesResults (url typeName : String) (value : Json) (lifetime : Store.Lifetime) :
    ¬ (Call.writeCache (resultKey url typeName) value lifetime).LeavesResults :=
  fun ⟨_, same⟩ => resultKey_ne_progressKey _ _ _ same

/-- No result is kept by exchanges whose calls leave results alone as far as they are carried out. -/
theorem keeping_notMem {url typeName : String} {value : Json} {lifetime : Store.Lifetime}
    (leaves : ∀ exchange ∈ way, exchange.request.carried exchange.answer = true ->
      exchange.request.LeavesResults) : keeping (resultKey url typeName) value lifetime ∉ way := fun member =>
  not_leavesResults _ _ _ _ (leaves _ member rfl)

/-! ## Bold calls -/

section Bold

variable {project : String} {exchange : Exchange Call Answer} {first second : List (Exchange Call Answer)}
  (bold : ¬ exchange.request.Tentative project) (member : exchange ∈ first ++ second)

include bold member

/-- A call that is not tentative is made after all that are. -/
theorem later_of_bold (tentative : ∀ exchange ∈ first, exchange.request.Tentative project) : exchange ∈ second :=
  (List.mem_append.mp member).resolve_left fun early => bold (tentative exchange early)

/-- A call that is not tentative is made before all that are. -/
theorem earlier_of_bold (tentative : ∀ exchange ∈ second, exchange.request.Tentative project) : exchange ∈ first :=
  (List.mem_append.mp member).resolve_right fun late => bold (tentative exchange late)

end Bold

namespace Running

variable {run : Running} {outcome : Except Stop Result} {exchange : Exchange Call Answer}

/-- A course in which a call is made that is not tentative has surveyed, prepared and written, and makes the call
while it publishes. -/
theorem publishing_of_advance (goes : (run.advance context).run.Goes way outcome) (member : exchange ∈ way)
    (bold : ¬ exchange.request.Tentative run.projectKey) :
    ∃ findings preparation written inspecting preparing entered writing publishing,
      way = inspecting ++ preparing ++ ⟨run.entry .writing, entered⟩ :: writing ++ publishing ∧
      (run.inspect context).run.Goes inspecting (.ok findings) ∧
      (run.prepare context findings).run.Goes preparing (.ok preparation) ∧
      (run.writingStage context preparation).run.Goes writing (.ok written) ∧
      (run.publish context findings preparation written).run.Goes publishing outcome ∧
      exchange ∈ publishing := by
  have suits := run.suits_tentative context
  have inspects := @fares_during _ .notStarted _ _ _ _ (fares_inspect suits fun _ _ => trivial)
  have prepares := fares_prepare suits fun _ _ => trivial
  have writes := fun preparation => @fares_entering _ .writing _ _ _ _ _ _ suits
    (fares_writingStage suits (fun _ _ => trivial) preparation fun _ drafts => drafts.tentative)
  unfold advance at goes
  rcases Activity.goes_then_cases goes with ⟨stop, stopped⟩ | ⟨inspecting, _, findings, rfl, inspected, onward⟩
  · exact (bold (inspects.confined stopped _ member)).elim
  replace member := later_of_bold bold member (inspects.confined inspected)
  rcases Activity.goes_then_cases onward with ⟨stop, stopped⟩ | ⟨preparing, _, preparation, rfl, prepared, further⟩
  · exact (bold ((prepares findings).confined stopped _ member)).elim
  replace member := later_of_bold bold member ((prepares findings).confined prepared)
  rcases Activity.goes_then_cases further with ⟨stop, stopped⟩ | ⟨_, publishing, written, rfl, wrote, publishes⟩
  · exact (bold ((writes preparation).confined stopped _ member)).elim
  replace member := later_of_bold bold member ((writes preparation).confined wrote)
  obtain ⟨entered, writing, rfl, working⟩ := goes_entering_iff.mp wrote
  exact ⟨findings, preparation, written, inspecting, preparing, entered, writing, publishing, by simp,
    goes_during_ok.mp inspected, prepared, goes_during_ok.mp working, publishes, member⟩

end Running

/-- A run in which a call is made that is not tentative looked for a result in vain, created a session and began,
and makes the call after that. -/
theorem advancing_of_runRequest {outcome : Except Problem Result} {exchange : Exchange Call Answer}
    (goes : (runRequest context listening request).run.Goes way outcome) (member : exchange ∈ way)
    (bold : ¬ exchange.request.Tentative (projectKey request.repositoryUrl)) :
    ∃ kept id commencing advancing reached ending, way = opening context request kept id ++
        (commencing ++ (advancing ++ ending)) ∧
      ((runIn context listening request ("session-" ++ id)).commence context).run.Goes commencing (.ok ()) ∧
      ((runIn context listening request ("session-" ++ id)).advance context).run.Goes advancing reached ∧
      (∀ result, outcome = .ok result -> reached = .ok result) ∧
      (∀ exchange ∈ ending, exchange.request.Tentative (projectKey request.repositoryUrl)) ∧
      exchange ∈ advancing := by
  obtain ⟨looking, _, looked, rfl, look, starts⟩ := goes_runRequest goes
  replace member := later_of_bold bold member ((abides_lookUp fun _ tentative => tentative).confined look)
  rcases looked with problem | (- | value)
  · obtain ⟨reported, report, -⟩ := goes_rejectRun starts
    exact (bold ((abides_reporting (fun _ tentative => tentative) _).confined report _ member)).elim
  swap
  · exact (bold ((abides_giveBack (fun _ tentative => tentative) value).confined starts _ member)).elim
  obtain ⟨kept, rfl⟩ := goes_lookUp_none look
  obtain ⟨id, ⟨noRoom, rfl, -⟩ | ⟨working, closed, rfl, worked⟩⟩ := goes_startRun starts
  · exact (bold (tentative_sessionCreated context request id _ _ member)).elim
  have closes : ∀ exchange ∈ ([⟨.session (.close ("session-" ++ id)), closed⟩] : List (Exchange Call Answer)),
      exchange.request.Tentative (projectKey request.repositoryUrl) :=
    List.forall_mem_singleton.mpr ⟨trivial, trivial⟩
  replace member := later_of_bold bold member (tentative_sessionCreated context request id _)
  replace member := earlier_of_bold bold member closes
  obtain ⟨coursing, abandoning, ended, rfl, course, onward⟩ := Activity.goes_bind.mp worked
  obtain ⟨abandons, same⟩ : (∀ exchange ∈ abandoning, exchange.request.Tentative
      (projectKey request.repositoryUrl)) ∧ ∀ result, outcome = .ok result -> ended = .ok result := by
    cases ended with
    | ok result =>
      obtain ⟨rfl, rfl⟩ := Activity.goes_done.mp onward
      exact ⟨List.forall_mem_nil _, fun _ same => congrArg Except.ok (Except.ok.inj same)⟩
    | error stop =>
      refine ⟨(abides_abandon (fun _ tentative => tentative) _ stop).confined onward, fun result same => ?_⟩
      obtain ⟨_, _, _, reported, -, -, -, failed⟩ := goes_abandon onward
      cases reported <;> nomatch same.symm.trans failed
  replace member := earlier_of_bold bold member abandons
  have commences : Abides (Activity.asking Answer (Call.Tentative (projectKey request.repositoryUrl)))
      (during .notStarted ((runIn context listening request ("session-" ++ id)).commence context)) :=
    fares_during (abides_commence (fun _ tentative => tentative) _)
  rcases Activity.goes_then_cases course with ⟨stop, stopped⟩ | ⟨commencing, advancing, _, rfl, commenced, advanced⟩
  · exact (bold (commences.confined stopped _ member)).elim
  replace member := later_of_bold bold member (commences.confined commenced)
  refine ⟨kept, id, commencing, advancing, ended, abandoning ++ [⟨.session (.close ("session-" ++ id)), closed⟩],
    by simp [opening], goes_during_ok.mp commenced, advanced, same, ?_, member⟩
  exact List.forall_mem_append.mpr ⟨abandons, closes⟩

/-! ## Keeping -/

/-- The exchange by which the result of a request is kept. -/
def Request.kept (request : Request) (context : Context) (result : Result) : Exchange Call Answer :=
  keeping (resultKey request.repositoryUrl request.analysisType.name)
    ((Result.codec result.completedAt.reading).write .stored result) context.resultLifetime

namespace Running

variable {run : Running} {findings : Findings} {preparation : Preparation} {written : WriteReport}
  {outcome : Except Stop Result} {value : Json} {lifetime : Store.Lifetime}

/-- Nothing that is done in assembling changes what results are kept. -/
theorem leavesResults_of_assembled (goes : (run.assemblingStage context written).run.Goes way (.ok ())) :
    ∀ exchange ∈ way, exchange.request.LeavesResults := by
  obtain ⟨emitting, count, rfl, emitted⟩ := goes_assemblingStage_ok goes
  have tentative := ((run.suits_tentative context).emits .assembling _ _ (by decide)).confined emitted
  have promotes : ∀ exchange ∈ if count = 0 then [] else
      [(⟨.promoteDrafts run.projectKey, .ok ()⟩ : Exchange Call Answer)], exchange.request.LeavesResults := by
    split
    · exact List.forall_mem_nil _
    · exact List.forall_mem_singleton.mpr trivial
  simp only [sidebarsSaved, List.forall_mem_append, List.forall_mem_cons]
  exact ⟨⟨⟨trivial, trivial, List.forall_mem_nil _⟩, fun exchange member => (tentative exchange member).2⟩, trivial,
    promotes⟩

/-- What is done after a result was kept is tentative, and a result that is returned is the one that was kept. -/
theorem tentative_completing {completing : List (Exchange Call Answer)} {result : Result}
    (goes : (do run.entering .published (run.complete context); pure result : Course Result).run.Goes completing
      outcome) : (∀ exchange ∈ completing, exchange.request.Tentative run.projectKey) ∧
        ∀ found, outcome = .ok found -> found = result := by
  have suits := run.suits_tentative context
  have finishes : Fares (Activity.asking Answer (Call.Tentative run.projectKey)) (fun found => found = result)
      (fun _ => True) (do run.entering .published (run.complete context); pure result : Course Result) :=
    (fares_entering suits (suits.emits .published _ _ (by decide))).andThen fun _ => Activity.fares_pure rfl
  refine ⟨finishes.confined goes, ?_⟩
  rintro found rfl
  exact finishes.ends goes

/-- A publication in which a result is kept assembled the documents, put the result together and kept it; nothing
but tentative calls come after that, and a result that is returned is the one that was kept. -/
theorem kept_of_publish (goes : (run.publish context findings preparation written).run.Goes way outcome)
    {url typeName : String} (keeps : keeping (resultKey url typeName) value lifetime ∈ way) :
    ∃ entered assembling now completing, way = ⟨run.entry .assembling, entered⟩ :: assembling ++ ⟨.now, now⟩ ::
        run.request.kept context (run.resultAt findings preparation written now) :: completing ∧
      (run.assemblingStage context written).run.Goes assembling (.ok ()) ∧
      keeping (resultKey url typeName) value lifetime =
        run.request.kept context (run.resultAt findings preparation written now) ∧
      (∀ result, outcome = .ok result -> result = run.resultAt findings preparation written now) ∧
      ∀ exchange ∈ completing, exchange.request.Tentative run.projectKey := by
  unfold publish at goes
  rcases Activity.goes_then_cases goes with ⟨stop, stopped⟩ | ⟨_, _, _, rfl, assembled, onward⟩
  · obtain ⟨entered, assembling, rfl, working⟩ := goes_entering_iff.mp stopped
    obtain ⟨problem, failed, -⟩ := goes_during_error.mp working
    refine (keeping_notMem (fun exchange member carried => ?_) keeps).elim
    rcases List.mem_cons.mp member with rfl | member
    · trivial
    · exact (sparing_of_assemblingStage failed exchange member carried).2
  obtain ⟨entered, assembling, rfl, working⟩ := goes_entering_iff.mp assembled
  replace working := goes_during_ok.mp working
  have leaves : ∀ exchange ∈ ⟨run.entry .assembling, entered⟩ :: assembling, exchange.request.LeavesResults :=
    List.forall_mem_cons.mpr ⟨trivial, leavesResults_of_assembled working⟩
  replace keeps := (List.mem_append.mp keeps).resolve_left
    (keeping_notMem fun exchange member _ => leaves exchange member)
  rcases Activity.goes_then_cases onward with ⟨stop, stopped⟩ | ⟨_, _, result, rfl, resulted, further⟩
  · obtain ⟨problem, failed, -⟩ := goes_during_error.mp stopped
    exact (not_goes_result_error failed).elim
  obtain ⟨now, rfl, rfl⟩ := goes_result_ok (goes_during_ok.mp resulted)
  replace keeps := (List.mem_append.mp keeps).resolve_left
    (keeping_notMem (List.forall_mem_singleton.mpr fun _ => trivial))
  rcases Activity.goes_then_cases further with ⟨stop, stopped⟩ | ⟨_, completing, done, rfl, kept, finish⟩
  · obtain ⟨problem, failed, -⟩ := goes_during_error.mp stopped
    obtain ⟨obstacle, asked⟩ := obstacle_of_goes_accepted failed
    obtain rfl := Activity.goes_ask.mp asked
    have carried := congrArg (fun exchange => exchange.request.carried exchange.answer) (List.mem_singleton.mp keeps)
    nomatch carried
  · obtain rfl := Activity.goes_ask.mp (goes_accepted_ok.mp (goes_during_ok.mp kept))
    obtain ⟨tentative, same⟩ := tentative_completing finish
    refine ⟨entered, assembling, now, completing, ?_, working, ?_, same, tentative⟩
    · simp [Request.kept, keeping]
    · refine List.mem_singleton.mp ((List.mem_append.mp keeps).resolve_right ?_)
      exact keeping_notMem fun exchange member _ => (tentative exchange member).2

end Running

/-! ## Documents of kept results -/

/-- Whether all documents of a result can be read, in all languages that they are said to have. -/
def Result.HasDocuments (result : Result) (documents : Documents) : Prop :=
  ∀ entry ∈ result.documents, ∀ language ∈ entry.languages,
    (documents.get? result.projectKey entry.docName language .published).isSome

/-- Whether the documents of a result can be read is told by what is published for its project. -/
theorem Result.HasDocuments.of_variants {result : Result} {documents later : Documents}
    (hasDocuments : result.HasDocuments documents) (same : later.variants result.projectKey .published =
      documents.variants result.projectKey .published) : result.HasDocuments later := by
  intro entry member language isLanguage
  have readable := hasDocuments entry member language isLanguage
  rw [Documents.isSome_get?_iff] at readable ⊢
  rwa [same]

/-- The titles that a call notes as those of the tasks of a schedule. -/
def Call.titles? : Call -> Option (List String)
  | .session (.updateContext _ [("document_tasks", .arr titles)]) => some (titles.filterMap Json.string?)
  | _ => none

/-- The titles of tasks that are noted. -/
theorem Call.titles?_tasks (session : String) (tasks : List DocumentTask) :
    (Call.session (.updateContext session [("document_tasks", .arr (tasks.map fun task => .str task.title))])).titles? =
      some (tasks.map (·.title)) := by
  change some ((tasks.map fun task => Json.str task.title).filterMap Json.string?) = _
  rw [List.filterMap_map]
  exact congrArg some (congrFun List.filterMap_eq_map tasks)

/-- Whether the names that documents are given are different ones in every schedule that is noted. -/
def NamesApart (way : List (Exchange Call Answer)) : Prop :=
  ∀ titles ∈ trail Call.titles? way, (assignNames titles).Nodup

instance (way : List (Exchange Call Answer)) : Decidable (NamesApart way) :=
  inferInstanceAs (Decidable (∀ titles ∈ trail Call.titles? way, _))

/-- Names that are apart on a way are so on parts of it. -/
theorem NamesApart.of_sublist {part : List (Exchange Call Answer)} (apart : NamesApart way)
    (isPart : part.Sublist way) : NamesApart part := fun titles member =>
  apart titles ((isPart.filterMap _).subset member)

/-- The settlement of a document that is listed as written is that of a document that was saved. -/
theorem Settlement.exists_of_entry {settlements : List Settlement} {entry : WrittenDocument}
    (member : entry ∈ settlements.filterMap (Settlement.entry? context)) : ∃ settlement ∈ settlements,
      entry.docName = settlement.docName ∧ entry.languages = [context.primaryLanguage, context.secondaryLanguage] ∧
        ∃ manuscript, settlement.outcome = .ok manuscript := by
  obtain ⟨settlement, isSettlement, isEntry⟩ := List.mem_filterMap.mp member
  obtain ⟨manuscript, isResult, rfl⟩ := Option.map_eq_some_iff.mp isEntry
  refine ⟨settlement, isSettlement, rfl, rfl, manuscript, ?_⟩
  unfold Settlement.result at isResult
  split at isResult
  · exact ok_of_toOption isResult
  · nomatch isResult

/-- What was written of a batch is among the drafts when sidebars were saved. -/
theorem Settles.holds {batch : Batch} {tell : Nat -> Nat -> Attempt Unit} {total : Nat}
    {settlements : List Settlement} {entry : WrittenDocument} {language : String}
    (settles : Settles context batch tell total way settlements)
    (quiet : ∀ count ≤ total, Abides (Activity.asking Answer Call.IsQuiet) (tell count total))
    (distinct : (settlements.map (·.docName)).Nodup)
    (member : entry ∈ settlements.filterMap (Settlement.entry? context)) (isLanguage : language ∈ entry.languages)
    (project : String) (documents : List WrittenDocument) : Store.Holds entry.docName language
      (drafted (sidebarsSaved context project documents) (drafted way [])) := by
  obtain ⟨settlement, isSettlement, named, inLanguages, manuscript, saved⟩ := Settlement.exists_of_entry member
  have own := settles.filter_drafted quiet distinct isSettlement (.inr ⟨manuscript, saved⟩) []
  have held : Store.Holds settlement.docName language (drafted way []) := by
    rw [← Store.holds_filter, own]
    exact holds_leaves saved _ (inLanguages ▸ isLanguage)
  exact named ▸ (held.putVariant _).putVariant _

namespace Running

variable {run : Running} {findings : Findings} {preparation : Preparation} {outcome : Except Stop Result}
  {value : Json} {lifetime : Store.Lifetime}

/-- The titles of the tasks that were prepared are noted. -/
theorem titles_of_prepare (goes : (run.prepare context findings).run.Goes way (.ok preparation)) :
    preparation.tasks.map (·.title) ∈ trail Call.titles? way := by
  obtain ⟨planned, plan, before, part, noted, after, rfl, -, -⟩ := scheduling_of_prepare goes
  refine List.mem_filterMap.mpr ⟨_, List.mem_append_right _ (.head _), ?_⟩
  exact Call.titles?_tasks run.session _

/-- A course on which a result is kept put it together, published its documents before and makes nothing but
tentative calls afterwards. If it returns a result, it is the one that was kept. -/
theorem kept_of_advance (goes : (run.advance context).run.Goes way outcome)
    {url typeName : String} (keeps : keeping (resultKey url typeName) value lifetime ∈ way) :
    ∃ result before completing, way = before ++ run.request.kept context result :: completing ∧
      keeping (resultKey url typeName) value lifetime = run.request.kept context result ∧
      run.Makes (fun _ => True) result ∧ result.projectKey = run.projectKey ∧
      (∀ found, outcome = .ok found -> found = result) ∧
      (∀ exchange ∈ completing, exchange.request.Tentative run.projectKey) ∧
      ∀ {σ : Type} {surroundings : Surroundings σ} {world after : World σ},
        Answered (World.answer surroundings) world way after ->
          world.documents.variants run.projectKey .draft = [] -> NamesApart way ->
            result.HasDocuments after.documents := by
  obtain ⟨findings, preparation, written, inspecting, preparing, noted, writing, publishing, rfl, inspected, prepared,
    wrote, publishes, keeps⟩ := publishing_of_advance goes keeps fun tentative =>
      not_leavesResults _ _ _ _ tentative.2
  obtain ⟨entered, assembling, now, completing, rfl, assembled, same, returned, tentative⟩ :=
    kept_of_publish publishes keeps
  have areFindings := (fares_inspect (run.suits_tentative context) fun _ _ => trivial).ends inspected
  have isReplied := (fares_prepare (run.suits_tentative context) (fun _ _ => trivial) findings).ends prepared
  refine ⟨run.resultAt findings preparation written now, inspecting ++ preparing ++ ⟨run.entry .writing, noted⟩ ::
    writing ++ ⟨run.entry .assembling, entered⟩ :: assembling ++ [⟨.now, now⟩], completing, by simp, same,
    ⟨rfl, rfl, rfl, areFindings.layout, areFindings.dependencies, areFindings.quality, isReplied.overview,
      isReplied.graph, isReplied.features, now, trivial, rfl⟩, rfl, returned, tentative,
    fun {σ surroundings world after} answered noDrafts apart => ?_⟩
  obtain ⟨middle, start, finish⟩ := Activity.answered_append.mp answered
  obtain ⟨settlements, batching, -, sameTasks, sameNames, settles, rfl, drafts⟩ :=
    drafts_of_written inspected prepared wrote start noDrafts
  have distinct : (settlements.map (·.docName)).Nodup := by
    have titles := titles_of_prepare prepared
    rw [← sameTasks, List.map_map] at titles
    rw [sameNames]
    refine apart _ ?_
    rw [Activity.trail_append, Activity.trail_append, Activity.trail_append]
    exact List.mem_append_left _ (List.mem_append_left _ (List.mem_append_right _ titles))
  obtain ⟨entering, enters, assembles⟩ := Activity.answered_append.mp (show Answered _ middle
    ([⟨run.entry .assembling, entered⟩] ++
      (assembling ++ ⟨.now, now⟩ :: run.request.kept context _ :: completing)) after by
        simpa using finish)
  have unchanged : entering.documents = middle.documents :=
    World.documents_of_quiet enters (List.forall_mem_singleton.mpr trivial)
  obtain ⟨published, publishing, finishes⟩ := Activity.answered_append.mp assembles
  have isPublished := (published_of_assembled assembled publishing).1
  rw [unchanged, drafts] at isPublished
  have stays : after.documents.variants run.projectKey .published =
      published.documents.variants run.projectKey .published := by
    refine Documents.variants_eq_of_beyond (World.beyond_answered finishes fun exchange member _ => ?_)
    exact List.forall_mem_cons.mpr ⟨trivial, List.forall_mem_cons.mpr
      ⟨trivial, fun exchange member => (tentative exchange member).1⟩⟩ exchange member
  intro entry isEntry language isLanguage
  rw [Documents.isSome_get?_iff]
  change Store.Holds _ _ (after.documents.variants run.projectKey .published)
  rw [stays, isPublished]
  exact settles.holds (fun count _ => quiet_tellWritten _ context count _) distinct isEntry isLanguage _ _

end Running

/-- A run that returns a result without having found one has kept it. -/
theorem kept_mem_of_ok {σ : Type} {surroundings : Surroundings σ} {world after : World σ} {result : Result}
    (fresh : FindsNoResult surroundings context request world)
    (goes : (runRequest context listening request).run.Goes way (.ok result))
    (answered : Answered (World.answer surroundings) world way after) : request.kept context result ∈ way := by
  obtain ⟨kept, id, commencing, advancing, closed, rfl, -, advanced⟩ := goes_runRequest_ok fresh goes answered
  obtain ⟨findings, preparation, written, inspecting, preparing, entered, writing, publishing, rfl, -, -, -,
    published⟩ := Running.goes_advance_ok advanced
  obtain ⟨_, assembling, now, _, _, completing, rfl, -, rfl, keeps, -⟩ := Running.goes_publish_ok published
  obtain rfl := Activity.goes_ask.mp (goes_accepted_ok.mp keeps)
  simp [Request.kept, keeping, runIn]

/-- A run on which a result is kept put it together for its own request and published the documents before; they
can be read when it has ended, however it does. If it returns a result, it is the one that was kept. -/
theorem kept_of_runRequest {outcome : Except Problem Result} {url typeName : String} {value : Json}
    {lifetime : Store.Lifetime} (goes : (runRequest context listening request).run.Goes way outcome)
    (keeps : keeping (resultKey url typeName) value lifetime ∈ way) :
    ∃ session result before completing, way = before ++ request.kept context result :: completing ∧
      keeping (resultKey url typeName) value lifetime = request.kept context result ∧
      (runIn context listening request session).Makes (fun _ => True) result ∧
      result.projectKey = projectKey request.repositoryUrl ∧
      (∀ found, outcome = .ok found -> found = result) ∧
      (∀ exchange ∈ completing, exchange.request.Tentative (projectKey request.repositoryUrl)) ∧
      ∀ {σ : Type} {surroundings : Surroundings σ} {world after : World σ},
        Answered (World.answer surroundings) world way after -> NamesApart way ->
          result.HasDocuments after.documents := by
  obtain ⟨kept, id, commencing, advancing, reached, ending, rfl, commenced, advanced, returned, ends, keeps⟩ :=
    advancing_of_runRequest goes keeps fun tentative => not_leavesResults _ _ _ _ tentative.2
  obtain ⟨result, before, completing, rfl, same, makes, sameKey, isResult, tentative, readable⟩ :=
    Running.kept_of_advance advanced keeps
  refine ⟨"session-" ++ id, result, opening context request kept id ++ commencing ++ before, completing ++ ending,
    by simp [runIn], same, makes, sameKey, fun found isFound => isResult found (returned found isFound),
    List.forall_mem_append.mpr ⟨tentative, ends⟩, fun {σ surroundings world after} answered apart => ?_⟩
  obtain ⟨created, -, begins⟩ := Activity.answered_append.mp answered
  obtain ⟨begun, commences, advances⟩ := Activity.answered_append.mp begins
  obtain ⟨made, makes, closes⟩ := Activity.answered_append.mp advances
  have apartAdvancing : NamesApart (before ++ request.kept context result :: completing) :=
    apart.of_sublist (List.IsInfix.sublist ⟨opening context request kept id ++ commencing, ending, by simp [runIn]⟩)
  have documents := readable makes (Running.noDrafts_of_commence commenced commences) apartAdvancing
  refine documents.of_variants (Documents.variants_eq_of_beyond (World.beyond_answered closes ?_))
  rw [sameKey]
  exact fun exchange member _ => (ends exchange member).1

/-! ## Results that are found -/

section Found

variable {σ : Type} {surroundings : Surroundings σ} {world after : World σ}

/-- Whether something is kept under a key on a way. -/
def Keeps (key : String) (way : List (Exchange Call Answer)) : Prop :=
  ∃ value lifetime, keeping key value lifetime ∈ way

/-- What is held under a key after a call was held before, or it was kept by the call. -/
theorem World.held_answer {key : String} {value : Json} {call : Call}
    (sound : ∀ value lifetime, keeping key value lifetime = ⟨call, (World.answer surroundings call world).1⟩ ->
      value.Sound) (held : (World.answer surroundings call world).2.cache.held? key = some value) :
    (world.cache.held? key = some value ∧
        ∀ other lifetime, keeping key other lifetime ≠ ⟨call, (World.answer surroundings call world).1⟩) ∨
      ∃ lifetime, ⟨call, (World.answer surroundings call world).1⟩ = keeping key value lifetime := by
  obtain ⟨answer, isAnswer⟩ : ∃ answer, (World.answer surroundings call world).1 = answer := ⟨_, rfl⟩
  rw [World.cache_of_answer rfl] at held
  rw [isAnswer] at held sound ⊢
  have notKept (notWritten : ∀ other lifetime, call ≠ .writeCache key other lifetime) (other : Json)
      (lifetime : Store.Lifetime) : keeping key other lifetime ≠ ⟨call, answer⟩ :=
    fun same => notWritten other lifetime (congrArg Exchange.request same).symm
  split at held
  · next carried =>
    cases call with
    | readCache other =>
      exact .inl ⟨Cache.held?_get held, notKept (by rintro _ _ ⟨⟩)⟩
    | deleteCache other =>
      exact .inl ⟨Cache.held?_delete held, notKept (by rintro _ _ ⟨⟩)⟩
    | writeCache other found lifetime =>
      cases answer with
      | error obstacle => cases carried
      | ok done =>
        by_cases same : other = key
        · subst same
          have isSet := World.cache_set_of_served isAnswer
          have kept := Cache.kept?_set_self (sound found lifetime rfl) (Prod.ext isSet rfl)
          simp only [Call.caching, Cache.held?, kept, Option.bind_some, Option.some.injEq] at held
          exact .inr ⟨lifetime, held ▸ rfl⟩
        · refine .inl ⟨?_, notKept fun _ _ isWrite => same (Call.writeCache.inj isWrite).1⟩
          simpa only [Call.caching, Cache.held?, Cache.kept?_set_of_ne (Ne.symm same)] using held
    | _ => exact .inl ⟨held, notKept (by rintro _ _ ⟨⟩)⟩
  · next failed =>
    exact .inl ⟨held, fun other lifetime same => failed
      (congrArg (fun exchange => exchange.request.carried exchange.answer) same.symm)⟩

/-- What is held under a key after a way was held before and nothing was kept under the key, or it is what was
kept last. -/
theorem World.held_answered {key : String} {value : Json}
    (answered : Answered (World.answer surroundings) world way after)
    (sound : ∀ value lifetime, keeping key value lifetime ∈ way -> value.Sound)
    (held : after.cache.held? key = some value) :
    (world.cache.held? key = some value ∧ ¬ Keeps key way) ∨
      ∃ before lifetime rest, way = before ++ keeping key value lifetime :: rest ∧ ¬ Keeps key rest := by
  induction answered with
  | nil => exact .inl ⟨held, fun ⟨_, _, member⟩ => nomatch member⟩
  | @cons state final exchanges request rest inductionHypothesis =>
    rcases inductionHypothesis (fun value lifetime member => sound value lifetime (.tail _ member)) held with
      ⟨heldThen, none⟩ | ⟨before, lifetime, later, rfl, none⟩
    swap
    · exact .inr ⟨⟨request, _⟩ :: before, lifetime, later, rfl, none⟩
    rcases World.held_answer (fun value lifetime same => sound value lifetime (same ▸ .head _)) heldThen with
      ⟨heldBefore, others⟩ | ⟨lifetime, same⟩
    · refine .inl ⟨heldBefore, fun ⟨other, lifetime, member⟩ => ?_⟩
      exact (List.mem_cons.mp member).elim (others other lifetime) fun later => none ⟨other, lifetime, later⟩
    · exact .inr ⟨[], lifetime, exchanges, congrArg (· :: exchanges) same, none⟩

/-- A run finds no result, or it gives back the one that it finds. -/
theorem fresh_or_found {outcome : Except Problem Result}
    (goes : (runRequest context listening request).run.Goes way outcome)
    (answered : Answered (World.answer surroundings) world way after) :
    FindsNoResult surroundings context request world ∨ ∃ value rest,
      way = ⟨.readCache (resultKey request.repositoryUrl request.analysisType.name), .ok (some value)⟩ :: rest ∧
        (giveBack context listening request value).run.Goes rest outcome := by
  obtain ⟨looking, rest, looked, rfl, look, onward⟩ := goes_runRequest goes
  obtain ⟨middle, start, -⟩ := Activity.answered_append.mp answered
  have isLooked := congrArg Prod.fst (look.eq_run start).1
  rcases looked with problem | (- | value)
  · exact .inl fun found isFound => by nomatch isLooked.symm.trans isFound
  · exact .inl fun found isFound => by nomatch isLooked.symm.trans isFound
  · unfold lookUp at look
    split at look
    · obtain ⟨kept, rfl, isKept⟩ := goes_readCache_ok.mp look
      obtain ⟨rfl, -⟩ := Option.filter_eq_some_iff.mp isKept.symm
      exact .inr ⟨value, rest, rfl, onward⟩
    · nomatch (Activity.goes_problem.mp look).2
    · nomatch (Activity.goes_problem.mp look).2

end Found

end RepoSurvey.Analysis

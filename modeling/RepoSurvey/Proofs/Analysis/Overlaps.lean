import RepoSurvey.Proofs.Activity.Overlaps
import RepoSurvey.Proofs.Analysis.Keeping

/-!
# Runs that overlap

Two requests with different addresses may be about one project, and nothing keeps their runs apart: both write
into the drafts of the project, each discards all of them when it begins, and each publishes all that there are.
-/

namespace RepoSurvey.Analysis

open Activity (Abides Answered Exchange Turn side side_append side_cons_other side_cons_self turns)
open Store (Variant)

/-! ## Publications -/

/-- Whether an exchange takes drafts away: it discards or publishes some. -/
def Clears (exchange : Exchange Call Answer) : Prop :=
  exchange.request.carried exchange.answer = true ∧
    match exchange.request with
    | .discardDrafts _ _ | .promoteDrafts _ => True
    | _ => False

/-- Whether an exchange leaves the stored documents alone. -/
def LeavesDocuments (exchange : Exchange Call Answer) : Prop :=
  exchange.request.carried exchange.answer = true -> exchange.request.IsQuiet

variable {project : String} {way : List (Exchange Call Answer)}

/-- Drafts are there as long as nothing takes any away. -/
theorem drafted_ne_nil {drafts : List Variant} (some : drafts ≠ [])
    (keeps : ∀ exchange ∈ way, ¬Clears exchange) : drafted way drafts ≠ [] := by
  induction way generalizing drafts with
  | nil => exact some
  | cons exchange way inductionHypothesis =>
    have kept : drafting exchange drafts ≠ [] := by
      unfold drafting
      split
      · next carried =>
        obtain ⟨request, answer⟩ := exchange
        cases request with
        | saveDocument => exact Store.putVariant_ne_nil _ _
        | discardDrafts | promoteDrafts => exact (keeps _ (.head _) ⟨carried, trivial⟩).elim
        | _ => exact some
      · exact some
    exact inductionHypothesis kept fun other member => keeps other (.tail _ member)

/-- What leaves the stored documents alone makes no difference to drafts. -/
theorem drafted_of_leaves (leaves : ∀ exchange ∈ way, LeavesDocuments exchange) (drafts : List Variant) :
    drafted way drafts = drafts := by
  induction way with
  | nil => rfl
  | cons exchange way inductionHypothesis =>
    have same : drafting exchange drafts = drafts := by
      unfold drafting
      split
      · next carried => exact (leaves exchange (.head _) carried).drafting drafts
      · rfl
    rw [drafted_cons, same]
    exact inductionHypothesis fun other member => leaves other (.tail _ member)

/-- Drafts are told by one of two sides when the other leaves the stored documents alone. -/
theorem drafted_side {whose : Bool} {taken : List (Turn Call Answer)}
    (leaves : ∀ exchange ∈ side (!whose) taken, LeavesDocuments exchange) (drafts : List Variant) :
    drafted (taken.map Prod.snd) drafts = drafted (side whose taken) drafts := by
  induction taken generalizing drafts with
  | nil => rfl
  | cons turn taken inductionHypothesis =>
    obtain ⟨other, exchange⟩ := turn
    by_cases isOwn : other = whose
    · subst isOwn
      have others : side (!other) ((other, exchange) :: taken) = side (!other) taken := by simp [side]
      rw [others] at leaves
      rw [side_cons_self]
      exact inductionHypothesis leaves _
    · obtain rfl : other = !whose := Bool.eq_not.mpr isOwn
      rw [side_cons_self, List.forall_mem_cons] at leaves
      rw [side_cons_other, List.map_cons, drafted_cons, inductionHypothesis leaves.2]
      exact congrArg (drafted (side whose taken)) (drafted_of_leaves (List.forall_mem_singleton.mpr leaves.1) drafts)

/-! ## What comes before a publication -/

variable {context : Context} {listening : Listening} {request : Request}

namespace Running

/-- Whether a run assembles documents on a stretch of its way: it asks for tasks, settles all of them and saves
the sidebars of what was written. It is quiet beside that and publishes nothing. -/
structure Assembles (run : Running) (context : Context) (stretch : List (Exchange Call Answer))
    (settlements : List Settlement) : Prop where
  scheduled : ∃ planned part plan features, part.Sublist stretch ∧
    (askForTasks context run.checkout plan features (some run.session)).run.Goes part (.ok planned) ∧
    settlements.map (·.task) = prepareTasks planned features
  named : settlements.map (·.docName) = assignNames (settlements.map (·.task.title))
  settled : ∃ before batching between last overview, stretch = before ++ batching ++ between ++
      sidebarsSaved context run.projectKey (settlements.filterMap (Settlement.entry? context)) ++ last ∧
    (∀ exchange ∈ before ++ between ++ last, exchange.request.IsQuiet) ∧
    Settles context (run.batch overview) (run.tellWritten context) settlements.length batching settlements
  onlyDrafts : ∀ exchange ∈ stretch, exchange.request.OnlyDrafts run.projectKey

variable {run : Running} {stretch : List (Exchange Call Answer)} {settlements : List Settlement}

/-- Quiet calls before a stretch make no difference. -/
theorem Assembles.prepend (assembles : run.Assembles context stretch settlements)
    {beginning : List (Exchange Call Answer)} (quiet : ∀ exchange ∈ beginning, exchange.request.IsQuiet) :
    run.Assembles context (beginning ++ stretch) settlements := by
  obtain ⟨⟨planned, part, plan, features, isPart, asked, scheduled⟩, named, ⟨before, batching, between, last,
    overview, rfl, isQuiet, settles⟩, onlyDrafts⟩ := assembles
  refine ⟨⟨planned, part, plan, features, isPart.trans (List.sublist_append_right ..), asked, scheduled⟩, named,
    ⟨beginning ++ before, batching, between, last, overview, by simp, ?_, settles⟩, ?_⟩
  · rw [List.append_assoc, List.append_assoc, List.forall_mem_append, ← List.append_assoc]
    exact ⟨quiet, isQuiet⟩
  · exact List.forall_mem_append.mpr ⟨fun exchange member => (quiet exchange member).onlyDrafts _, onlyDrafts⟩

/-- The drafts that a stretch leaves are those of its batch and the sidebars. -/
theorem Assembles.exists_drafted (assembles : run.Assembles context stretch settlements) :
    ∃ batching overview, batching.Sublist stretch ∧
      Settles context (run.batch overview) (run.tellWritten context) settlements.length batching settlements ∧
      ∀ drafts, drafted stretch drafts = drafted (sidebarsSaved context run.projectKey
        (settlements.filterMap (Settlement.entry? context))) (drafted batching drafts) := by
  obtain ⟨-, -, ⟨before, batching, between, last, overview, rfl, quiet, settles⟩, -⟩ := assembles
  rw [List.forall_mem_append, List.forall_mem_append] at quiet
  refine ⟨batching, overview, ?_, settles, fun drafts => ?_⟩
  · exact List.IsInfix.sublist ⟨before, between ++ (sidebarsSaved context run.projectKey
      (settlements.filterMap (Settlement.entry? context)) ++ last), by simp⟩
  · rw [drafted_append, drafted_append, drafted_append, drafted_append, drafted_of_quiet quiet.1.1,
      drafted_of_quiet quiet.1.2, drafted_of_quiet quiet.2]

/-- A stretch on which documents are assembled leaves sidebars at least. -/
theorem Assembles.drafted_ne_nil (assembles : run.Assembles context stretch settlements) (drafts : List Variant) :
    drafted stretch drafts ≠ [] := by
  obtain ⟨batching, overview, -, -, isDrafted⟩ := assembles.exists_drafted
  rw [isDrafted]
  exact Store.putVariant_ne_nil _ _

/-- When its documents have names of their own, a stretch leaves what its tasks leave, and the sidebars of the
documents that were written. -/
theorem Assembles.perm_drafted (assembles : run.Assembles context stretch settlements) (stored : AllStored stretch)
    (different : context.primaryLanguage ≠ context.secondaryLanguage)
    (distinct : (settlements.map (·.docName)).Nodup)
    (noSidebar : sidebarName ∉ settlements.map (·.docName)) :
    (drafted stretch []).Perm (settlements.flatMap (·.leaves context []) ++
      sidebarVariants context (settlements.filterMap (Settlement.entry? context))) := by
  obtain ⟨batching, overview, isPart, settles, isDrafted⟩ := assembles.exists_drafted
  rw [isDrafted]
  exact perm_drafted_leaves settles (fun count _ => quiet_tellWritten _ context count _)
    (fun exchange member => stored exchange (isPart.subset member)) different distinct noSidebar _ _

/-- Whatever comes after assembling is quiet. -/
theorem quiet_afterAssembling {findings : Findings} {preparation : Preparation} {written : WriteReport}
    {outcome : Except Stop Result} (goes : (do
      let result <- during .assembling (run.result findings preparation written)
      during .assembling (run.keep context result)
      run.entering .published (run.complete context)
      pure result : Course Result).run.Goes way outcome) : ∀ exchange ∈ way, exchange.request.IsQuiet := by
  have results : Abides (Activity.asking Answer Call.IsQuiet) (run.result findings preparation written) :=
    Activity.Fares.andThen (fares_anyPresent trivial) fun _ => Activity.abides_pure _
  have keeps : ∀ result, Abides (Activity.asking Answer Call.IsQuiet) (run.keep context result) :=
    fun _ => abides_accepted ⟨trivial, fun _ _ => trivial⟩
  have finishes : Abides (Activity.asking Answer Call.IsQuiet) (do
      let result <- during .assembling (run.result findings preparation written)
      during .assembling (run.keep context result)
      run.entering .published (run.complete context)
      pure result : Course Result) :=
    (fares_during results).andThen fun result => (fares_during (keeps result)).andThen fun _ =>
      (fares_entering (suits_quiet run context) ((suits_quiet run context).emits .published _ _ (by decide))).andThen
        fun _ => Activity.abides_pure _
  exact finishes.confined goes

/-- Sidebars are saved by calls that write drafts. -/
theorem onlyDrafts_of_sidebars (documents : List WrittenDocument) :
    ∀ exchange ∈ sidebarsSaved context project documents, exchange.request.OnlyDrafts project :=
  List.forall_mem_cons.mpr ⟨rfl, List.forall_mem_singleton.mpr rfl⟩

/-- Publication in which drafts are published goes through assembling, and is quiet after that. -/
theorem assembling_of_promotion {findings : Findings} {preparation : Preparation} {written : WriteReport}
    {outcome : Except Stop Result}
    (goes : (run.publish context findings preparation written).run.Goes way outcome)
    (promotes : promotion run.projectKey ∈ way) : ∃ entered emitting counted rest,
      way = ⟨run.entry .assembling, entered⟩ :: (sidebarsSaved context run.projectKey written.written ++ emitting) ++
        ⟨.countDrafts run.projectKey, .ok counted⟩ :: promotion run.projectKey :: rest ∧
      counted ≠ 0 ∧ (∀ exchange ∈ emitting ++ rest, exchange.request.IsQuiet) := by
  unfold publish at goes
  rcases Activity.goes_then_cases goes with ⟨stop, stopped⟩ | ⟨_, rest, _, rfl, assembled, goes⟩
  · obtain ⟨entered, assembling, rfl, working⟩ := goes_entering_iff.mp stopped
    obtain ⟨problem, failed, -⟩ := goes_during_error.mp working
    have sparing := sparing_of_assemblingStage failed
    refine (promotion_notMem (fun exchange member carried => ?_) promotes).elim
    rcases List.mem_cons.mp member with rfl | member
    · trivial
    · exact (sparing exchange member carried).1
  have quietRest := quiet_afterAssembling goes
  obtain ⟨entered, assembling, rfl, working⟩ := goes_entering_iff.mp assembled
  obtain ⟨emitting, counted, rfl, emitted⟩ := goes_assemblingStage_ok (goes_during_ok.mp working)
  have quietEmitting := ((suits_quiet run context).emits .assembling _ _ (by decide)).confined emitted
  by_cases none : counted = 0
  · refine (promotion_notMem (fun exchange member _ => ?_) promotes).elim
    simp only [none, if_true, List.mem_append, List.mem_cons, List.not_mem_nil, or_false] at member
    rcases member with (rfl | (isSaving | isEmitting) | rfl) | isRest
    · trivial
    · exact onlyDrafts_of_sidebars _ exchange isSaving
    · exact (quietEmitting exchange isEmitting).onlyDrafts _
    · trivial
    · exact (quietRest exchange isRest).onlyDrafts _
  · refine ⟨entered, emitting, counted, rest, ?_, none, List.forall_mem_append.mpr ⟨quietEmitting, quietRest⟩⟩
    simp [none, promotion]

/-- A run that has begun publishes no drafts but those that it counted, at least one, after it assembled its own;
it is quiet after that. -/
theorem assembles_of_advance {outcome : Except Stop Result} (goes : (run.advance context).run.Goes way outcome)
    (promotes : promotion run.projectKey ∈ way) : ∃ stretch counted rest settlements,
      way = stretch ++ ⟨.countDrafts run.projectKey, .ok counted⟩ :: promotion run.projectKey :: rest ∧
      counted ≠ 0 ∧ (∀ exchange ∈ rest, exchange.request.IsQuiet) ∧
      run.Assembles context stretch settlements := by
  obtain ⟨findings, preparation, written, inspecting, preparing, noted, writing, publishing, rfl, inspected, prepared,
    wrote, publishes, promotes⟩ := publishing_of_advance goes promotes fun tentative => tentative.1
  obtain ⟨entered, emitting, counted, rest, rfl, some, quiet⟩ := assembling_of_promotion publishes promotes
  obtain ⟨telling, batching, rfl, told, batched, -⟩ := goes_writingStage_ok wrote
  obtain ⟨settlements, sameTasks, sameNames, rfl, settles⟩ := settles_of_writeAll batched
  obtain ⟨planned, part, plan, isPart, asked, scheduled⟩ := goes_prepare_ok prepared
  have suits := suits_quiet run context
  have quietInspecting := (fares_inspect suits fun _ _ => trivial).confined inspected
  have quietPreparing := (fares_prepare suits (fun _ _ => trivial) findings).confined prepared
  have quietTelling := (suits.emits .writing _ _ (by decide)).confined told
  obtain ⟨quietEmitting, quietRest⟩ := List.forall_mem_append.mp quiet
  have mild : ∀ {part : List (Exchange Call Answer)}, (∀ exchange ∈ part, exchange.request.IsQuiet) ->
      ∀ exchange ∈ part, exchange.request.OnlyDrafts run.projectKey :=
    fun quiet exchange member => (quiet exchange member).onlyDrafts _
  refine ⟨inspecting ++ preparing ++ ⟨run.entry .writing, noted⟩ :: telling ++ batching ++
    [⟨run.entry .assembling, entered⟩] ++ sidebarsSaved context run.projectKey
      (settlements.filterMap (Settlement.entry? context)) ++ emitting, counted, rest, settlements, by simp, some,
    quietRest, ⟨planned, part, plan, preparation.features, isPart.trans (List.IsInfix.sublist
      ⟨inspecting, ⟨run.entry .writing, noted⟩ :: telling ++ batching ++ [⟨run.entry .assembling, entered⟩] ++
        sidebarsSaved context run.projectKey (settlements.filterMap (Settlement.entry? context)) ++ emitting,
        by simp⟩), asked, sameTasks.trans scheduled⟩, ?_, ⟨_, _, _, _, preparation.overview, rfl, ?_, ?_⟩, ?_⟩
  · rw [sameNames, ← sameTasks, List.map_map]
    rfl
  · simp only [List.forall_mem_append, List.forall_mem_cons]
    exact ⟨⟨⟨⟨quietInspecting, quietPreparing⟩, trivial, quietTelling⟩, trivial, List.forall_mem_nil _⟩,
      quietEmitting⟩
  · rw [← sameTasks, List.length_map] at settles
    exact settles
  · simp only [List.forall_mem_append, List.forall_mem_cons]
    exact ⟨⟨⟨⟨⟨⟨mild quietInspecting, mild quietPreparing⟩, trivial, mild quietTelling⟩,
      onlyDrafts_of_batch batched⟩, trivial, List.forall_mem_nil _⟩,
      onlyDrafts_of_sidebars _⟩, mild quietEmitting⟩

end Running

/-- A run that publishes drafts discarded those of its project when it began; then it assembled its own and counted
those that there were, at least one. Before and after that it publishes nothing. -/
theorem assembles_of_promotion {outcome : Except Problem Result}
    (goes : (runRequest context listening request).run.Goes way outcome)
    (promotes : promotion (projectKey request.repositoryUrl) ∈ way) :
    ∃ session before discarded stretch counted rest settlements,
      way = before ++ ⟨.discardDrafts (projectKey request.repositoryUrl) none, .ok discarded⟩ :: stretch ++
        ⟨.countDrafts (projectKey request.repositoryUrl), .ok counted⟩ ::
          promotion (projectKey request.repositoryUrl) :: rest ∧
      counted ≠ 0 ∧ promotion (projectKey request.repositoryUrl) ∉ before ∧
      promotion (projectKey request.repositoryUrl) ∉ rest ∧
      (runIn context listening request session).Assembles context stretch settlements := by
  obtain ⟨kept, id, commencing, advancing, reached, ending, rfl, commenced, advanced, -, ends, promotes⟩ :=
    advancing_of_runRequest goes promotes fun tentative => tentative.1
  obtain ⟨stretch, counted, rest, settlements, rfl, some, quiet, assembles⟩ :=
    Running.assembles_of_advance advanced promotes
  obtain ⟨_, beginning, rfl, ⟨⟨discarded, rfl⟩, emitted⟩ | ⟨-, -, problem, same⟩⟩ := Running.goes_commence commenced
  swap
  · nomatch same
  have begins := ((Running.suits_quiet _ context).emits .notStarted _ _ (by decide)).confined emitted
  refine ⟨"session-" ++ id, opening context request kept id, discarded, beginning ++ stretch, counted, rest ++ ending,
    settlements, ?_, some, ?_, ?_, assembles.prepend begins⟩
  · simp [runIn, Running.projectKey]
  · refine promotion_notMem fun exchange member _ => ?_
    exact List.forall_mem_cons.mpr ⟨trivial, fun exchange member =>
      (tentative_sessionCreated context request id _ exchange member).1⟩ exchange member
  · refine promotion_notMem fun exchange member _ => ?_
    exact List.forall_mem_append.mpr ⟨fun exchange member => (quiet exchange member).onlyDrafts _,
      fun exchange member => (ends exchange member).1⟩ exchange member

/-! ## Moments -/

/-- What came before a moment if one of two runs that take turns was the last to publish: when it began it
discarded all drafts of the project, and it counted those that there were before it published those that there were
then. Meanwhile the other run may have done anything. -/
structure Publication (context : Context) (listening : Bool -> Listening) (request : Bool -> Request)
    (project : String) (past : List (Turn Call Answer)) where
  whose : Bool
  session : String
  settlements : List Settlement
  before : List (Turn Call Answer)
  discarded : Nat
  since : List (Turn Call Answer)
  counted : Nat
  meanwhile : List (Turn Call Answer)
  later : List (Turn Call Answer)
  isPast : past = before ++ (whose, ⟨.discardDrafts project none, .ok discarded⟩) :: since ++
    (whose, ⟨.countDrafts project, .ok counted⟩) :: meanwhile ++ (whose, promotion project) :: later
  others : side whose meanwhile = []
  last : promotion project ∉ later.map Prod.snd
  assembles : (runIn context (listening whose) (request whose) session).Assembles context (side whose since)
    settlements

/-- What is published after a publication: the drafts that both runs left since the one that published began. As
long as the other left the documents alone, they are the output of the one. Nothing is published only if the other
took drafts away after they were counted. -/
structure Publication.Shows {listening : Bool -> Listening} {request : Bool -> Request}
    {past : List (Turn Call Answer)} (publication : Publication context listening request project past)
    (published : List Variant) : Prop where
  drafts : published =
    drafted (publication.meanwhile.map Prod.snd) (drafted (publication.since.map Prod.snd) [])
  counted : (drafted (publication.since.map Prod.snd) []).length = publication.counted ∧ publication.counted ≠ 0
  undisturbed : (∀ exchange ∈ side (!publication.whose) (publication.since ++ publication.meanwhile),
      LeavesDocuments exchange) ->
    published = drafted (side publication.whose publication.since) [] ∧ published ≠ []
  complete : (∀ exchange ∈ side (!publication.whose) (publication.since ++ publication.meanwhile),
      LeavesDocuments exchange) ->
    AllStored (side publication.whose publication.since) ->
    (publication.settlements.map (·.docName)).Nodup ->
    sidebarName ∉ publication.settlements.map (·.docName) ->
    published.Perm (publication.settlements.flatMap (·.leaves context []) ++
      sidebarVariants context (publication.settlements.filterMap (Settlement.entry? context)))
  emptied : published = [] -> ∃ exchange ∈ side (!publication.whose) publication.meanwhile, Clears exchange

section Moments

variable {σ : Type} {listening : Bool -> Listening} {request : Bool -> Request} {past : List (Turn Call Answer)}

/-- Of turns in which drafts are published there are last ones. -/
theorem exists_last_promotion (promotes : promotion project ∈ past.map Prod.snd) :
    ∃ front whose later, past = front ++ (whose, promotion project) :: later ∧
      promotion project ∉ later.map Prod.snd := by
  obtain ⟨after, before, isReverse, last⟩ := List.eq_append_cons_of_mem (List.mem_reverse.mpr promotes)
  have parted : past.map Prod.snd = before.reverse ++ promotion project :: after.reverse := by
    rw [← List.reverse_reverse (past.map Prod.snd), isReverse]
    simp
  obtain ⟨front, back, rfl, -, isBack⟩ := List.map_eq_append_iff.mp parted
  obtain ⟨⟨whose, exchange⟩, later, rfl, rfl, isLater⟩ := List.map_eq_cons_iff.mp isBack
  exact ⟨front, whose, later, rfl, by rw [isLater]; simpa using last⟩

/-- What is published after a publication that no other follows are the drafts before it. -/
theorem published_of_last {surroundings : Surroundings σ} {world after : World σ}
    {rest : List (Exchange Call Answer)}
    (answered : Answered (World.answer surroundings) world (way ++ promotion project :: rest) after)
    (before : ∀ exchange ∈ way, exchange.request.Concerns project)
    (afterwards : ∀ exchange ∈ rest, exchange.request.Concerns project) (last : promotion project ∉ rest) :
    after.documents.variants project .published = drafted way (world.documents.variants project .draft) := by
  obtain ⟨middle, start, finish⟩ := Activity.answered_append.mp answered
  obtain ⟨isAnswer, later⟩ := Activity.answered_cons.mp finish
  have promoted : (World.answer surroundings (.promoteDrafts project) middle).2.documents =
      middle.documents.published project := World.documents_of_served isAnswer.symm
  have same := World.beyond_answered later fun exchange member carried =>
    onlyDrafts_of_concerns (afterwards exchange member) carried fun isPromotion => last (isPromotion ▸ member)
  rw [← World.drafts_answered start before, ← Store.Documents.variants_published, ← promoted]
  exact Store.Documents.variants_eq_of_beyond same

/-- A moment at which drafts were published comes after a publication. -/
theorem exists_publication (same : ∀ whose, projectKey (request whose).repositoryUrl = project)
    (goes : ∀ whose, ∃ rest outcome, (runRequest context (listening whose) (request whose)).run.Goes
      (side whose past ++ rest) outcome)
    (promotes : promotion project ∈ past.map Prod.snd) :
    ∃ publication : Publication context listening request project past, publication.counted ≠ 0 := by
  obtain ⟨front, whose, later, rfl, last⟩ := exists_last_promotion promotes
  obtain ⟨rest, outcome, goes⟩ := goes whose
  rw [side_append, side_cons_self, List.append_assoc, List.cons_append] at goes
  obtain ⟨session, before, discarded, stretch, counted, final, settlements, isWay, some, notBefore, notFinal,
    assembles⟩ := assembles_of_promotion goes (by simp [same])
  rw [same] at isWay notBefore notFinal
  have sole : promotion project ∉ before ++ ⟨.discardDrafts project none, .ok discarded⟩ :: stretch ++
      [⟨.countDrafts project, .ok counted⟩] := by
    have spares := promotion_notMem fun exchange member _ => assembles.onlyDrafts exchange member
    rw [show (runIn context (listening whose) (request whose) session).projectKey = project from same whose] at spares
    have differs : ∀ {exchange : Exchange Call Answer}, exchange.request.OnlyDrafts project ->
        promotion project ≠ exchange := by
      rintro _ onlyDrafts rfl
      exact onlyDrafts
    simp only [List.mem_append, List.mem_cons, List.not_mem_nil, or_false]
    rintro ((isBefore | isDiscard | isStretch) | isCount)
    · exact notBefore isBefore
    · exact absurd isDiscard (differs rfl)
    · exact spares isStretch
    · exact absurd isCount (differs trivial)
  have isSide : before ++ ⟨.discardDrafts project none, .ok discarded⟩ :: stretch ++
      [⟨.countDrafts project, .ok counted⟩] = side whose front :=
    ((List.append_cons_inj_of_notMem sole notFinal).mp (by simpa using isWay.symm)).1
  obtain ⟨former, rest, rfl, -, isRest⟩ := Activity.exists_of_side_eq
    (isSide.symm.trans (List.append_assoc before (_ :: stretch) _))
  obtain ⟨since, meanwhile, rfl, rfl, others⟩ := Activity.exists_of_side_eq isRest
  exact ⟨⟨whose, session, settlements, former, discarded, since, counted, meanwhile, later, by simp, others, last,
    assembles⟩, some⟩

/-- What is published at a moment after a publication. -/
theorem Publication.shows {surroundings : Surroundings σ} {world middle : World σ}
    (publication : Publication context listening request project past) (some : publication.counted ≠ 0)
    (different : context.primaryLanguage ≠ context.secondaryLanguage)
    (answered : Answered (World.answer surroundings) world (past.map Prod.snd) middle)
    (concerns : ∀ exchange ∈ past.map Prod.snd, exchange.request.Concerns project) :
    publication.Shows (middle.documents.variants project .published) := by
  obtain ⟨whose, session, settlements, before, discarded, since, counted, meanwhile, later, rfl, others, last,
    assembles⟩ := publication
  simp only [List.map_append, List.map_cons, List.append_assoc, List.cons_append] at answered
  simp only [List.map_append, List.map_cons, List.forall_mem_append, List.forall_mem_cons] at concerns
  obtain ⟨⟨⟨concernsBefore, -, concernsSince⟩, -, concernsMeanwhile⟩, -, concernsLater⟩ := concerns
  -- The drafts are those since the run began, which discarded what there was.
  have isDrafted : ∀ drafts, drafted (before.map Prod.snd ++
      ⟨.discardDrafts project none, .ok discarded⟩ :: since.map Prod.snd) drafts = drafted (since.map Prod.snd) [] :=
    fun drafts => by rw [drafted_append, drafted_cons]; rfl
  have concernsFirst : ∀ exchange ∈ before.map Prod.snd ++
      ⟨.discardDrafts project none, .ok discarded⟩ :: since.map Prod.snd, exchange.request.Concerns project := by
    rw [List.forall_mem_append, List.forall_mem_cons]
    exact ⟨concernsBefore, rfl, concernsSince⟩
  have drafts : middle.documents.variants project .published =
      drafted (meanwhile.map Prod.snd) (drafted (since.map Prod.snd) []) := by
    have published := @published_of_last project (before.map Prod.snd ++
      ⟨.discardDrafts project none, .ok discarded⟩ :: since.map Prod.snd ++
        ⟨.countDrafts project, .ok counted⟩ :: meanwhile.map Prod.snd) _ surroundings world middle
        (later.map Prod.snd) (by simpa using answered) (List.forall_mem_append.mpr ⟨concernsFirst,
          List.forall_mem_cons.mpr ⟨trivial, concernsMeanwhile⟩⟩) concernsLater last
    rw [published, drafted_append, isDrafted, drafted_cons]
    rfl
  have number : (drafted (since.map Prod.snd) []).length = counted := by
    obtain ⟨counting, start, finish⟩ := Activity.answered_append.mp (show Answered _ world ((before.map Prod.snd ++
      ⟨.discardDrafts project none, .ok discarded⟩ :: since.map Prod.snd) ++ ⟨.countDrafts project, .ok counted⟩ ::
        (meanwhile.map Prod.snd ++ promotion project :: later.map Prod.snd)) middle by simpa using answered)
    rw [← World.countDrafts_of_served (Activity.answered_cons.mp finish).1.symm,
      World.drafts_answered start concernsFirst, isDrafted]
  have undisturbed : (∀ exchange ∈ side (!whose) (since ++ meanwhile), LeavesDocuments exchange) ->
      middle.documents.variants project .published = drafted (side whose since) [] := by
    intro leaves
    rw [side_append, List.forall_mem_append] at leaves
    rw [drafts, drafted_side leaves.1, drafted_of_leaves fun exchange member =>
      leaves.2 exchange (Activity.mem_side_of_others others member)]
  exact {
    drafts := drafts
    counted := ⟨number, some⟩
    undisturbed := fun leaves => ⟨undisturbed leaves, undisturbed leaves ▸ assembles.drafted_ne_nil []⟩
    complete := fun leaves stored distinct noSidebar =>
      undisturbed leaves ▸ assembles.perm_drafted stored different distinct noSidebar
    emptied := fun none => by
      by_contra noneClears
      refine drafted_ne_nil ?_ (fun exchange member clears => ?_) (drafts.symm.trans none)
      · exact fun isNil => some (number.symm.trans (congrArg List.length isNil))
      · exact noneClears ⟨exchange, Activity.mem_side_of_others others member, clears⟩ }

/-- **Overlapping runs of one project.** However two runs take turns, what is published for their project at any
moment is what was there at first, as long as neither published, and else the drafts that both left since the one
that was the last to publish began. These are the output of that run alone if the other left the stored documents
alone meanwhile. They are none only if the other took drafts away between their counting and their publication. -/
theorem turns_publish (different : context.primaryLanguage ≠ context.secondaryLanguage)
    (same : ∀ whose, projectKey (request whose).repositoryUrl = project) (surroundings : Surroundings σ)
    (world : World σ) (told : List Bool) :
    let overlap := turns (World.answer surroundings) told (runRequest context (listening true) (request true)).run
      (runRequest context (listening false) (request false)).run world
    (promotion project ∉ overlap.1.map Prod.snd ∧
        overlap.2.documents.variants project .published = world.documents.variants project .published) ∨
      ∃ publication : Publication context listening request project overlap.1,
        publication.Shows (overlap.2.documents.variants project .published) := by
  intro overlap
  obtain ⟨⟨restTrue, _, goesTrue⟩, ⟨restFalse, _, goesFalse⟩, answered⟩ :=
    Activity.goes_turns (World.answer surroundings) told (runRequest context (listening true) (request true)).run
      (runRequest context (listening false) (request false)).run world
  have goes : ∀ whose, ∃ rest outcome, (runRequest context (listening whose) (request whose)).run.Goes
      (side whose overlap.1 ++ rest) outcome
    | true => ⟨restTrue, _, goesTrue⟩
    | false => ⟨restFalse, _, goesFalse⟩
  have concerns : ∀ exchange ∈ overlap.1.map Prod.snd, exchange.request.Concerns project := by
    intro exchange member
    obtain ⟨turn, isTurn, rfl⟩ := List.mem_map.mp member
    obtain ⟨rest, outcome, goes⟩ := goes turn.1
    have abides : Abides (Activity.asking Answer (Call.Concerns (projectKey (request turn.1).repositoryUrl)))
        (runRequest context (listening turn.1) (request turn.1)) :=
      abides_runRequest (fun _ tentative => tentative.1.concerns) rfl fun _ => trivial
    rw [same] at abides
    exact abides.confined goes _ (List.mem_append_left _ (Activity.mem_side isTurn))
  by_cases promotes : promotion project ∈ overlap.1.map Prod.snd
  · obtain ⟨publication, some⟩ := exists_publication same goes promotes
    exact .inr ⟨publication, publication.shows some different answered concerns⟩
  · refine .inl ⟨promotes, Store.Documents.variants_eq_of_beyond (World.beyond_answered answered ?_)⟩
    exact fun exchange member carried =>
      onlyDrafts_of_concerns (concerns exchange member) carried fun isPromotion => promotes (isPromotion ▸ member)

end Moments

/-- Two requests with different addresses for the project of the empty repository. -/
def clashingRequests (whose : Bool) : Request :=
  { emptyRequest .full with repositoryUrl := if whose then "u" else "https://u" }

/-- A world in which the project has a published document. -/
def publishedWorld : World (List String) :=
  { World.untouched emptyReplies with
    documents := [⟨"u", "Overview", "en", .published, "text", .ofMoment ⟨0⟩⟩] }

/-- A run is under way until it has counted its drafts; another begins, and then the first goes on. -/
def clashingTurns : List Bool := List.replicate 106 true ++ List.replicate 4 false ++ [true]

/-- What two runs of the project exchange when the second begins while the first publishes. -/
def clashingRuns : List (Turn Call Answer) × World (List String) :=
  turns (World.answer (.reciting fun _ => none)) clashingTurns
    (runRequest emptyContext ⟨true⟩ (clashingRequests true)).run
    (runRequest emptyContext ⟨true⟩ (clashingRequests false)).run publishedWorld

set_option maxRecDepth 100000 in
/-- When a run begins while another publishes, nothing is published any more. -/
theorem published_clashingRuns : clashingRuns.2.documents.variants "u" .published = [] := by
  simp only [clashingRuns, clashingRequests, runRequest, startRun, Running.outcome, Running.course, Running.advance,
    Running.inspect, Running.declaredDependencies, Running.writingStage, @writeAll_one emptyContext rfl, emptyRequest,
    emptyContext_checkout, ofCheckout_empty]
  decide +kernel

/-- A document was published and none is any more: the second run took away drafts that the first had counted. -/
theorem clashingRuns_publish : publishedWorld.documents.variants "u" .published ≠ [] ∧
    clashingRuns.2.documents.variants "u" .published = [] ∧
    ∃ publication : Publication emptyContext (fun _ => ⟨true⟩) clashingRequests "u" clashingRuns.1,
      publication.counted ≠ 0 ∧ ∃ exchange ∈ side (!publication.whose) publication.meanwhile, Clears exchange := by
  have some : publishedWorld.documents.variants "u" .published ≠ [] := by decide
  refine ⟨some, published_clashingRuns, ?_⟩
  rcases @turns_publish "u" emptyContext _ (fun _ => ⟨true⟩) clashingRequests (by decide) (by decide)
    (.reciting fun _ => none) publishedWorld clashingTurns with ⟨-, same⟩ | ⟨publication, shows⟩
  · exact (some (same.symm.trans published_clashingRuns)).elim
  · exact ⟨publication, shows.counted.2, shows.emptied published_clashingRuns⟩

end RepoSurvey.Analysis

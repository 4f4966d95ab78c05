import RepoSurvey.Proofs.Analysis.Keeping
import RepoSurvey.Proofs.Analysis.Results

/-!
# Runs one after another

Results are kept for an address and a type of analysis, documents are published for a project. A run of one type
replaces the documents that the kept result of another type still lists: `errands_readable` says that this, or a run
for another address of the project, is the only way in which documents of a result that is returned come to be
missing.

A result that is returned is one for the address and the type of analysis of its request, and for their project, whether
it was put together or given back. Metadata are no part of the key that results are kept under. A result that is given
back has those of the request that it was kept for, as far as they can be written: `errands_echo`.
-/

namespace RepoSurvey.Analysis

open Activity (Abides Answered Exchange trail)
open Store (Cache)

/-- A request that is to be run in a context, with or without a listener. -/
structure Errand where
  context : Context
  listening : Listening
  request : Request

section Errands

variable {σ : Type}

/-- Run an errand. -/
def Errand.run (surroundings : Surroundings σ) (errand : Errand) (world : World σ) :
    Except Problem Result × World σ :=
  World.run surroundings (runRequest errand.context errand.listening errand.request).run world

/-- What an errand exchanges with the world. -/
def Errand.exchanges (surroundings : Surroundings σ) (errand : Errand) (world : World σ) :
    List (Exchange Call Answer) :=
  runExchanges surroundings errand.context errand.listening errand.request world

/-- The world after errands that are run one after another. -/
def afterErrands (surroundings : Surroundings σ) : List Errand -> World σ -> World σ
  | [], world => world
  | errand :: errands, world => afterErrands surroundings errands (errand.run surroundings world).2

/-- What errands that are run one after another exchange with the world. -/
def errandExchanges (surroundings : Surroundings σ) : List Errand -> World σ -> List (Exchange Call Answer)
  | [], _ => []
  | errand :: errands, world => errand.exchanges surroundings world ++
    errandExchanges surroundings errands (errand.run surroundings world).2

variable {surroundings : Surroundings σ} {world after : World σ} {errand : Errand} {errands more : List Errand}

/-- An errand goes the way of its exchanges, and the world answers them. -/
theorem Errand.way (surroundings : Surroundings σ) (errand : Errand) (world : World σ) :
    (runRequest errand.context errand.listening errand.request).run.Goes (errand.exchanges surroundings world)
        (errand.run surroundings world).1 ∧
      Answered (World.answer surroundings) world (errand.exchanges surroundings world)
        (errand.run surroundings world).2 := way_of_run rfl

/-- The world answers the exchanges of errands one after another. -/
theorem answered_errands (surroundings : Surroundings σ) (errands : List Errand) (world : World σ) :
    Answered (World.answer surroundings) world (errandExchanges surroundings errands world)
      (afterErrands surroundings errands world) := by
  induction errands generalizing world with
  | nil => exact .nil world
  | cons errand errands inductionHypothesis =>
    exact Activity.answered_append.mpr ⟨_, (errand.way surroundings world).2, inductionHypothesis _⟩

/-- Errands in two parts are run one part after the other. -/
theorem afterErrands_append : afterErrands surroundings (errands ++ more) world =
    afterErrands surroundings more (afterErrands surroundings errands world) := by
  induction errands generalizing world with
  | nil => rfl
  | cons errand errands inductionHypothesis => exact inductionHypothesis

/-- Errands in two parts make the exchanges of both. -/
theorem errandExchanges_append : errandExchanges surroundings (errands ++ more) world =
    errandExchanges surroundings errands world ++
      errandExchanges surroundings more (afterErrands surroundings errands world) := by
  induction errands generalizing world with
  | nil => rfl
  | cons errand errands inductionHypothesis =>
    exact (congrArg _ inductionHypothesis).trans (List.append_assoc ..).symm

/-- An exchange of errands is one of an errand among them, and what comes after it is the rest of that one and the
later ones. -/
theorem exists_of_errandExchanges {exchange : Exchange Call Answer} {before rest : List (Exchange Call Answer)}
    (isWay : errandExchanges surroundings errands world = before ++ exchange :: rest) :
    ∃ first made between later, errands = first ++ made :: between ∧
      exchange ∈ made.exchanges surroundings (afterErrands surroundings first world) ∧
      rest = later ++ errandExchanges surroundings between (afterErrands surroundings (first ++ [made]) world) := by
  induction errands generalizing world before with
  | nil => exact absurd isWay.symm (List.append_ne_nil_of_right_ne_nil _ (List.cons_ne_nil _ _))
  | cons errand errands inductionHypothesis =>
    have further : ∀ before : List (Exchange Call Answer),
        errandExchanges surroundings errands (errand.run surroundings world).2 = before ++ exchange :: rest ->
        ∃ first made between later, errand :: errands = first ++ made :: between ∧
          exchange ∈ made.exchanges surroundings (afterErrands surroundings first world) ∧
          rest = later ++ errandExchanges surroundings between
            (afterErrands surroundings (first ++ [made]) world) := by
      intro before isWay
      obtain ⟨first, made, between, later, rfl, member, isRest⟩ := inductionHypothesis isWay
      exact ⟨errand :: first, made, between, later, rfl, member, isRest⟩
    rcases List.append_eq_append_iff.mp isWay with ⟨skipped, rfl, isLater⟩ | ⟨own, isOwn, isRest⟩
    · exact further _ isLater
    · cases own with
      | nil => exact further [] isRest.symm
      | cons found later =>
        obtain ⟨rfl, rfl⟩ := List.cons.inj isRest
        refine ⟨[], errand, errands, later, rfl, ?_, rfl⟩
        change exchange ∈ errand.exchanges surroundings world
        exact isOwn ▸ List.mem_append_right before (.head later)

/-- What errands keep as results are sound values, if their metadata are. -/
theorem sound_of_errandExchanges {url typeName : String} {value : Json} {lifetime : Store.Lifetime}
    (metadata : ∀ errand ∈ errands, (Json.obj errand.request.metadata).Sound)
    (keeps : keeping (resultKey url typeName) value lifetime ∈ errandExchanges surroundings errands world) :
    value.Sound := by
  obtain ⟨before, rest, isWay⟩ := List.append_of_mem keeps
  obtain ⟨first, made, between, later, rfl, member, -⟩ := exists_of_errandExchanges isWay
  obtain ⟨session, result, _, _, -, same, makes, -⟩ :=
    kept_of_runRequest (made.way surroundings (afterErrands surroundings first world)).1 member
  obtain ⟨-, rfl, -⟩ := Call.writeCache.inj (congrArg Exchange.request same)
  exact Result.writesSound_of_makes makes (metadata made (by simp))

/-- A result that is given back was read from what was kept. -/
theorem read_of_givenBack {context : Context} {listening : Listening} {request : Request} {value : Json}
    {way : List (Exchange Call Answer)} {result : Result}
    (goes : (giveBack context listening request value).run.Goes way (.ok result)) :
    ∃ now, (Result.codec now).read value = .valid result := by
  obtain ⟨_, _, emitted, -, -, ends⟩ := goes_giveBack goes
  cases emitted with
  | error problem => nomatch ends.2
  | ok done =>
    obtain ⟨now, -, same⟩ := ends
    exact ⟨now, Schema.Checked.toExcept_eq_ok.mp (mapError_eq_ok.mp same.symm)⟩

/-- The documents of a result stay readable as long as no publication for its project is carried out. -/
theorem Result.HasDocuments.stays {result : Result} {way : List (Exchange Call Answer)}
    (hasDocuments : result.HasDocuments world.documents)
    (answered : Answered (World.answer surroundings) world way after) (none : promotion result.projectKey ∉ way) :
    result.HasDocuments after.documents := hasDocuments.of_variants (World.published_stays answered none)

/-- What is read back of a result that was kept has the documents of the result. -/
theorem Result.HasDocuments.of_read {result found : Result} {now later : Clock.Moment}
    {documents : Store.Documents} (hasDocuments : result.HasDocuments documents)
    (sound : (codec now).WritesSound result)
    (read : (codec later).read ((codec now).write .stored result) = .valid found) : found.HasDocuments documents := by
  obtain ⟨sameKey, sameDocuments⟩ := Result.documents_of_read sound read
  unfold Result.HasDocuments
  rw [sameKey, sameDocuments]
  exact hasDocuments

/-- What an errand gives back was kept by the last one before it that kept a result for the same address and type, and
is read of what that one kept. -/
theorem exists_keeper {last : Errand} {result : Result} {value : Json} {rest : List (Exchange Call Answer)}
    (nothing : ∀ url typeName, world.cache.held? (resultKey url typeName) = none)
    (metadata : ∀ errand ∈ errands, (Json.obj errand.request.metadata).Sound)
    (answered : Answered (World.answer surroundings) (afterErrands surroundings errands world)
      (⟨.readCache (resultKey last.request.repositoryUrl last.request.analysisType.name), .ok (some value)⟩ :: rest) after)
    (givesBack : (giveBack last.context last.listening last.request value).run.Goes rest (.ok result)) :
    ∃ before made between session kept now, errands = before ++ made :: between ∧
      made.request.repositoryUrl = last.request.repositoryUrl ∧
      made.request.analysisType = last.request.analysisType ∧
      made.request.kept made.context kept ∈ made.exchanges surroundings (afterErrands surroundings before world) ∧
      ¬ Keeps (resultKey last.request.repositoryUrl last.request.analysisType.name)
        (errandExchanges surroundings between (afterErrands surroundings (before ++ [made]) world)) ∧
      (runIn made.context made.listening made.request session).Makes (fun _ => True) kept ∧
      kept.projectKey = projectKey made.request.repositoryUrl ∧
      (NamesApart (made.exchanges surroundings (afterErrands surroundings before world)) ->
        kept.HasDocuments (afterErrands surroundings (before ++ [made]) world).documents) ∧
      (Result.codec kept.completedAt.reading).WritesSound kept ∧
      (Result.codec now).read ((Result.codec kept.completedAt.reading).write .stored kept) = .valid result := by
  obtain ⟨isFound, -⟩ := Activity.answered_cons.mp answered
  have held := Cache.held?_of_get (World.cache_get_of_served isFound.symm)
  rcases World.held_answered (answered_errands surroundings errands world)
    (fun _ _ => sound_of_errandExchanges metadata) held with ⟨heldBefore, -⟩ | ⟨_, lifetime, _, isKept, noneLater⟩
  · nomatch (nothing _ _).symm.trans heldBefore
  obtain ⟨before, made, between, _, rfl, keeps, rfl⟩ := exists_of_errandExchanges isKept
  obtain ⟨madeGoes, madeAnswered⟩ := made.way surroundings (afterErrands surroundings before world)
  obtain ⟨session, kept, _, _, -, same, makes, sameKey, -, -, readable⟩ := kept_of_runRequest madeGoes keeps
  rw [same] at keeps
  obtain ⟨isKey, rfl, -⟩ := Call.writeCache.inj (congrArg Exchange.request same)
  obtain ⟨sameUrl, sameType⟩ := eq_of_resultKey isKey
  obtain ⟨now, read⟩ := read_of_givenBack givesBack
  refine ⟨before, made, between, session, kept, now, rfl, sameUrl.symm, sameType.symm, keeps, ?_, makes, sameKey,
    fun apart => ?_, Result.writesSound_of_makes makes (metadata made (by simp)), read⟩
  · exact fun ⟨value, lifetime, member⟩ => noneLater ⟨value, lifetime, List.mem_append_right _ member⟩
  · rw [afterErrands_append]
    exact readable madeAnswered apart

end Errands

/-- An errand for the empty repository. -/
def emptyErrand (analysisType : AnalysisType) : Errand := ⟨emptyContext, ⟨true⟩, emptyRequest analysisType⟩

/-- Replies for a first analysis that comes to two documents and another that comes to one. -/
def twofoldReplies : List String :=
  ["{}", "{}", "{}", "plan", "\x7b\"document_tasks\":[\x7b\"title\":\"A\"\x7d]\x7d", "\x7b\"document\":\"text\"\x7d",
    "\x7b\"document\":\"other\"\x7d", "\x7b\"document\":\"text\"\x7d", "\x7b\"document\":\"other\"\x7d"] ++ emptyReplies

/-- Two analyses of the empty repository, of different types. -/
def twofoldErrands : List Errand := [emptyErrand .full, emptyErrand .quality]

/-- The world after both analyses. -/
def twofoldWorld : World (List String) :=
  afterErrands (.reciting fun _ => none) twofoldErrands (.untouched twofoldReplies)

set_option maxRecDepth 100000 in
/-- After both analyses, a third errand for the first type gives back the first result, whose second document is not
published any more. -/
theorem twofoldErrands_return :
    NamesApart (errandExchanges (.reciting fun _ => none) (twofoldErrands ++ [emptyErrand .full])
      (.untouched twofoldReplies)) ∧
    (∃ result, ((emptyErrand .full).run (.reciting fun _ => none) (.untouched twofoldReplies)).1 = .ok result) ∧
    ∃ result, ((emptyErrand .full).run (.reciting fun _ => none) twofoldWorld).1 = .ok result ∧
      ¬ result.HasDocuments ((emptyErrand .full).run (.reciting fun _ => none) twofoldWorld).2.documents := by
  have computed :
      NamesApart (errandExchanges (.reciting fun _ => none) (twofoldErrands ++ [emptyErrand .full])
        (.untouched twofoldReplies)) ∧
      ((emptyErrand .full).run (.reciting fun _ => none) (.untouched twofoldReplies)).1.toOption.isSome ∧
      (((emptyErrand .full).run (.reciting fun _ => none) twofoldWorld).1.toOption.map fun result =>
        (result.projectKey, result.documents.map fun entry => (entry.docName, entry.languages))) =
          some ("u", [("Overview", ["en", "zh"]), ("A", ["en", "zh"])]) ∧
      ((emptyErrand .full).run (.reciting fun _ => none) twofoldWorld).2.documents.get? "u" "A" "en" .published =
        none := by
    simp only [twofoldWorld, twofoldErrands, errandExchanges, Errand.exchanges, runExchanges, List.cons_append,
      List.nil_append, afterErrands, Errand.run, emptyErrand, runRequest, startRun, Running.outcome, Running.course,
      Running.advance, Running.inspect, Running.declaredDependencies, Running.writingStage,
      @writeAll_one emptyContext rfl, emptyRequest, emptyContext_checkout, ofCheckout_empty]
    decide +kernel
  obtain ⟨apart, first, listed, missing⟩ := computed
  obtain ⟨_, begins⟩ := Option.isSome_iff_exists.mp first
  obtain ⟨result, returned, same⟩ := Option.map_eq_some_iff.mp listed
  obtain ⟨isKey, entries⟩ := Prod.mk.inj same
  refine ⟨apart, ⟨_, ok_of_toOption begins⟩, result, ok_of_toOption returned, fun hasDocuments => ?_⟩
  have member : ("A", ["en", "zh"]) ∈ result.documents.map fun entry => (entry.docName, entry.languages) := by
    rw [entries]
    exact .tail _ (.head _)
  obtain ⟨entry, isEntry, same⟩ := List.mem_map.mp member
  obtain ⟨isName, areLanguages⟩ := Prod.mk.inj same
  have isSome := hasDocuments entry isEntry "en" (by rw [areLanguages]; exact .head _)
  rw [isKey, isName, missing] at isSome
  cases isSome

section Echoes

variable {σ : Type} {surroundings : Surroundings σ} {world after : World σ} {errands : List Errand}

/-- **What results repeat.** Of errands that are run one after another, starting without kept results, each that returns
a result returns one for the address and the type of its request, and for the project of the address. The metadata are
those of the request if the errand puts the result together. If it gives back a kept result, they are what can be written
of the metadata of the last errand that kept one for the same address and type. -/
theorem errands_echo {last : Errand} {result : Result}
    (nothing : ∀ url typeName, world.cache.held? (resultKey url typeName) = none)
    (metadata : ∀ errand ∈ errands, (Json.obj errand.request.metadata).Sound)
    (returns : last.run surroundings (afterErrands surroundings errands world) = (.ok result, after)) :
    result.repositoryUrl = last.request.repositoryUrl ∧
      result.analysisType = last.request.analysisType ∧
      result.projectKey = projectKey last.request.repositoryUrl ∧
      (FindsNoResult surroundings last.context last.request (afterErrands surroundings errands world) ->
        result.metadata = last.request.metadata) ∧
      (¬ FindsNoResult surroundings last.context last.request (afterErrands surroundings errands world) ->
        ∃ before made between, errands = before ++ made :: between ∧
          made.request.repositoryUrl = last.request.repositoryUrl ∧
          made.request.analysisType = last.request.analysisType ∧
          Keeps (resultKey last.request.repositoryUrl last.request.analysisType.name)
            (made.exchanges surroundings (afterErrands surroundings before world)) ∧
          ¬ Keeps (resultKey last.request.repositoryUrl last.request.analysisType.name)
            (errandExchanges surroundings between (afterErrands surroundings (before ++ [made]) world)) ∧
          result.metadata = Json.finiteMembers made.request.metadata) := by
  obtain ⟨goes, answered⟩ := way_of_run returns
  by_cases fresh : FindsNoResult surroundings last.context last.request (afterErrands surroundings errands world)
  · obtain ⟨_, kept, _, _, -, -, makes, sameKey, returned, -⟩ :=
      kept_of_runRequest goes (kept_mem_of_ok fresh goes answered)
    obtain rfl := returned result rfl
    exact ⟨makes.repositoryUrl, makes.analysisType, sameKey, fun _ => makes.metadata, fun found => absurd fresh found⟩
  · obtain ⟨value, rest, isWay, givesBack⟩ := (fresh_or_found goes answered).resolve_left fresh
    rw [isWay] at answered
    obtain ⟨before, made, between, _, kept, _, rfl, sameUrl, sameType, keeps, noneLater, makes, sameKey, -, sound, read⟩ :=
      exists_keeper nothing metadata answered givesBack
    obtain ⟨readUrl, readType, readMetadata⟩ := Result.request_of_read sound read
    obtain ⟨readKey, -⟩ := Result.documents_of_read sound read
    refine ⟨?_, ?_, ?_, fun found => absurd found fresh, fun _ => ?_⟩
    · rw [readUrl, makes.repositoryUrl]
      exact sameUrl
    · rw [readType, makes.analysisType]
      exact sameType
    · rw [readKey, sameKey, sameUrl]
    · rw [makes.metadata] at readMetadata
      rw [← sameUrl, ← sameType] at noneLater ⊢
      exact ⟨before, made, between, rfl, rfl, rfl, ⟨_, _, keeps⟩, noneLater, readMetadata⟩

end Echoes

/-- An errand for the empty repository with a number in its metadata. -/
def numberedErrand (number : Int) : Errand :=
  ⟨emptyContext, ⟨true⟩, { emptyRequest .full with metadata := [("number", .int number)] }⟩

/-- The world after an analysis of the empty repository with the number one. -/
def numberedWorld : World (List String) :=
  afterErrands (.reciting fun _ => none) [numberedErrand 1] (.untouched emptyReplies)

set_option maxRecDepth 100000 in
/-- The analysis returns a result, and so does one with another number after it, but with the number of the first. -/
theorem numberedErrands_return :
    (∃ result, ((numberedErrand 1).run (.reciting fun _ => none) (.untouched emptyReplies)).1 = .ok result) ∧
      ∃ result, ((numberedErrand 2).run (.reciting fun _ => none) numberedWorld).1 = .ok result ∧
        result.metadata ≠ (numberedErrand 2).request.metadata := by
  have computed :
      ((numberedErrand 1).run (.reciting fun _ => none) (.untouched emptyReplies)).1.toOption.isSome ∧
        ((numberedErrand 2).run (.reciting fun _ => none) numberedWorld).1.toOption.map (·.metadata) =
          some [("number", .int 1)] := by
    simp only [numberedWorld, afterErrands, Errand.run, numberedErrand, runRequest, startRun, Running.outcome,
      Running.course, Running.advance, Running.inspect, Running.declaredDependencies, Running.writingStage,
      @writeAll_one emptyContext rfl, emptyRequest, emptyContext_checkout, ofCheckout_empty]
    decide +kernel
  obtain ⟨first, second⟩ := computed
  obtain ⟨_, begins⟩ := Option.isSome_iff_exists.mp first
  obtain ⟨result, returned, isMetadata⟩ := Option.map_eq_some_iff.mp second
  refine ⟨⟨_, ok_of_toOption begins⟩, result, ok_of_toOption returned, ?_⟩
  rw [isMetadata]
  decide

/-- The first analysis has its own number in its result. The second is for the same address, type and project and has
the number of the first, which was given back. -/
theorem numberedErrands_echo :
    (∃ result after, (numberedErrand 1).run (.reciting fun _ => none) (.untouched emptyReplies) = (.ok result, after) ∧
      result.metadata = [("number", .int 1)]) ∧
    ∃ result after, (numberedErrand 2).run (.reciting fun _ => none) numberedWorld = (.ok result, after) ∧
      result.repositoryUrl = "u" ∧ result.analysisType = .full ∧ result.projectKey = projectKey "u" ∧
      result.metadata = [("number", .int 1)] := by
  have nothing : ∀ url typeName, (World.untouched emptyReplies).cache.held? (resultKey url typeName) = none :=
    fun _ _ => rfl
  have sound : ∀ errand ∈ [numberedErrand 1], (Json.obj errand.request.metadata).Sound := by
    simp [numberedErrand, Json.Sound, Json.SoundMembers]
  obtain ⟨⟨first, begins⟩, second, returned, differs⟩ := numberedErrands_return
  have echoes := errands_echo nothing (fun _ member => absurd member List.not_mem_nil) (Prod.ext begins rfl)
  obtain ⟨isUrl, isType, isProject, computed, found⟩ := errands_echo nothing sound (Prod.ext returned rfl)
  refine ⟨⟨first, _, Prod.ext begins rfl, echoes.2.2.2.1 (findsNoResult_of_get rfl)⟩, second, _, Prod.ext returned rfl,
    isUrl, isType, isProject, ?_⟩
  obtain ⟨before, made, between, areErrands, -, -, -, -, isMetadata⟩ := found fun fresh => differs (computed fresh)
  have isMade : made ∈ [numberedErrand 1] := areErrands ▸ List.mem_append_right _ (.head _)
  rw [isMetadata, List.mem_singleton.mp isMade]
  rfl

end RepoSurvey.Analysis

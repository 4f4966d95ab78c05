import RepoSurvey.Proofs.Analysis.Runs
import RepoSurvey.Proofs.Analysis.Standings

/-!
# Slots of a cache

A slot is what a cache has room for: the progress record of a URL, or the result of a URL and a type of analysis. Slots
have keys of their own (`Slot.key_injective`), so that a request which keeps to its two slots leaves all others alone.
A run does so in a cache in which every progress record stands under the key of its URL (`abides_filing`), and such a
cache it leaves behind (`Filed.answer`); a record of another URL would be written back under the key of that one.

A progress record belongs to a URL, whatever the type of the analysis: requests of one URL share it.
-/

namespace RepoSurvey.Analysis

open Activity (Abides Fares Terms)
open Store (Cache Lifetime)

/-! ## Slots -/

/-- The place in a cache of the progress record of a URL, or of the result of a URL and a type of analysis. -/
inductive Slot where
  | progress (url : String)
  | result (url : String) (analysisType : AnalysisType)
  deriving DecidableEq, Repr

/-- The key of a slot. -/
def Slot.key : Slot -> String
  | .progress url => progressKey url
  | .result url analysisType => resultKey url analysisType.name

/-- Different slots have different keys. -/
theorem Slot.key_injective : Function.Injective key := by
  intro slot other same
  cases slot with
  | progress url =>
    cases other with
    | progress other => exact congrArg progress (progressKey_injective same)
    | result other otherType => exact absurd same.symm (resultKey_ne_progressKey _ _ _)
  | result url analysisType =>
    cases other with
    | progress other => exact absurd same (resultKey_ne_progressKey _ _ _)
    | result other otherType =>
      obtain ⟨rfl, rfl⟩ := eq_of_resultKey same
      rfl

/-- The slots of a request for an analysis. -/
def Request.slots (request : Request) : List Slot :=
  [.progress request.repositoryUrl, .result request.repositoryUrl request.analysisType]

/-! ## Filed caches -/

/-- Whether what reads from a value as a progress record is one of a URL. -/
def IsRecordOf (url : String) (value : Json) : Prop :=
  ∀ now record, (Progress.codec now).read value = .valid record -> record.repositoryUrl = url

/-- Whether every progress record in a cache stands under the key of its URL. -/
def Filed (cache : Cache) : Prop := ∀ url value, cache.held? (progressKey url) = some value -> IsRecordOf url value

/-- What is written of a record is of its URL. -/
theorem isRecordOf_written (record : Progress) : IsRecordOf record.repositoryUrl record.written := by
  intro now found read
  obtain ⟨-, isHeld, -⟩ := Progress.lookup_written record record.updatedAt.reading
  obtain ⟨-, urlRead, -⟩ := Progress.fields_of_read read
  exact (Schema.Checked.valid.inj (Progress.read_of_lookup isHeld urlRead)).symm

namespace Call

/-- The key under which a call looks into the cache or changes it. -/
def cacheKey? : Call -> Option String
  | .readCache key | .writeCache key _ _ | .deleteCache key => some key
  | _ => none

/-- Whether a call keeps to slots of the cache. -/
def KeepsTo (slots : List Slot) (call : Call) : Prop := ∀ key ∈ call.cacheKey?, key ∈ slots.map Slot.key

/-- Whether a call leaves caches filed. -/
def LeavesFiled : Call -> Prop
  | .writeCache key value _ => ∀ url, key = progressKey url -> value.Sound ∧ IsRecordOf url value
  | _ => True

/-- Whether an answer comes from a filed cache. -/
def TellsFiled : (call : Call) -> Answer call -> Prop
  | .readCache key, answer => ∀ url value, key = progressKey url -> answer = .ok (some value) -> IsRecordOf url value
  | _, _ => True

end Call

/-- The terms of what keeps to slots of a filed cache. -/
def filing (slots : List Slot) : Terms Call Answer where
  told request answer := request.TellsFiled answer
  asks request := request.KeepsTo slots ∧ request.LeavesFiled

variable {σ : Type} {surroundings : Surroundings σ} {slots more : List Slot}

/-- What keeps to slots keeps to more of them. -/
theorem filing_mono {α : Type} {ends : α -> Prop} {activity : Doing α} (keeps : activity.Keeps (filing slots) ends)
    (within : slots ⊆ more) : activity.Keeps (filing more) ends := by
  refine keeps.relax (fun _ _ told => told) fun call asks => ⟨fun key isKey => ?_, asks.2⟩
  exact List.map_subset _ within (asks.1 key isKey)

/-- Whether a cache holds the same as an earlier one in all but some slots. -/
def Spares (slots : List Slot) (before after : Cache) : Prop :=
  ∀ slot ∉ slots, after.kept? slot.key = before.kept? slot.key

/-- A call that keeps to slots leaves all other slots alone. -/
theorem spares_answer {call : Call} (keeps : call.KeepsTo slots) (world : World σ) :
    Spares slots world.cache (World.answer surroundings call world).2.cache := by
  intro slot other
  have other : slot.key ∉ call.cacheKey? := fun isKey =>
    other ((List.mem_map_of_injective Slot.key_injective).mp (keeps _ isKey))
  rw [World.cache_of_answer rfl]
  split
  · cases call with
    | readCache read => exact Cache.kept?_get_of_ne fun same => other (congrArg some same.symm)
    | writeCache written value lifetime =>
      exact Cache.kept?_set_of_ne (fun same => other (congrArg some same.symm)) value lifetime
    | deleteCache deleted => exact Cache.kept?_delete_of_ne fun same => other (congrArg some same.symm)
    | _ => rfl
  · rfl

/-- A value that was written is set in the cache. -/
theorem set_of_carried {key : String} {value : Json} {lifetime : Lifetime} {world : World σ}
    (carried : (Call.writeCache key value lifetime).carried
      (World.answer surroundings (.writeCache key value lifetime) world).1 = true) :
    (world.cache.set key value lifetime (world.next surroundings)).1 = .ok () := by
  cases isAnswer : (World.answer surroundings (.writeCache key value lifetime) world).1 with
  | ok done => exact World.cache_set_of_served isAnswer
  | error obstacle =>
    rw [isAnswer] at carried
    nomatch carried

/-- A filed cache answers as one and stays filed, if no record is written to the slot of another URL. -/
theorem Filed.answer {world : World σ} (filed : Filed world.cache) {call : Call} (leaves : call.LeavesFiled) :
    call.TellsFiled (World.answer surroundings call world).1 ∧
      Filed (World.answer surroundings call world).2.cache := by
  refine ⟨?_, ?_⟩
  · cases call with
    | readCache key =>
      rintro url value rfl isFound
      exact filed url value (Cache.held?_of_get (World.cache_get_of_served isFound))
    | _ => trivial
  · rw [World.cache_of_answer rfl]
    split
    · next carried =>
      intro url value held
      cases call with
      | readCache key => exact filed url value (Cache.held?_get held)
      | deleteCache key => exact filed url value (Cache.held?_delete held)
      | writeCache key written lifetime =>
        by_cases same : key = progressKey url
        · obtain ⟨sound, isOf⟩ := leaves url same
          have kept := Cache.kept?_set_self sound (Prod.ext (set_of_carried carried) rfl)
          rw [same] at kept
          simp only [Call.caching, Cache.held?, same, kept, Option.bind_some, Option.some.injEq] at held
          exact held ▸ isOf
        · refine filed url value ?_
          simpa only [Call.caching, Cache.held?, Cache.kept?_set_of_ne (Ne.symm same)] using held
      | _ => exact filed url value held
    · exact filed

/-! ## Runs -/

section Runs

variable {lifetime : Lifetime} {context : Context} {listening : Listening} {request : Request}

/-- Calls that are none to the cache may be asked. -/
theorem asks_elsewhere {call : Call} (elsewhere : call.cacheKey? = none) : (filing slots).asks call := by
  refine ⟨fun key member => ?_, ?_⟩
  · rw [elsewhere] at member
    nomatch member
  · cases call <;> trivial

/-- Calls to the drafts of a run are none to the cache. -/
theorem Call.Drafts.elsewhere {project : String} {call : Call} (drafts : call.Drafts project) :
    call.cacheKey? = none := by
  cases call <;> first | rfl | exact drafts.elim

/-- Calls to the outside are none to the cache. -/
theorem Call.IsOutside.elsewhere {call : Call} (outside : call.IsOutside) : call.cacheKey? = none := by
  cases call <;> first | rfl | exact outside.elim

/-- A call with the key of one of the slots keeps to them. -/
theorem keepsTo_of_mem {call : Call} {slot : Slot} (member : slot ∈ slots) (isKey : call.cacheKey? = some slot.key) :
    call.KeepsTo slots := by
  intro key isCalled
  obtain rfl := Option.some.inj (isKey.symm.trans isCalled)
  exact List.mem_map_of_mem member

/-- A slot may be looked into. -/
theorem asks_read {slot : Slot} (member : slot ∈ slots) : (filing slots).asks (.readCache slot.key) :=
  ⟨keepsTo_of_mem member rfl, trivial⟩

/-- Progress records of a URL are read from its slot. -/
theorem reads_filing {url : String} (member : .progress url ∈ slots) :
    ReadsProgress (filing slots) url (fun record => record.repositoryUrl = url) (fun _ => True) fun _ => True where
  presents := fares_anyPresent (asks_elsewhere rfl)
  reads := by
    have found : Fares (filing slots) (fun found => ∀ value ∈ found, IsRecordOf url value) (fun _ => True)
        (readCache (progressKey url)) :=
      fares_anyRead (asks_read member) fun value told => told url value rfl rfl
    exact found.mono (fun _ isOf value isFound now _ => ends_read (isOf value isFound now)) fun _ _ => trivial

/-- Progress records of a URL are written back to its slot. -/
theorem notes_filing {url : String} (member : .progress url ∈ slots) : NotesProgress (filing slots) lifetime url
    (fun record => record.repositoryUrl = url) (fun _ => True) fun _ => True where
  toReadsProgress := reads_filing member
  names := asks_elsewhere rfl
  saves record isOf := by
    subst isOf
    refine abides_accepted ⟨⟨keepsTo_of_mem member rfl, fun other same => ?_⟩, fun _ _ => trivial⟩
    obtain rfl := progressKey_injective same
    exact ⟨Progress.sound_written record, isRecordOf_written record⟩
  fresh _ _ _ := rfl

/-- Changes that name what may be changed leave the URL alone. -/
theorem stays_of_named {url : String} {changes : List (String × Json)}
    (named : ∀ change ∈ changes, change.1 ∈ Progress.changeableNames) :
    Progress.StaysOfKind (fun record => record.repositoryUrl = url) (fun _ => True) (fun _ => True) changes := by
  refine ⟨fun record now isOf _ => ?_⟩
  cases changed : record.changed changes now with
  | ok updated => exact (Progress.url_of_changed named changed).trans isOf
  | error report => trivial

/-- Progress of a URL is reported and written to its slot. -/
theorem tells_filing {url : String} (member : .progress url ∈ slots) :
    TellsProgress (filing slots) context listening url :=
  (notes_filing member).tells (asks_elsewhere rfl) (fun _ => asks_elsewhere rfl)
    (fun event => stays_of_named (Progress.named_reported event))
    fun details => stays_of_named (by simp [Progress.changeableNames])

/-- The slots of a request serve its run, which keeps its result in one of them. -/
theorem serves_filing (session : String) : (runIn context listening request session).Serves context
    (filing request.slots) (fun _ => True) fun _ => True where
  hosts := hosts_of_outside fun _ outside => asks_elsewhere outside.elsewhere
  updates _ := asks_elsewhere rfl
  emits _ stage progress _ := (tells_filing (.head _)).emits stage progress
  drafts _ drafts := asks_elsewhere drafts.elsewhere
  saves _ _ _ := abides_accepted ⟨asks_elsewhere rfl, fun _ _ => trivial⟩
  publishes := abides_publishDrafts (asks_elsewhere rfl) (asks_elsewhere rfl)
  presents := fares_anyPresent (asks_elsewhere rfl)
  keeps _ := abides_accepted ⟨⟨@keepsTo_of_mem _ _ (.result _ _) (.tail _ (.head _)) rfl,
    fun _ same => absurd same (resultKey_ne_progressKey _ _ _)⟩, fun _ _ => trivial⟩

/-- A run of a request keeps to the slots of the request. -/
theorem abides_filing (context : Context) (listening : Listening) (request : Request) :
    Abides (filing request.slots) (runRequest context listening request) :=
  abides_running (tells_filing (.head _)) (asks_elsewhere rfl)
    (@asks_read _ (.result _ _) (.tail _ (.head _))) (fun _ _ _ => asks_elsewhere rfl)
    (fun _ => asks_elsewhere rfl) serves_filing

end Runs

end RepoSurvey.Analysis

import RepoSurvey.Analysis.Run
import RepoSurvey.Proofs.Activity.Attempts
import RepoSurvey.Proofs.Analysis.Effects
import RepoSurvey.Proofs.Analysis.Progress
import RepoSurvey.Proofs.Text.Encoding

/-!
# The terms of runs

A cache is orderly for a URL when what it holds as the progress record of the URL reads as one. Runs keep
caches orderly, and in an orderly cache writing progress never fails as long as all calls are served:
`upholds_terms` and `fares_emit`. Which calls a part of a run may make is told by a predicate on calls.

Progress is written down in the same steps whatever is known of the records in the cache. `NotesProgress` says what
terms have to allow for that; `notes_served` and `notes_anything` are the two ends, all calls served and nothing known.
-/

namespace RepoSurvey.Analysis

open Activity (Abides Answered Exchange Fares Terms Upholds)
open Clock (Moment)
open Store (Cache Lifetime)

/-! ## Keys -/

/-- Different addresses have their progress records under different keys. -/
theorem progressKey_injective : Function.Injective progressKey := by
  intro first second same
  have digits := congrArg String.toList same
  simp only [progressKey, String.toList_append, List.append_cancel_left_eq, Text.Base64.ofText,
    String.toList_ofList] at digits
  exact Text.toList_toUTF8_injective (Text.Base64.encode_injective digits)

/-- Results are kept under one key for one address and one type of analysis only. -/
theorem eq_of_resultKey {url other : String} {analysisType otherType : AnalysisType}
    (same : resultKey url analysisType.name = resultKey other otherType.name) :
    url = other ∧ analysisType = otherType := by
  unfold resultKey at same
  obtain rfl : analysisType = otherType := by
    have last := congrArg (fun key : String => key.toList.reverse.head?) same
    cases analysisType <;> cases otherType <;> first | rfl | simp [AnalysisType.name] at last
  simpa using same

/-- Results and progress records are kept under different keys. -/
theorem resultKey_ne_progressKey (url typeName other : String) :
    resultKey url typeName ≠ progressKey other := by
  intro same
  have first := congrArg (fun text : String => text.toList.head?) same
  simp [resultKey, progressKey] at first

/-! ## Orderly caches -/

/-- Whether a value reads as a progress record, at any time, of a URL of some kind. -/
def IsRecord (owned : String -> Prop) (value : Json) : Prop :=
  ∀ now, ∃ record, (Progress.codec now).read value = .valid record ∧ owned record.repositoryUrl

/-- Whether what a cache holds as the progress record of a URL, if anything, reads as one. -/
def Orderly (owned : String -> Prop) (url : String) (cache : Cache) : Prop :=
  ∀ value, cache.held? (progressKey url) = some value -> value ≠ .null -> IsRecord owned value

namespace Call

/-- What an answer has to be for progress records to be orderly. -/
def Told (owned : String -> Prop) (url : String) : (call : Call) -> Answer call -> Prop
  | .readCache key, answer => key = progressKey url -> ∀ value, answer = .ok (some value) ->
    value ≠ .null -> IsRecord owned value
  | _, _ => True

/-- What a call has to be for progress records to stay orderly. -/
def KeepsOrder (owned : String -> Prop) (url : String) : Call -> Prop
  | .writeCache key value _ => key = progressKey url -> value.Sound ∧ IsRecord owned value
  | .deleteCache _ => False
  | _ => True

/-- Whether a call is one that conversations and their order need: to an agent, for a key, a time or a
choice, or to a session to record what an agent did. -/
def IsOutside : Call -> Prop
  | .agent _ | .drawKey | .now | .choose _ | .session (.remark _ _ _)
  | .session (.toolRecord _ _ _ _) => True
  | _ => False

/-- Whether a call is one of those that write progress records. -/
def Records (owned : String -> Prop) (url : String) : Call -> Prop
  | .readCache key => key = progressKey url
  | .writeCache key _ _ => ∃ other, owned other ∧ key = progressKey other
  | .now | .freshId => True
  | _ => False

/-- Whether a call is one of those that report progress and write it down. -/
def Notes (owned : String -> Prop) (url : String) (call : Call) : Prop :=
  call.Records owned url ∨ ∃ event, call = .report event

end Call

/-- The terms of a part of a run that may make some calls: it is served, progress records that it is told
are orderly, and it keeps them so. -/
def terms (owned : String -> Prop) (url : String) (allowed : Call -> Prop) : Terms Call Answer where
  told request answer := request.Served answer ∧ request.Told owned url answer
  asks request := allowed request ∧ request.KeepsOrder owned url

variable {owned : String -> Prop} {url : String} {allowed : Call -> Prop} {σ : Type}
  {surroundings : Surroundings σ}

/-- Served calls are answered on these terms and leave the cache orderly. -/
theorem upholds_terms : Upholds (World.answer surroundings) Call.Served (terms owned url allowed)
    fun world => Orderly owned url world.cache := by
  rintro request world orderly ⟨-, keepsOrder⟩ served
  have cache := World.cache_of_served served
  refine ⟨⟨served, ?_⟩, ?_⟩
  · cases request with
    | readCache key =>
      rintro rfl value found noNull
      exact orderly value (Cache.held?_of_get (World.cache_get_of_served found)) noNull
    | _ => trivial
  · dsimp only
    rw [cache]
    cases request with
    | readCache key =>
      intro value held noNull
      exact orderly value (Cache.held?_get held) noNull
    | writeCache key value lifetime =>
      intro found held noNull
      by_cases same : key = progressKey url
      · obtain ⟨sound, isRecord⟩ := keepsOrder same
        have isSet := World.cache_set_of_served served
        have kept := Cache.kept?_set_self sound (Prod.ext isSet rfl)
        rw [same] at kept
        simp only [Call.caching, Cache.held?, same, kept, Option.bind_some,
          Option.some.injEq] at held
        exact held ▸ isRecord
      · refine orderly found ?_ noNull
        simpa only [Call.caching, Cache.held?, Cache.kept?_set_of_ne (Ne.symm same)] using held
    | deleteCache key => exact keepsOrder.elim
    | _ => exact orderly

/-! ## Single calls -/

section Ways

variable {α : Type} {way : List (Exchange Call Answer)}

/-- A call that is never refused succeeds with its answer. -/
theorem goes_certain {asked : Doing α} {outcome : Except Problem α} :
    (Attempt.certain asked).run.Goes way outcome ↔
      ∃ value, asked.Goes way value ∧ outcome = .ok value :=
  Activity.goes_bind_done fun _ => rfl

/-- A problem from an obstacle to a call. -/
def Obstacle.problem (partner : Partner) : Obstacle -> Problem
  | .refusal report => .refused partner report
  | .cache fault => .cache fault

/-- A call that may be refused comes to its answer, and an obstacle is a problem. -/
theorem goes_accepted {partner : Partner} {asked : Doing (Except Obstacle α)} {outcome : Except Problem α} :
    (Attempt.accepted partner asked).run.Goes way outcome ↔
      ∃ found, asked.Goes way found ∧ outcome = found.mapError (Obstacle.problem partner) :=
  Activity.goes_bind_done fun found => by rcases found with (_ | _) | _ <;> rfl

/-- A call that may be refused succeeds when it is accepted. -/
theorem goes_accepted_ok {partner : Partner} {asked : Doing (Except Obstacle α)} {value : α} :
    (Attempt.accepted partner asked).run.Goes way (.ok value) ↔ asked.Goes way (.ok value) := by
  rw [goes_accepted]
  constructor
  · rintro ⟨found, goes, same⟩
    exact mapError_eq_ok.mp same.symm ▸ goes
  · exact fun goes => ⟨.ok value, goes, rfl⟩

/-- A call that may be refused fails when it is. -/
theorem obstacle_of_goes_accepted {partner : Partner} {asked : Doing (Except Obstacle α)}
    {problem : Problem} (goes : (Attempt.accepted partner asked).run.Goes way (.error problem)) :
    ∃ obstacle, asked.Goes way (.error obstacle) := by
  obtain ⟨found, asking, same⟩ := goes_accepted.mp goes
  obtain ⟨obstacle, rfl, -⟩ := mapError_eq_error.mp same.symm
  exact ⟨obstacle, asking⟩

end Ways

/-- A part of a run that may make the calls to the outside may ask them. -/
theorem asks_of_outside (outside : ∀ call, call.IsOutside -> allowed call) {call : Call}
    (isOutside : call.IsOutside) : (terms owned url allowed).asks call :=
  ⟨outside call isOutside, by cases call <;> trivial⟩

variable {α : Type} {succeeds : α -> Prop} {fails : Problem -> Prop} {conditions : Terms Call Answer}

/-- A call that is never refused ends with its answer. -/
theorem fares_certain {asked : Doing α} (keeps : asked.Keeps conditions succeeds) :
    Fares conditions succeeds fails (Attempt.certain asked) :=
  Activity.keeps_bind.mpr (keeps.mono fun _ ending => ending)

/-- A call that is accepted ends with its answer. -/
theorem fares_accepted {partner : Partner} {asked : Doing (Except Obstacle α)}
    (keeps : asked.Keeps conditions fun answer => ∃ value, answer = .ok value ∧ succeeds value) :
    Fares conditions succeeds fails (Attempt.accepted partner asked) := by
  refine Activity.keeps_bind.mpr (keeps.mono ?_)
  rintro _ ⟨value, rfl, ending⟩
  exact ending

/-- A call that may be refused is accepted or not. -/
theorem fares_asked {partner : Partner} {asked : Doing (Except Obstacle α)}
    (keeps : asked.Keeps conditions fun answer => ∀ value, answer = .ok value -> succeeds value) :
    Fares conditions succeeds (fun _ => True) (Attempt.accepted partner asked) := by
  refine Activity.keeps_bind.mpr (keeps.mono fun answer ending => ?_)
  rcases answer with (report | fault) | value
  · trivial
  · trivial
  · exact ending value rfl

/-- A call that may be refused is accepted or not, whatever comes of it. -/
theorem abides_accepted {partner : Partner} {asked : Doing (Except Obstacle α)}
    (keeps : asked.Keeps conditions fun _ => True) : Abides conditions (Attempt.accepted partner asked) :=
  fares_asked (keeps.mono fun _ _ _ _ => trivial)

/-- What goes on whether it succeeds or not does not fail. -/
theorem fares_ignore {attempt : Attempt α} (abides : Abides conditions attempt) :
    Fares conditions (fun _ => True) fails attempt.ignore :=
  Activity.keeps_bind.mpr (Activity.Keeps.mono abides fun _ _ => trivial)

/-- The present moment is on a date of the calendar. -/
theorem fares_present (may : allowed .now) :
    Fares (terms owned url allowed) (fun now => now.InCalendar) fails present :=
  fares_certain ⟨⟨may, trivial⟩, fun _ told => told.1⟩

/-- Keys are there for the asking. -/
theorem fares_drawKey (may : conditions.asks .drawKey) :
    Fares conditions (fun _ => True) fails drawKey :=
  fares_certain ⟨may, fun _ _ => trivial⟩

/-- Identifiers are there for the asking. -/
theorem fares_freshId (may : conditions.asks .freshId) :
    Fares conditions (fun _ => True) fails freshId :=
  fares_certain ⟨may, fun _ _ => trivial⟩

/-- The clock is there to be looked at. -/
theorem fares_anyPresent (may : conditions.asks .now) :
    Fares conditions (fun _ => True) fails present :=
  fares_certain ⟨may, fun _ _ => trivial⟩

/-- A call to the sessions has an answer. -/
theorem fares_session {request : Session.Request} (may : conditions.asks (.session request)) :
    Fares conditions (fun _ => True) fails (Attempt.certain (.ask (Call.session request))) :=
  fares_certain ⟨may, fun _ _ => trivial⟩

/-- Events are reported without trouble. -/
theorem fares_report {event : Event} (may : allowed (.report event)) :
    Fares (terms owned url allowed) (fun _ => True) fails (report event) :=
  fares_accepted ⟨⟨may, trivial⟩, fun _ told => ⟨(), told.1, trivial⟩⟩

/-- Drafts are saved without trouble. -/
theorem fares_saveDocument {project name content language : String}
    (may : allowed (.saveDocument project name content language)) :
    Fares (terms owned url allowed) (fun _ => True) fails
      (saveDocument project name content language) :=
  fares_accepted ⟨⟨may, trivial⟩, fun _ told => ⟨(), told.1, trivial⟩⟩

/-- Drafts are discarded without trouble. -/
theorem fares_discardDrafts {project : String} {name : Option String}
    (may : allowed (.discardDrafts project name)) :
    Fares (terms owned url allowed) (fun _ => True) fails (discardDrafts project name) := by
  refine fares_accepted ⟨⟨may, trivial⟩, ?_⟩
  rintro _ ⟨⟨count, rfl⟩, -⟩
  exact ⟨count, rfl, trivial⟩

/-- Drafts are published without trouble. -/
theorem fares_publishDrafts {project : String} (mayCount : allowed (.countDrafts project))
    (mayPromote : allowed (.promoteDrafts project)) :
    Fares (terms owned url allowed) (fun _ => True) fails (publishDrafts project) := by
  refine Fares.andThen (fares_accepted ⟨⟨mayCount, trivial⟩, ?_⟩) fun count => ?_
  · rintro _ ⟨⟨count, rfl⟩, -⟩
    exact ⟨count, rfl, trivial⟩
  · split
    · exact Activity.fares_pure trivial
    · exact Fares.andThen
        (fares_accepted ⟨⟨mayPromote, trivial⟩, fun _ told => ⟨(), told.1, trivial⟩⟩)
        fun _ => Activity.fares_pure trivial

/-- Drafts are counted and published. -/
theorem abides_publishDrafts {project : String} (mayCount : conditions.asks (.countDrafts project))
    (mayPromote : conditions.asks (.promoteDrafts project)) :
    Abides conditions (publishDrafts project) := by
  have counted : Abides conditions (Attempt.accepted .documents (.ask (Call.countDrafts project))) :=
    abides_accepted ⟨mayCount, fun _ _ => trivial⟩
  refine counted.andThen fun count => ?_
  split
  · exact Activity.abides_pure _
  · have promoted : Abides conditions
      (Attempt.accepted .documents (.ask (Call.promoteDrafts project))) :=
        abides_accepted ⟨mayPromote, fun _ _ => trivial⟩
    exact promoted.andThen fun _ => Activity.abides_pure _

/-- What is found in the cache as the progress record of the URL reads as one. -/
theorem fares_readCache {key : String} (may : allowed (.readCache key)) :
    Fares (terms owned url allowed)
      (fun found => key = progressKey url -> ∀ value ∈ found, IsRecord owned value) fails
      (readCache key) := by
  have accepted : Fares (terms owned url allowed) (fun found => key = progressKey url ->
      ∀ value ∈ found, value ≠ .null -> IsRecord owned value) fails
      (Attempt.accepted .cache (.ask (Call.readCache key))) := by
    refine fares_accepted ⟨⟨may, trivial⟩, ?_⟩
    rintro _ ⟨⟨found, rfl⟩, told⟩
    exact ⟨found, rfl, fun same value member => told same value (congrArg Except.ok member)⟩
  refine accepted.bind fun found isRecord => Activity.fares_pure ?_
  intro same value member
  obtain ⟨isFound, noNull⟩ := Option.filter_eq_some_iff.mp member
  exact isRecord same value isFound (by simpa using noNull)

/-- A value is kept in the cache without trouble. -/
theorem fares_writeCache {key : String} {value : Json} {lifetime : Lifetime}
    (may : allowed (.writeCache key value lifetime))
    (keepsOrder : key = progressKey url -> value.Sound ∧ IsRecord owned value) :
    Fares (terms owned url allowed) (fun _ => True) fails (writeCache key value lifetime) :=
  fares_accepted ⟨⟨may, keepsOrder⟩, fun _ told => ⟨(), told.1, trivial⟩⟩

/-! ## Progress -/

/-- Whether terms allow the progress record of a URL to be looked for: at the moments that the clock may show, what is
found reads as a record of some kind, or it is one of the failures not to read. -/
structure ReadsProgress (conditions : Terms Call Answer) (url : String) (ofKind : Progress -> Prop)
    (timely : Moment -> Prop) (fails : Problem -> Prop) : Prop where
  presents : Fares conditions timely fails present
  reads : Fares conditions (fun found => ∀ value ∈ found, ∀ now, timely now ->
    Activity.Ends ofKind (fun report => fails (.record report))
      (((Progress.codec now).read value).toExcept Progress.recordName)) fails (readCache (progressKey url))

/-- Whether terms allow progress to be written down, as far as the records of a URL are of some kind. -/
structure NotesProgress (conditions : Terms Call Answer) (lifetime : Lifetime) (url : String)
    (ofKind : Progress -> Prop) (timely : Moment -> Prop) (fails : Problem -> Prop) : Prop
    extends ReadsProgress conditions url ofKind timely fails where
  names : conditions.asks .freshId
  saves : ∀ record, ofKind record -> Fares conditions (fun _ => True) fails (Progress.save lifetime record)
  fresh : ∀ id now, timely now -> ofKind (.fresh id url now)

/-- Whether changes lead from records of a kind to records of the same kind, or it is one of the failures not to. -/
structure Progress.StaysOfKind (ofKind : Progress -> Prop) (timely : Moment -> Prop) (fails : Problem -> Prop)
    (changes : List (String × Json)) : Prop where
  changed : ∀ (record : Progress) (now : Moment), ofKind record -> timely now ->
    Activity.Ends ofKind (fun report => fails (.record report)) (record.changed changes now)

section Kinds

variable {lifetime : Lifetime} {ofKind : Progress -> Prop} {timely : Moment -> Prop} {context : Context}
  {listening : Listening}

/-- The record of a URL is looked for. -/
theorem ReadsProgress.get (reading : ReadsProgress conditions url ofKind timely fails) :
    Fares conditions (fun found => ∀ record ∈ found, ofKind record) fails (Progress.get url) := by
  refine reading.reads.bind fun found isOfKind => ?_
  cases found with
  | none => exact Activity.fares_pure nofun
  | some value =>
    refine reading.presents.bind fun now isTimely => ?_
    have ends := isOfKind value rfl now isTimely
    split
    · next record isRead =>
      rw [isRead] at ends
      refine Activity.fares_pure fun found same => ?_
      obtain rfl := Option.some.inj same
      exact ends
    · next report isRead =>
      rw [isRead] at ends
      exact Activity.fares_throw ends

namespace NotesProgress

variable (notes : NotesProgress conditions lifetime url ofKind timely fails)

include notes

/-- A fresh record is kept. -/
theorem create : Fares conditions (fun _ => True) fails (Progress.create lifetime url) := by
  have named : Fares conditions (fun _ => True) fails freshId := fares_freshId notes.names
  refine named.andThen fun id => ?_
  refine notes.presents.bind fun now isTimely => ?_
  exact (notes.saves _ (notes.fresh _ now isTimely)).andThen fun _ => Activity.fares_pure trivial

/-- A record is looked for, changed and kept. -/
theorem update {changes : List (String × Json)} (stays : Progress.StaysOfKind ofKind timely fails changes) :
    Fares conditions (fun _ => True) fails (Progress.update lifetime url changes) := by
  refine notes.get.bind fun found isOfKind => ?_
  cases found with
  | none => exact Activity.fares_pure trivial
  | some record =>
    refine notes.presents.bind fun now isTimely => ?_
    have ends := stays.changed record now (isOfKind record rfl) isTimely
    split
    · next updated changed =>
      rw [changed] at ends
      exact (notes.saves updated ends).andThen fun _ => Activity.fares_pure trivial
    · next report changed =>
      rw [changed] at ends
      exact Activity.fares_throw ends

/-- An event is written into the record, which is created if there is none. -/
theorem note {event : Event} (stays : Progress.StaysOfKind ofKind timely fails (Progress.reported event)) :
    Fares conditions (fun _ => True) fails (Progress.note lifetime url event) := by
  refine (notes.update stays).andThen fun found => ?_
  cases found with
  | some record => exact Activity.fares_pure trivial
  | none => exact notes.create.andThen fun _ => notes.update stays

omit notes in
/-- A failure is written into the record, which is created if there is none. -/
theorem noteFailure (notes : NotesProgress conditions context.progressLifetime url ofKind timely fails)
    {details : String} (stays : Progress.StaysOfKind ofKind timely fails
      [("status", .str RunStatus.failed.name), ("progress", .int 0), ("details", .str details)]) :
    Fares conditions (fun _ => True) fails (noteFailure context url details) := by
  have marked : Fares conditions (fun _ => True) fails
    (Progress.markFailed context.progressLifetime url details) := notes.update stays
  refine marked.andThen fun found => ?_
  cases found with
  | some record => exact Activity.fares_pure trivial
  | none =>
    refine notes.create.andThen fun _ => ?_
    exact marked.andThen fun _ => Activity.fares_pure trivial

end NotesProgress

end Kinds

/-! ### Served calls -/

section Progress

variable {lifetime : Lifetime} (records : ∀ call, call.Records owned url -> allowed call) (isOwned : owned url)

include records isOwned

/-- On terms on which all calls are served, regular records are written down without trouble. -/
theorem notes_served : NotesProgress (terms owned url allowed) lifetime url
    (fun record => record.Regular ∧ owned record.repositoryUrl) Moment.InCalendar fails where
  presents := fares_present (records _ trivial)
  reads := by
    refine (fares_readCache (records _ rfl)).mono (fun found isRecord value member now inCalendar => ?_)
      fun _ failed => failed
    obtain ⟨record, read, isOwned⟩ := isRecord rfl value member now
    rw [read]
    exact ⟨Progress.regular_of_read inCalendar read, isOwned⟩
  names := ⟨records _ trivial, trivial⟩
  saves record := fun ⟨regular, isOwned⟩ => fares_writeCache (records _ ⟨_, isOwned, rfl⟩) fun _ =>
    ⟨Progress.sound_written record, fun now => ⟨record, Progress.restores regular now, isOwned⟩⟩
  fresh _ _ inCalendar :=
    have regular := Clock.Timestamp.regular_ofMoment inCalendar
    ⟨⟨Int.le_refl 0, of_decide_eq_true rfl, regular, regular⟩, isOwned⟩

omit records isOwned in
/-- Changes that lead from regular records to regular records of the same URL never fail. -/
theorem stays_of_leads {changes : List (String × Json)} {change : Progress -> Moment -> Progress}
    (leads : Progress.Leads changes change) : Progress.StaysOfKind
      (fun record => record.Regular ∧ owned record.repositoryUrl) Moment.InCalendar fails changes := by
  refine ⟨fun record now ⟨regular, isOwned⟩ inCalendar => ?_⟩
  rw [leads.changed record now regular inCalendar]
  exact ⟨leads.regular record now regular inCalendar, leads.sameUrl record now ▸ isOwned⟩

/-- A fresh record is kept. -/
theorem fares_create : Fares (terms owned url allowed) (fun _ => True) fails (Progress.create lifetime url) :=
  (notes_served records isOwned).create

/-- Changes that lead from regular records to regular records of the same URL are written. -/
theorem fares_update {changes : List (String × Json)} {change : Progress -> Moment -> Progress}
    (leads : Progress.Leads changes change) :
    Fares (terms owned url allowed) (fun _ => True) fails (Progress.update lifetime url changes) :=
  (notes_served records isOwned).update (stays_of_leads leads)

/-- An event within the range of progress is written into the record, which is created if there is none. -/
theorem fares_note {event : Event} (inRange : 0 ≤ event.progress ∧ event.progress ≤ 100) :
    Fares (terms owned url allowed) (fun _ => True) fails (Progress.note lifetime url event) :=
  (notes_served records isOwned).note (stays_of_leads (Progress.leads_reported inRange))

/-- A failure is written into the record, which is created if there is none. -/
theorem fares_noteFailure {context : Context} (details : String) :
    Fares (terms owned url allowed) (fun _ => True) fails (noteFailure context url details) :=
  (notes_served records isOwned).noteFailure (stays_of_leads (Progress.leads_failed details))

end Progress

section Telling

variable {context : Context} {listening : Listening} (notes : ∀ call, call.Notes owned url -> allowed call)

include notes

/-- Listeners are told without trouble. -/
theorem fares_tell (event : Event) :
    Fares (terms owned url allowed) (fun _ => True) fails (listening.tell event) := by
  unfold Listening.tell
  split
  · exact fares_report (notes _ (.inr ⟨event, rfl⟩))
  · exact Activity.fares_pure trivial

/-- Progress is reported and written without trouble. -/
theorem fares_emit (isOwned : owned url) (stage : String) {progress : Int}
    (inRange : 0 ≤ progress ∧ progress ≤ 100) : Fares (terms owned url allowed) (fun _ => True) fails
      (emit context listening url stage progress) := by
  refine (fares_tell notes _).andThen fun _ => ?_
  exact (fares_note (fun call records => notes call (.inl records)) isOwned inRange).andThen fun _ =>
    Activity.fares_pure trivial

end Telling

/-! ### Reports, whatever is answered -/

/-- Whether terms allow a run to look at the clock, to make up identifiers, and to report and write down progress
and failures. -/
structure TellsProgress (conditions : Terms Call Answer) (context : Context) (listening : Listening)
    (url : String) : Prop where
  looks : conditions.asks .now
  names : conditions.asks .freshId
  emits : ∀ stage progress, Abides conditions (emit context listening url stage progress)
  fails : ∀ details, Abides conditions (reportFailure context listening url details)

/-- Listeners are told. -/
theorem abides_tell {listening : Listening} {event : Event} (may : conditions.asks (.report event)) :
    Abides conditions (listening.tell event) := by
  unfold Listening.tell
  split
  · exact abides_accepted ⟨may, fun _ _ => trivial⟩
  · exact Activity.abides_pure _

/-- Progress is reported as well as written down. -/
theorem NotesProgress.tells {ofKind : Progress -> Prop} {timely : Moment -> Prop} {context : Context}
    {listening : Listening}
    (notes : NotesProgress conditions context.progressLifetime url ofKind timely fun _ => True)
    (looks : conditions.asks .now) (reports : ∀ event, conditions.asks (.report event))
    (events : ∀ event, Progress.StaysOfKind ofKind timely (fun _ => True) (Progress.reported event))
    (failures : ∀ details, Progress.StaysOfKind ofKind timely (fun _ => True)
      [("status", .str RunStatus.failed.name), ("progress", .int 0), ("details", .str details)]) :
    TellsProgress conditions context listening url where
  looks := looks
  names := notes.names
  emits _ _ := (abides_tell (reports _)).andThen fun _ =>
    (notes.note (events _)).andThen fun _ => Activity.abides_pure _
  fails _ := (abides_tell (reports _)).andThen fun _ => fares_ignore (notes.noteFailure (failures _))

/-- What is found in the cache is as it is told to be. -/
theorem fares_anyRead {key : String} {holds : Json -> Prop} (may : conditions.asks (.readCache key))
    (told : ∀ value, conditions.told (.readCache key) (Except.ok (some value)) -> holds value) :
    Fares conditions (fun found => ∀ value ∈ found, holds value) (fun _ => True) (readCache key) := by
  have looked : Fares conditions (fun found => ∀ value ∈ found, holds value) (fun _ => True)
      (Attempt.accepted .cache (.ask (Call.readCache key))) := by
    refine fares_asked ⟨may, ?_⟩
    rintro _ isTold found rfl value rfl
    exact told value isTold
  exact looked.bind fun found hold => Activity.fares_pure fun value member =>
    hold value (Option.filter_eq_some_iff.mp member).1

/-- A key is looked for in the cache. -/
theorem abides_readCache {key : String} (may : conditions.asks (.readCache key)) :
    Abides conditions (readCache key) := (@fares_anyRead _ key (fun _ => True) may fun _ _ => trivial).abides

/-- A value reads as a record that it has to be, or it does not read. -/
theorem ends_read {ofKind : Progress -> Prop} {value : Json} {now : Moment}
    (isOfKind : ∀ record, (Progress.codec now).read value = .valid record -> ofKind record) :
    Activity.Ends ofKind (fun _ => True) (((Progress.codec now).read value).toExcept Progress.recordName) := by
  cases isRead : ((Progress.codec now).read value).toExcept Progress.recordName with
  | ok record => exact isOfKind record (Schema.Checked.toExcept_eq_ok.mp isRead)
  | error report => trivial

/-- Records stay of a kind that leaves nothing to prove when they are changed. -/
theorem stays_anything (changes : List (String × Json)) :
    Progress.StaysOfKind (fun _ => True) (fun _ => True) (fun _ => True) changes := by
  refine ⟨fun record now _ _ => ?_⟩
  cases record.changed changes now <;> trivial

section Anything

variable {lifetime : Lifetime}
  (records : ∀ call, call.Records (fun _ => True) url -> conditions.asks call)

include records

/-- Records are written down, whatever they are. -/
theorem notes_anything :
    NotesProgress conditions lifetime url (fun _ => True) (fun _ => True) fun _ => True where
  presents := fares_anyPresent (records _ trivial)
  reads := (fares_anyRead (records _ rfl) fun _ _ => trivial).mono
    (fun _ _ _ _ _ _ => ends_read fun _ _ => trivial) fun _ _ => trivial
  names := records _ trivial
  saves _ _ := abides_accepted ⟨records _ ⟨_, trivial, rfl⟩, fun _ _ => trivial⟩
  fresh _ _ _ := trivial

/-- An event is written into the record, which is created if there is none. -/
theorem abides_note (event : Event) : Abides conditions (Progress.note lifetime url event) :=
  (notes_anything records).note (stays_anything _)

/-- A failure is written into the record, which is created if there is none. -/
theorem abides_noteFailure {context : Context} (details : String) :
    Abides conditions (noteFailure context url details) := (notes_anything records).noteFailure (stays_anything _)

end Anything

section TellingAnything

variable {context : Context} {listening : Listening}
  (notes : ∀ call, call.Notes (fun _ => True) url -> conditions.asks call)

include notes

/-- Progress and failures are reported and written down, whatever records there are. -/
theorem tells_anything : TellsProgress conditions context listening url :=
  (notes_anything fun call records => notes call (.inl records)).tells (notes _ (.inl trivial))
    (fun event => notes _ (.inr ⟨event, rfl⟩)) (fun _ => stays_anything _) fun _ => stays_anything _

/-- Progress is reported and written. -/
theorem abides_emit (stage : String) (progress : Int) :
    Abides conditions (emit context listening url stage progress) := (tells_anything notes).emits stage progress

/-- A failure is reported and written. -/
theorem abides_reportFailure (details : String) :
    Abides conditions (reportFailure context listening url details) := (tells_anything notes).fails details

end TellingAnything

end RepoSurvey.Analysis

import RepoSurvey.Proofs.Analysis.Operations
import RepoSurvey.Proofs.Store.Ledgers
import RepoSurvey.Proofs.Text.Encoding

/-!
# What stands for a URL

A record stands for a URL until the last microsecond of its time: from now on, every look under the key of the URL
finds it up to then, and nothing afterwards. While no call is refused, what comes of a look, a change and a fresh
record is told by what stands: `run_get`, `run_update`, `run_create`. Keys of different URLs differ, so that what
stands for one is left alone by whatever is done for another. A change keeps the identifier, the URL and the time of
making: `Progress.follows_of_changed`. In which texts records are kept is told nowhere but here.
-/

namespace RepoSurvey.Analysis

open Clock (Moment Timestamp)
open Schema (Part)
open Store (Cache Lifetime)

/-! ## Changes -/

namespace Progress

variable {record updated : Progress} {now : Moment} {changes : List (String × Json)}

/-- The fields of a record that may be changed. -/
def changeableNames : List String := ["stage", "progress", "details", "status"]

/-- Whether a record follows from another one when it was changed at a moment. -/
structure Follows (record updated : Progress) (now : Moment) : Prop where
  id : updated.id = record.id
  url : updated.repositoryUrl = record.repositoryUrl
  createdAt : updated.createdAt = record.createdAt
  updatedAt : updated.updatedAt = .ofMoment now
  regular : updated.Regular

/-- A field is read from the member of its name. -/
theorem read_of_lookup {α : Type} {name : String} {codec : Schema.Codec α} {held : Progress -> α}
    {fallback : Option α} {members : List (String × Json)} {json : Json} {value : α}
    (isHeld : Json.lookup name members = some json)
    (read : (Part.field name codec held fallback).read members = .valid value) : codec.read json = .valid value := by
  simp only [Part.field, Part.named, isHeld, Option.or_some, Option.getD_some] at read
  exact Schema.Checked.under_eq_valid.mp read

/-- What is written of a record holds its identifier, its URL and the time of its making. -/
theorem lookup_written (record : Progress) (now : Moment) :
    Json.lookup "id" ((parts now).write .stored record) = some (.str record.id) ∧
      Json.lookup "repository_url" ((parts now).write .stored record) = some (.str record.repositoryUrl) ∧
      Json.lookup "created_at" ((parts now).write .stored record) = some (.str record.createdAt.text) := by
  simp [write_parts, Json.lookup]

/-- A regular timestamp is read from its text. -/
theorem read_timestamp {stamp : Timestamp} (regular : stamp.Regular) :
    Schema.Codec.timestamp.read (.str stamp.text) = .valid stamp := by
  have written : Schema.Codec.timestamp.write .stored stamp = .str stamp.text := rfl
  have restored := Schema.Codec.restores_timestamp regular
  rwa [Schema.Codec.Restores, written] at restored

/-- An integer within bounds is read from itself. -/
theorem eq_of_read_integer {least greatest value found : Int}
    (read : (Schema.Codec.integerWithin least greatest).read (.int value) = .valid found) : found = value := by
  simp only [Schema.Codec.integerWithin, Schema.Codec.integer, Schema.Checked.andThen_eq_valid,
    Schema.Checked.valid.injEq] at read
  obtain ⟨integer, rfl, checked⟩ := read
  split_ifs at checked
  · simp [Schema.Checked.misfit] at checked
  · simp [Schema.Checked.misfit] at checked
  · exact (Schema.Checked.valid.inj checked).symm

/-- The members that a changed record is read from. -/
def membersAfter (record : Progress) (changes : List (String × Json)) (now : Moment) : List (String × Json) :=
  Json.assign "updated_at" (.str now.text)
    (changes.foldl (fun members change => Json.assign change.1 change.2 members) ((parts now).write .stored record))

/-- The value of a member after some were set is the last one that was set, or the one that was there. -/
theorem lookup_foldl_assign (name : String) (changes members : List (String × Json)) :
    Json.lookup name (changes.foldl (fun members change => Json.assign change.1 change.2 members) members) =
      (Json.lookup name changes.reverse).or (Json.lookup name members) := by
  induction changes generalizing members with
  | nil => rfl
  | cons change changes inductionHypothesis =>
    rw [List.foldl_cons, inductionHypothesis, List.reverse_cons, Schema.lookup_append, Option.or_assoc]
    congr 1
    obtain ⟨other, value⟩ := change
    by_cases same : other = name
    · simp [same, Json.lookup]
    · simp [same, Json.lookup, Json.lookup_assign_of_ne (Ne.symm same)]

/-- What is changed neither by name nor for the time of the change is as it was. -/
theorem lookup_membersAfter {name : String} (different : name ≠ "updated_at") :
    Json.lookup name (record.membersAfter changes now) =
      (Json.lookup name changes.reverse).or (Json.lookup name ((parts now).write .stored record)) := by
  rw [membersAfter, Json.lookup_assign_of_ne different, lookup_foldl_assign]

/-- A field that no change may name is as it was, unless it is the time of the change. -/
theorem lookup_unchanged (named : ∀ change ∈ changes, change.1 ∈ changeableNames) {name : String} {value : Json}
    (fixed : name ∉ changeableNames) (different : name ≠ "updated_at")
    (isWritten : Json.lookup name ((parts now).write .stored record) = some value) :
    Json.lookup name (record.membersAfter changes now) = some value := by
  have absent : Json.lookup name changes.reverse = none := by
    refine Schema.lookup_of_not_mem fun isName => fixed ?_
    obtain ⟨change, member, rfl⟩ := List.mem_map.mp isName
    exact named change (List.mem_reverse.mp member)
  rw [lookup_membersAfter different, absent, Option.none_or, isWritten]

/-- A changed record is of the same URL. -/
theorem url_of_changed (named : ∀ change ∈ changes, change.1 ∈ changeableNames)
    (changed : record.changed changes now = .ok updated) : updated.repositoryUrl = record.repositoryUrl := by
  have read : (codec now).read (.obj (record.membersAfter changes now)) = .valid updated :=
    Schema.Checked.toExcept_eq_ok.mp changed
  obtain ⟨-, urlRead, -⟩ := fields_of_read read
  obtain ⟨-, written, -⟩ := lookup_written record now
  have isUrl := lookup_unchanged named (by decide) (by decide) written
  exact (Schema.Checked.valid.inj (read_of_lookup isUrl urlRead)).symm

/-- A changed record follows from the one that was changed, and shows the progress that was asked for. -/
theorem follows_of_changed (named : ∀ change ∈ changes, change.1 ∈ changeableNames) (regular : record.Regular)
    (inCalendar : now.InCalendar) (changed : record.changed changes now = .ok updated) :
    record.Follows updated now ∧
      ∀ value, Json.lookup "progress" changes.reverse = some (.int value) -> updated.progress = value := by
  have read : (codec now).read (.obj (record.membersAfter changes now)) = .valid updated :=
    Schema.Checked.toExcept_eq_ok.mp changed
  have isRegular := regular_of_read inCalendar read
  obtain ⟨idRead, -, progressRead, createdRead, updatedRead⟩ := fields_of_read read
  obtain ⟨idWritten, -, createdWritten⟩ := lookup_written record now
  have isId := lookup_unchanged named (by decide) (by decide) idWritten
  have isCreated := lookup_unchanged named (by decide) (by decide) createdWritten
  have isUpdated : Json.lookup "updated_at" (record.membersAfter changes now) = some (.str now.text) :=
    Json.lookup_assign_self _ _ _
  have created := read_timestamp regular.createdAt
  have moment := read_timestamp (Timestamp.regular_ofMoment inCalendar)
  rw [Timestamp.text_ofMoment] at moment
  refine ⟨⟨?_, url_of_changed named changed, ?_, ?_, isRegular⟩, fun value isAsked => ?_⟩
  · exact (Schema.Checked.valid.inj (read_of_lookup isId idRead)).symm
  · exact Schema.Checked.valid.inj ((read_of_lookup isCreated createdRead).symm.trans created)
  · exact Schema.Checked.valid.inj ((read_of_lookup isUpdated updatedRead).symm.trans moment)
  · have isProgress : Json.lookup "progress" (record.membersAfter changes now) = some (.int value) := by
      rw [lookup_membersAfter (by decide), isAsked, Option.some_or]
    exact eq_of_read_integer (read_of_lookup isProgress progressRead)

/-- What a report changes may be changed. -/
theorem named_reported (event : Event) : ∀ change ∈ reported event, change.1 ∈ changeableNames := by
  simp [reported, changeableNames]

/-- A change to what a report says is made when its progress is within range, and otherwise not. -/
theorem changed_reported {event : Event} (regular : record.Regular) (inCalendar : now.InCalendar)
    (changed : record.changed (reported event) now = .ok updated) :
    (0 ≤ event.progress ∧ event.progress ≤ 100) ∧ updated = record.after event now := by
  obtain ⟨follows, isProgress⟩ := follows_of_changed (named_reported event) regular inCalendar changed
  have same := isProgress event.progress (by simp [reported, Json.lookup])
  have inRange : 0 ≤ event.progress ∧ event.progress ≤ 100 := same ▸ ⟨follows.regular.low, follows.regular.high⟩
  have leads := (leads_reported inRange).changed record now regular inCalendar
  exact ⟨inRange, Except.ok.inj (changed.symm.trans leads)⟩

/-- The record after a completion was written into it. -/
def afterCompletion (record : Progress) (stage : String) (now : Moment) : Progress :=
  { record with
    status := .completed
    progress := 100
    stage
    updatedAt := .ofMoment now }

/-- A regular record is regular after a completion. -/
theorem Regular.afterCompletion (regular : record.Regular) (inCalendar : now.InCalendar) (stage : String) :
    (record.afterCompletion stage now).Regular :=
  ⟨of_decide_eq_true rfl, le_refl 100, regular.createdAt, Timestamp.regular_ofMoment inCalendar⟩

/-- A completion is written into every regular record. -/
theorem leads_completed (stage : String) : Leads [("status", .str RunStatus.completed.name),
    ("progress", .int 100), ("stage", .str stage)] fun record now => record.afterCompletion stage now where
  changed record now regular inCalendar := by
    refine changed_eq (regular.afterCompletion inCalendar stage) ?_
    rw [write_parts, write_parts]
    simp [afterCompletion, Json.assign]
  regular _ _ regular inCalendar := regular.afterCompletion inCalendar stage
  sameUrl _ _ := rfl

end Progress

/-! ## What stands for a URL -/

/-- A record as it is kept. -/
def Progress.written (record : Progress) : Json := (codec record.updatedAt.reading).write .stored record

/-- A fresh record is regular. -/
theorem Progress.regular_fresh (id url : String) {now : Moment} (inCalendar : now.InCalendar) :
    (fresh id url now).Regular where
  low := le_refl 0
  high := of_decide_eq_true rfl
  createdAt := Timestamp.regular_ofMoment inCalendar
  updatedAt := Timestamp.regular_ofMoment inCalendar

/-- The integers of a regular record can be written. -/
theorem Progress.integersFit_written {record : Progress} (regular : record.Regular) :
    record.written.integersFit = true := by
  have fits : Json.integerFits record.progress = true := by
    have low := regular.low
    have high := regular.high
    exact Json.integerFits_of_lt 3 (by decide) (by omega)
  change Json.memberIntegersFit ((parts _).write .stored record) = true
  rw [write_parts]
  cases record.details <;> simp [Json.memberIntegersFit, Json.integersFit, fits]

/-- A record and the last microsecond at which it is found. -/
structure Standing where
  record : Progress
  last : Int

/-- The record that is found at a moment. -/
def Standing.at? (standing : Option Standing) (moment : Moment) : Option Progress :=
  standing.bind fun standing => if moment.microseconds ≤ standing.last then some standing.record else none

/-- A record that is found stands. -/
theorem Standing.of_at? {standing : Option Standing} {moment : Moment} {record : Progress}
    (isFound : Standing.at? standing moment = some record) :
    ∃ kept ∈ standing, kept.record = record ∧ moment.microseconds ≤ kept.last := by
  obtain ⟨kept, rfl, isKept⟩ := Option.bind_eq_some_iff.mp isFound
  split at isKept
  · next le => exact ⟨kept, rfl, Option.some.inj isKept, le⟩
  · nomatch isKept

section Worlds

variable {σ : Type} {surroundings : Surroundings σ} {world middle after : World σ} {url other : String}
  {standing : Option Standing} {seconds : Int} {moment later : Moment}

/-- What a look at a moment finds under the key of a URL. -/
def World.shows (world : World σ) (url : String) (moment : Moment) : Except Store.CacheFault (Option Json) :=
  Cache.found moment (world.cache.kept? (progressKey url))

/-- Whether a record, if any, stands for a URL from now on. -/
def World.Upholds (world : World σ) (url : String) (standing : Option Standing) : Prop :=
  ∀ moment : Moment, world.clock.microseconds ≤ moment.microseconds ->
    world.shows url moment = .ok ((Standing.at? standing moment).map Progress.written)

/-- Whether time passed and some URLs are shown as before. -/
structure World.Leaves (isLeft : String -> Prop) (world after : World σ) : Prop where
  clock : world.clock.microseconds ≤ after.clock.microseconds
  shows : ∀ url, isLeft url -> ∀ moment : Moment, after.clock.microseconds ≤ moment.microseconds ->
    after.shows url moment = world.shows url moment

namespace World.Leaves

variable {isLeft : String -> Prop}

/-- What is left alone twice is left alone. -/
theorem trans (first : World.Leaves isLeft world middle) (second : World.Leaves isLeft middle after) :
    World.Leaves isLeft world after where
  clock := first.clock.trans second.clock
  shows url left moment le := by
    rw [second.shows url left moment le, first.shows url left moment (second.clock.trans le)]

/-- What is left alone among more is left alone among fewer. -/
theorem mono {isFewer : String -> Prop} (leaves : World.Leaves isLeft world after)
    (fewer : ∀ url, isFewer url -> isLeft url) : World.Leaves isFewer world after :=
  ⟨leaves.clock, fun url left => leaves.shows url (fewer url left)⟩

/-- What stands for a URL that is left alone goes on to stand for it. -/
theorem upholds (leaves : World.Leaves isLeft world after) (left : isLeft url) (holds : world.Upholds url standing) :
    after.Upholds url standing := fun moment le => by
  rw [leaves.shows url left moment le, holds moment (leaves.clock.trans le)]

end World.Leaves

/-- Whether all moments from one to another have dates of the calendar. -/
def CalendarHolds (first last : Moment) : Prop :=
  ∀ moment : Moment, first.microseconds ≤ moment.microseconds -> moment.microseconds ≤ last.microseconds ->
    moment.InCalendar

/-- A part of a time with dates of the calendar is one. -/
theorem CalendarHolds.mono {first last begun ended : Moment} (holds : CalendarHolds first last)
    (after : first.microseconds ≤ begun.microseconds) (before : ended.microseconds ≤ last.microseconds) :
    CalendarHolds begun ended := fun moment isAfter isBefore =>
  holds moment (after.trans isAfter) (isBefore.trans before)

/-- What may come of a change, given the record that is found. -/
inductive Progress.Updates (seconds : Int) (url : String) (changes : List (String × Json)) (world : World σ) :
    Option Progress -> Except Problem (Option Progress) × World σ -> Prop where
  /-- No record is found, and nothing changes. -/
  | missed {after : World σ} (leaves : World.Leaves (fun _ => True) world after) :
      Updates seconds url changes world none (.ok none, after)
  /-- The changes do not make a record, and nothing changes. -/
  | rejected {record : Progress} {report : Schema.Report} {now : Moment} {after : World σ}
      (inCalendar : now.InCalendar) (rejected : record.changed changes now = .error report)
      (leaves : World.Leaves (fun _ => True) world after) :
      Updates seconds url changes world (some record) (.error (.record report), after)
  /-- The changes make a record, which stands from then on for its lifetime. -/
  | written {record updated : Progress} {now : Moment} {after : World σ}
      (begun : world.clock.microseconds ≤ now.microseconds) (ended : now.microseconds ≤ after.clock.microseconds)
      (inCalendar : now.InCalendar) (changed : record.changed changes now = .ok updated)
      (holds : after.Upholds url (some ⟨updated, after.clock.microseconds + seconds * Moment.perSecond⟩))
      (leaves : World.Leaves (· ≠ url) world after) :
      Updates seconds url changes world (some record) (.ok (some updated), after)

/-! ## Calls -/

/-- The clock never goes back at a call. -/
theorem World.clock_le_answer (surroundings : Surroundings σ) (call : Call) (world : World σ) :
    world.clock.microseconds ≤ (answer surroundings call world).2.clock.microseconds := by
  rw [clock_answer]
  exact clock_le_next surroundings world

/-- A call that does nothing to the cache leaves every URL alone. -/
theorem World.leaves_of_idle (call : Call) (idle : ∀ now cache, call.caching now cache = cache) :
    World.Leaves (fun _ => True) world (World.answer surroundings call world).2 where
  clock := clock_le_answer surroundings call world
  shows url _ moment _ := by rw [World.shows, cache_of_idle idle, World.shows]

/-- The clock is looked at. -/
theorem run_present : World.run surroundings present.run world =
    (.ok (world.next surroundings), (World.answer surroundings .now world).2) := rfl

/-- An identifier is made up. -/
theorem run_freshId : World.run surroundings freshId.run world =
    (.ok (World.identifier world.identifiers), (World.answer surroundings .freshId world).2) := rfl

/-- The clock never goes back in a run. -/
theorem World.clock_le_run {α : Type} (surroundings : Surroundings σ) (activity : Doing α) (world : World σ) :
    world.clock.microseconds ≤ (World.run surroundings activity world).2.clock.microseconds :=
  World.clock_le_answered (Activity.answered_run activity world)

/-- The clock moves on before the first call of a run. -/
theorem World.next_le_run {α : Type} {activity : Doing α} {call : Call} {onward : Answer call -> Doing α}
    (isCall : activity = .call call onward) :
    (world.next surroundings).microseconds ≤ (World.run surroundings activity world).2.clock.microseconds := by
  rw [← clock_answer surroundings call world, isCall]
  exact clock_le_run surroundings (onward (answer surroundings call world).1) _

/-- The clock never goes back in the rest of an attempt. -/
theorem World.clock_le_run_then {α β : Type} (first : Attempt α) (next : α -> Attempt β) :
    (World.run surroundings first.run world).2.clock.microseconds ≤
      (World.run surroundings (first >>= next).run world).2.clock.microseconds := by
  rw [run_then]
  split
  · next found middle ran =>
    rw [ran]
    exact clock_le_run _ _ _
  · next problem middle ran => rw [ran]

section Serving

variable (serves : surroundings.RefusesNothing)

include serves

/-- Nothing stands in the way of a call to the cache but the cache itself. -/
theorem World.answerCache_of_serves {α : Type} {call : Call}
    {change : Moment -> Cache -> Except Store.CacheFault α × Cache} :
    (answerCache surroundings call world change).1 = (change world.clock world.cache).1.mapError .cache := by
  have accepted := serves call world.outside
  unfold answerCache orRefusal
  generalize surroundings.refusal call world.outside = given at accepted
  obtain ⟨refused, outside⟩ := given
  obtain rfl : refused = none := accepted
  rfl

/-- A look under the key of a URL finds what is shown, and leaves every URL alone. -/
theorem run_readCache {kept : Option Json} (isShown : world.shows url (world.next surroundings) = .ok kept) :
    ∃ after, World.run surroundings (readCache (progressKey url)).run world = (.ok (kept.filter (· != .null)), after) ∧
      World.Leaves (fun _ => True) world after := by
  have isFound : (World.answer surroundings (.readCache (progressKey url)) world).1 = .ok kept := by
    refine (World.answerCache_of_serves serves).trans (mapError_eq_ok.mpr ?_)
    exact (Cache.get_fst _ _ _).trans isShown
  have ran : World.run surroundings (Attempt.accepted .cache (.ask (Call.readCache (progressKey url)))).run world =
      (.ok kept, (World.answer surroundings (.readCache (progressKey url)) world).2) :=
    (World.run_accepted .cache _).trans (Prod.ext (congrArg (Except.mapError (Obstacle.problem .cache)) isFound) rfl)
  refine ⟨(World.answer surroundings (.readCache (progressKey url)) world).2, ?_,
    ⟨World.clock_le_answer _ _ _, fun other _ moment le => ?_⟩⟩
  · refine (World.run_then _ _).trans ?_
    rw [ran]
    rfl
  · have looked : (World.answer surroundings (.readCache (progressKey url)) world).2.cache =
        (world.cache.get (progressKey url) (world.next surroundings)).2 := by
      have served : (Call.readCache (progressKey url)).Served
        (World.answer surroundings (.readCache (progressKey url)) world).1 := ⟨kept, isFound⟩
      exact World.cache_of_served served
    rw [World.clock_answer] at le
    rw [World.shows, looked]
    exact Cache.found_get le

/-- A value that is kept under the key of a URL is shown for its lifetime, and the other URLs are left alone. -/
theorem run_writeCache (seconds : Int) (world : World σ) (url : String) {value : Json} (sound : value.Sound)
    (fits : value.integersFit = true) :
    ∃ after, World.run surroundings (writeCache (progressKey url) value (.ofSeconds seconds)).run world =
        (.ok (), after) ∧ World.Leaves (· ≠ url) world after ∧
      ∀ moment, after.shows url moment = .ok (if moment.microseconds ≤
        after.clock.microseconds + seconds * Moment.perSecond then some value else none) := by
  let call := Call.writeCache (progressKey url) value (.ofSeconds seconds)
  have isKept : (world.cache.set (progressKey url) value (.ofSeconds seconds) (world.next surroundings)).1 = .ok () :=
    Cache.set_fst fits seconds
  have isDone : call.Served (World.answer surroundings call world).1 :=
    (World.answerCache_of_serves serves).trans (mapError_eq_ok.mpr isKept)
  have wrote : (World.answer surroundings call world).2.cache =
      (world.cache.set (progressKey url) value (.ofSeconds seconds) (world.next surroundings)).2 :=
    World.cache_of_served isDone
  refine ⟨(World.answer surroundings call world).2, ?_,
    ⟨World.clock_le_answer _ _ _, fun other different moment _ => ?_⟩, fun moment => ?_⟩
  · exact (World.run_accepted .cache _).trans
      (Prod.ext (congrArg (Except.mapError (Obstacle.problem .cache)) isDone) rfl)
  · have otherKey : progressKey other ≠ progressKey url := fun same => different (progressKey_injective same)
    rw [World.shows, wrote, Cache.kept?_set_of_ne otherKey, World.shows]
  · rw [World.shows, wrote, Cache.kept?_set_self sound (Prod.ext isKept rfl), World.clock_answer]
    simp only [Cache.found, Cache.isOver_since]
    by_cases past : (world.next surroundings).microseconds + seconds * Moment.perSecond < moment.microseconds
    · rw [decide_eq_true past, if_neg (not_le.mpr past)]
    · rw [decide_eq_false past, if_pos (not_lt.mp past)]

/-- Nothing is shown under the key of a URL after it was dropped, and the other URLs are left alone. -/
theorem run_deleteCache (world : World σ) (url : String) :
    ∃ after, World.run surroundings (deleteCache (progressKey url)).run world = (.ok (), after) ∧
      World.Leaves (· ≠ url) world after ∧ ∀ moment, after.shows url moment = .ok none := by
  have isDone : (Call.deleteCache (progressKey url)).Served
      (World.answer surroundings (.deleteCache (progressKey url)) world).1 := World.answerCache_of_serves serves
  have dropped : (World.answer surroundings (.deleteCache (progressKey url)) world).2.cache =
      world.cache.delete (progressKey url) :=
    World.cache_of_served isDone
  refine ⟨(World.answer surroundings (.deleteCache (progressKey url)) world).2, ?_,
    ⟨World.clock_le_answer _ _ _, fun other different moment _ => ?_⟩, fun moment => ?_⟩
  · exact (World.run_accepted .cache _).trans
      (Prod.ext (congrArg (Except.mapError (Obstacle.problem .cache)) isDone) rfl)
  · have otherKey : progressKey other ≠ progressKey url := fun same => different (progressKey_injective same)
    rw [World.shows, dropped, Cache.kept?_delete_of_ne otherKey, World.shows]
  · rw [World.shows, dropped, Cache.kept?_delete_self]
    rfl

/-- A look for the record of a URL finds the one that stands, and leaves every URL alone. -/
theorem run_get (holds : world.Upholds url standing) (regular : ∀ kept ∈ standing, kept.record.Regular) :
    ∃ after, World.run surroundings (Progress.get url).run world =
        (.ok (Standing.at? standing (world.next surroundings)), after) ∧ World.Leaves (fun _ => True) world after := by
  obtain ⟨middle, looked, leaves⟩ :=
    run_readCache serves (holds (world.next surroundings) (World.clock_le_next surroundings world))
  unfold Progress.get
  rw [World.run_then, looked]
  cases found : Standing.at? standing (world.next surroundings) with
  | none => exact ⟨middle, rfl, leaves⟩
  | some record =>
    obtain ⟨kept, member, rfl, -⟩ := Standing.of_at? found
    refine ⟨(World.answer surroundings .now middle).2, ?_, leaves.trans (World.leaves_of_idle .now fun _ _ => rfl)⟩
    have read : ((Progress.codec (middle.next surroundings)).read kept.record.written).toExcept
        Progress.recordName = .ok kept.record :=
      Schema.Checked.toExcept_eq_ok.mpr (Progress.restores (regular kept member) (middle.next surroundings))
    refine (World.run_then present _).trans ?_
    rw [run_present]
    dsimp only
    rw [read]
    rfl

/-- A record that is saved stands for its lifetime, and the other URLs are left alone. -/
theorem run_save (seconds : Int) (world : World σ) {record : Progress} (regular : record.Regular) :
    ∃ after, World.run surroundings (record.save (.ofSeconds seconds)).run world = (.ok (), after) ∧
      World.Leaves (· ≠ record.repositoryUrl) world after ∧
      after.Upholds record.repositoryUrl (some ⟨record, after.clock.microseconds + seconds * Moment.perSecond⟩) := by
  obtain ⟨after, wrote, leaves, shown⟩ := run_writeCache serves seconds world record.repositoryUrl
    (Progress.sound_written record) (Progress.integersFit_written regular)
  refine ⟨after, wrote, leaves, fun moment _ => (shown moment).trans ?_⟩
  rw [Standing.at?, Option.bind_some]
  split <;> rfl

/-- A fresh record takes the place of any that stands for its URL, and the other URLs are left alone. -/
theorem run_create (seconds : Int) (world : World σ) (url : String) (inCalendar : CalendarHolds world.clock
    (World.run surroundings (Progress.create (.ofSeconds seconds) url).run world).2.clock) :
    ∃ id now after, World.run surroundings (Progress.create (.ofSeconds seconds) url).run world =
        (.ok (Progress.fresh id url now), after) ∧
      (world.clock.microseconds ≤ now.microseconds ∧ now.microseconds ≤ after.clock.microseconds ∧ now.InCalendar) ∧
      World.Leaves (· ≠ url) world after ∧ after.Upholds url (some ⟨Progress.fresh id url now,
        after.clock.microseconds + seconds * Moment.perSecond⟩) := by
  let named := (World.answer surroundings .freshId world).2
  let now := named.next surroundings
  let seen := (World.answer surroundings .now named).2
  let id := "progress-" ++ World.identifier world.identifiers
  obtain ⟨outcome, isOutcome⟩ : ∃ outcome,
    World.run surroundings (Progress.create (.ofSeconds seconds) url).run world = outcome := ⟨_, rfl⟩
  rw [isOutcome] at inCalendar ⊢
  unfold Progress.create at isOutcome
  rw [World.run_then, run_freshId] at isOutcome
  dsimp only at isOutcome
  rw [World.run_then, run_present] at isOutcome
  dsimp only at isOutcome
  have left : World.Leaves (fun _ => True) world seen :=
    (World.leaves_of_idle .freshId fun _ _ => rfl).trans (World.leaves_of_idle .now fun _ _ => rfl)
  have begun : world.clock.microseconds ≤ now.microseconds :=
    (World.clock_le_answer _ _ _).trans (World.clock_le_next surroundings named)
  have ended : now.microseconds ≤ outcome.2.clock.microseconds := by
    rw [← isOutcome, show now = seen.clock from (World.clock_answer surroundings .now named).symm]
    exact World.clock_le_run _ _ _
  have isDate := inCalendar now begun ended
  obtain ⟨after, saved, leaves, stands⟩ := run_save serves seconds seen (Progress.regular_fresh id url isDate)
  rw [World.run_then, saved] at isOutcome
  obtain rfl := isOutcome
  exact ⟨id, now, after, rfl, ⟨begun, ended, isDate⟩, (left.mono fun _ _ => trivial).trans leaves, stands⟩

/-- What comes of a change to the record of a URL is told by the record that stands. -/
theorem run_update (seconds : Int) (holds : world.Upholds url standing)
    (regular : ∀ kept ∈ standing, kept.record.Regular) (isUrl : ∀ kept ∈ standing, kept.record.repositoryUrl = url)
    (named : ∀ change ∈ changes, change.1 ∈ Progress.changeableNames)
    (inCalendar : CalendarHolds world.clock
      (World.run surroundings (Progress.update (.ofSeconds seconds) url changes).run world).2.clock) :
    Progress.Updates seconds url changes world (Standing.at? standing (world.next surroundings))
      (World.run surroundings (Progress.update (.ofSeconds seconds) url changes).run world) := by
  obtain ⟨middle, got, leaves⟩ := run_get serves holds regular
  obtain ⟨outcome, isOutcome⟩ : ∃ outcome,
    World.run surroundings (Progress.update (.ofSeconds seconds) url changes).run world = outcome := ⟨_, rfl⟩
  rw [isOutcome] at inCalendar ⊢
  unfold Progress.update at isOutcome
  rw [World.run_then, got] at isOutcome
  cases found : Standing.at? standing (world.next surroundings) with
  | none =>
    rw [found] at isOutcome
    obtain rfl := isOutcome
    exact .missed leaves
  | some record =>
    obtain ⟨kept, member, rfl, -⟩ := Standing.of_at? found
    rw [found] at isOutcome
    dsimp only at isOutcome
    rw [World.run_then present, run_present] at isOutcome
    dsimp only at isOutcome
    have seen : World.Leaves (fun _ => True) world (World.answer surroundings .now middle).2 :=
      leaves.trans (World.leaves_of_idle .now fun _ _ => rfl)
    have begun := leaves.clock.trans (World.clock_le_next surroundings middle)
    have ended : (middle.next surroundings).microseconds ≤ outcome.2.clock.microseconds := by
      rw [← isOutcome, ← World.clock_answer surroundings .now middle]
      exact World.clock_le_run _ _ _
    have isDate := inCalendar _ begun ended
    cases changed : kept.record.changed changes (middle.next surroundings) with
    | error report =>
      rw [changed] at isOutcome
      obtain rfl := isOutcome
      exact .rejected isDate changed seen
    | ok updated =>
      rw [changed] at isOutcome
      obtain ⟨follows, -⟩ := Progress.follows_of_changed named (regular kept member) isDate changed
      have sameUrl : updated.repositoryUrl = url := follows.url.trans (isUrl kept member)
      obtain ⟨after, saved, left, stands⟩ := run_save serves seconds (World.answer surroundings .now middle).2
        follows.regular
      dsimp only at isOutcome
      rw [World.run_then, saved] at isOutcome
      obtain rfl := isOutcome
      rw [sameUrl] at left stands
      exact .written begun ended isDate changed stands
        ((seen.mono fun _ _ => trivial).trans left)

end Serving

end Worlds

end RepoSurvey.Analysis

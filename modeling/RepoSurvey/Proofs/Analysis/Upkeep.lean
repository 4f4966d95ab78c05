import RepoSurvey.Proofs.Analysis.Standings

/-!
# Upkeep of progress records

Records are made, looked for, changed, marked, reported on and deleted, one operation after another, while time passes
as it will. What each operation comes to is told by the record that is found for its URL when it begins:
`Upkeep.accounts`. From this follows by induction what all of them leave behind (`Upkeep.stands_worldAfter`), and
`upkeep_account` says both together. A report where no record is found makes one, in two steps between which time
passes: the new record may be over before the report is written into it. What several operations do to one record when
they are carried out at once is not told.
-/

namespace RepoSurvey.Analysis

open Clock (Moment Timestamp)

/-! ## Operations -/

/-- An operation on progress records. -/
inductive Upkeep where
  | create (url : String)
  | get (url : String)
  | report (url : String) (event : Event)
  | update (url : String) (changes : List (String × Json))
      (named : ∀ change ∈ changes, change.1 ∈ Progress.changeableNames)
  | fail (url details : String)
  | complete (url stage : String)
  | delete (url : String)

namespace Upkeep

/-- The URL that an operation is about. -/
def url : Upkeep -> String
  | create url | get url | report url _ | update url _ _ | fail url _ | complete url _ | delete url => url

/-- The changes that an operation makes to a record that is there, if that is all it does. -/
def changes? : Upkeep -> Option (List (String × Json))
  | update _ changes _ => some changes
  | fail _ details => some
    [("status", .str RunStatus.failed.name), ("progress", .int 0), ("details", .str details)]
  | complete _ stage => some
    [("status", .str RunStatus.completed.name), ("progress", .int 100), ("stage", .str stage)]
  | _ => none

/-- What a mark makes of every record. -/
def mark? : Upkeep -> Option (Progress -> Moment -> Progress)
  | fail _ details => some fun record now => record.afterFailure details now
  | complete _ stage => some fun record now => record.afterCompletion stage now
  | _ => none

/-- Whether a record that comes back from an operation was written by it. -/
def writes : Upkeep -> Bool
  | get _ | delete _ => false
  | _ => true

/-- Do what is to be done. -/
def perform (lifetime : Store.Lifetime) : Upkeep -> Attempt (Option Progress)
  | create url => do
    let record <- Progress.create lifetime url
    pure (some record)
  | get url => Progress.get url
  | report url event => Progress.note lifetime url event
  | update url changes _ => Progress.update lifetime url changes
  | fail url details => Progress.markFailed lifetime url details
  | complete url stage => Progress.markCompleted lifetime url stage
  | delete url => do
    Progress.delete url
    pure none

/-- Changes are made to fields that may be changed. -/
theorem named_of_changes? {operation : Upkeep} {changes : List (String × Json)}
    (isChange : operation.changes? = some changes) : ∀ change ∈ changes, change.1 ∈ Progress.changeableNames := by
  cases operation with
  | update url other named =>
    obtain rfl := Option.some.inj isChange
    exact named
  | fail url details =>
    obtain rfl := Option.some.inj isChange
    simp [Progress.changeableNames]
  | complete url stage =>
    obtain rfl := Option.some.inj isChange
    simp [Progress.changeableNames]
  | _ => cases isChange

/-- Marks are changes that every record takes. -/
theorem leads_of_mark? {operation : Upkeep} {change : Progress -> Moment -> Progress}
    (isMark : operation.mark? = some change) :
    ∃ changes, operation.changes? = some changes ∧ Progress.Leads changes change := by
  cases operation with
  | fail url details =>
    obtain rfl := Option.some.inj isMark
    exact ⟨_, rfl, Progress.leads_failed details⟩
  | complete url stage =>
    obtain rfl := Option.some.inj isMark
    exact ⟨_, rfl, Progress.leads_completed stage⟩
  | _ => cases isMark

/-- What makes changes is a change. -/
theorem perform_of_changes? {operation : Upkeep} {changes : List (String × Json)}
    (isChange : operation.changes? = some changes) (lifetime : Store.Lifetime) :
    operation.perform lifetime = Progress.update lifetime operation.url changes := by
  cases operation with
  | update | fail | complete =>
    obtain rfl := Option.some.inj isChange
    rfl
  | _ => cases isChange

section Worlds

variable {σ : Type} (surroundings : Surroundings σ) (seconds : Int)

/-- Carry out an operation in a world. -/
def carryOut (operation : Upkeep) (world : World σ) : Except Problem (Option Progress) × World σ :=
  World.run surroundings (operation.perform (.ofSeconds seconds)).run world

/-- The world after operations, one after another. -/
def worldAfter (operations : List Upkeep) (world : World σ) : World σ :=
  operations.foldl (fun world operation => (operation.carryOut surroundings seconds world).2) world

/-- The record that is made when one is created in a world. -/
def created (url : String) (world : World σ) : Option Progress :=
  (World.run surroundings (Progress.create (.ofSeconds seconds) url).run world).1.toOption

/-- The record that an operation makes anew: to create one, or because there is none to write a report into. -/
def made? (world : World σ) : Upkeep -> Option Progress
  | create url => created surroundings seconds url world
  | report url event =>
    match World.run surroundings (Progress.update (.ofSeconds seconds) url (Progress.reported event)).run world with
    | (.ok none, middle) => created surroundings seconds url middle
    | _ => none
  | _ => none

/-- What makes changes makes no record anew. -/
theorem made?_of_changes? {operation : Upkeep} {changes : List (String × Json)} (world : World σ)
    (isChange : operation.changes? = some changes) : operation.made? surroundings seconds world = none := by
  cases operation with
  | update | fail | complete => rfl
  | _ => cases isChange

/-- The records that operations make anew, the latest last. -/
def allMade : List Upkeep -> World σ -> List Progress
  | [], _ => []
  | operation :: operations, world => (operation.made? surroundings seconds world).toList ++
    allMade operations (operation.carryOut surroundings seconds world).2

end Worlds

/-- The record of a URL that was made last. -/
def latest (made : List Progress) (url : String) : Option Progress :=
  (made.filter fun record => record.repositoryUrl = url).getLast?

variable {made : List Progress} {birth : Progress} {url : String}

/-- The last record of a URL is of that URL. -/
theorem url_of_latest (isLatest : latest made url = some birth) : birth.repositoryUrl = url :=
  of_decide_eq_true (List.mem_filter.mp (List.mem_of_getLast? isLatest)).2

/-- A record made for a URL is the last one of it. -/
theorem latest_append_self (made : List Progress) (isUrl : birth.repositoryUrl = url) :
    latest (made ++ [birth]) url = some birth := by
  simp [latest, List.filter_append, isUrl]

/-- A record made for another URL is not. -/
theorem latest_append_of_ne (made : List Progress) (different : birth.repositoryUrl ≠ url) :
    latest (made ++ [birth]) url = latest made url := by
  simp [latest, List.filter_append, different]

end Upkeep

/-! ## Records made and changed -/

namespace Progress

variable {birth record updated : Progress} {now later : Moment}

/-- Whether a record is one that was made, changed at whatever times up to a moment. -/
structure Descends (birth record : Progress) (now : Moment) : Prop where
  id : record.id = birth.id
  url : record.repositoryUrl = birth.repositoryUrl
  createdAt : record.createdAt = birth.createdAt
  times : ∃ made changed : Moment, record.createdAt = .ofMoment made ∧ record.updatedAt = .ofMoment changed ∧
    made.microseconds ≤ changed.microseconds ∧ changed.microseconds ≤ now.microseconds
  regular : record.Regular

/-- A record is what it was when time has passed. -/
theorem Descends.mono (descends : birth.Descends record now) (le : now.microseconds ≤ later.microseconds) :
    birth.Descends record later := by
  obtain ⟨made, changed, isMade, isChanged, ordered, past⟩ := descends.times
  exact { descends with times := ⟨made, changed, isMade, isChanged, ordered, past.trans le⟩ }

/-- A fresh record is one that was made. -/
theorem descends_fresh (id url : String) (inCalendar : now.InCalendar) (le : now.microseconds ≤ later.microseconds) :
    (fresh id url now).Descends (fresh id url now) later where
  id := rfl
  url := rfl
  createdAt := rfl
  times := ⟨now, now, rfl, rfl, le_rfl, le⟩
  regular := regular_fresh id url inCalendar

/-- A record that was changed later on is still the one that was made. -/
theorem Descends.follows {moment : Moment} (descends : birth.Descends record now)
    (follows : record.Follows updated moment) (begun : now.microseconds ≤ moment.microseconds)
    (ended : moment.microseconds ≤ later.microseconds) : birth.Descends updated later := by
  obtain ⟨made, changed, isMade, -, ordered, past⟩ := descends.times
  exact {
    id := follows.id.trans descends.id
    url := follows.url.trans descends.url
    createdAt := follows.createdAt.trans descends.createdAt
    times := ⟨made, moment, follows.createdAt.trans isMade, follows.updatedAt, by omega, ended⟩
    regular := follows.regular }

end Progress

section Worlds

variable {σ : Type} {surroundings : Surroundings σ} {seconds : Int} {world middle after : World σ} {url other : String}
  {standing : Option Standing} {made : List Progress} {operation : Upkeep} {event : Event}
  {changes : List (String × Json)} {live : Option Progress} {outcome : Except Problem (Option Progress) × World σ}

/-- Whether what stands for a URL is the record made last for it, changed or not. -/
structure Standing.Descends (made : List Progress) (world : World σ) (url : String) (standing : Option Standing) :
    Prop where
  holds : world.Upholds url standing
  descends : ∀ kept ∈ standing, ∃ birth, Upkeep.latest made url = some birth ∧ birth.Descends kept.record world.clock

namespace Standing.Descends

/-- What stands is regular. -/
theorem regular (descends : Standing.Descends made world url standing) : ∀ kept ∈ standing, kept.record.Regular := by
  intro kept member
  obtain ⟨birth, -, descends⟩ := descends.descends kept member
  exact descends.regular

/-- What is found is regular. -/
theorem regular_at? {moment : Moment} (descends : Standing.Descends made world url standing) :
    ∀ record ∈ Standing.at? standing moment, record.Regular := by
  intro record isFound
  obtain ⟨kept, member, rfl, -⟩ := Standing.of_at? isFound
  exact descends.regular kept member

/-- What stands for a URL is of that URL. -/
theorem isUrl (descends : Standing.Descends made world url standing) :
    ∀ kept ∈ standing, kept.record.repositoryUrl = url := by
  intro kept member
  obtain ⟨birth, isLatest, descends⟩ := descends.descends kept member
  exact descends.url.trans (Upkeep.url_of_latest isLatest)

/-- A fresh record that stands is the one made last. -/
theorem fresh (made : List Progress) {id : String} {now : Moment} {last : Int}
    (holds : world.Upholds url (some ⟨Progress.fresh id url now, last⟩)) (inCalendar : now.InCalendar)
    (le : now.microseconds ≤ world.clock.microseconds) :
    Standing.Descends (made ++ [Progress.fresh id url now]) world url (some ⟨Progress.fresh id url now, last⟩) where
  holds := holds
  descends := by
    rintro _ ⟨⟩
    exact ⟨_, Upkeep.latest_append_self made rfl, Progress.descends_fresh id url inCalendar le⟩

/-- What stands is the record made last when none was made since, or only one for another URL. -/
theorem append {birth : Option Progress} (descends : Standing.Descends made world url standing)
    (different : ∀ record ∈ birth, record.repositoryUrl ≠ url) :
    Standing.Descends (made ++ birth.toList) world url standing where
  holds := descends.holds
  descends := by
    cases birth with
    | none => simpa using descends.descends
    | some birth =>
      simp only [Option.toList_some, Upkeep.latest_append_of_ne made (different birth rfl)]
      exact descends.descends

/-- What stands for a URL that is left alone goes on to stand for it. -/
theorem leaves {isLeft : String -> Prop} (descends : Standing.Descends made world url standing)
    (leaves : World.Leaves isLeft world after) (left : isLeft url) : Standing.Descends made after url standing where
  holds := leaves.upholds left descends.holds
  descends kept member := by
    obtain ⟨birth, isLatest, descends⟩ := descends.descends kept member
    exact ⟨birth, isLatest, descends.mono leaves.clock⟩

end Standing.Descends

/-- What stands after something was done that writes the records it gives back. -/
structure Upkeep.Renews (seconds : Int) (made : List Progress) (world : World σ) (url : String)
    (outcome : Except Problem (Option Progress) × World σ) : Prop where
  /-- No other URL is touched. -/
  others : World.Leaves (· ≠ url) world outcome.2
  /-- What stands for the URL is the record made last for it, changed or not. -/
  stands : ∃ standing, Standing.Descends made outcome.2 url standing
  /-- A record that comes back stands for its whole lifetime. -/
  renewed : ∀ record, outcome.1 = .ok (some record) -> Standing.Descends made outcome.2 url
    (some ⟨record, outcome.2.clock.microseconds + seconds * Moment.perSecond⟩)

/-- It is the same when no record was made. -/
theorem Upkeep.Renews.append_none (renews : Upkeep.Renews seconds made world url outcome) :
    Upkeep.Renews seconds (made ++ (none : Option Progress).toList) world url outcome := by
  rwa [Option.toList_none, List.append_nil]

/-! ## Changes -/

/-- What comes of changes to a record, given the one that is found. -/
structure Upkeep.Changes (changes : List (String × Json)) (world : World σ) (live : Option Progress)
    (outcome : Except Problem (Option Progress) × World σ) : Prop where
  /-- Where none is found, none comes back and nothing changes. -/
  misses : live = none -> outcome.1 = .ok none ∧ World.Leaves (fun _ => True) world outcome.2
  /-- One that is found is changed, or the changes are rejected. -/
  comes : live.isSome = true ->
    (∃ updated, outcome.1 = .ok (some updated)) ∨ ∃ report, outcome.1 = .error (.record report)
  /-- Nothing changes when changes are rejected. -/
  fails : ∀ problem, outcome.1 = .error problem -> World.Leaves (fun _ => True) world outcome.2
  /-- The progress is the one that is asked for, -/
  asked : ∀ value, Json.lookup "progress" changes.reverse = some (.int value) ->
    ∀ updated, outcome.1 = .ok (some updated) -> updated.progress = value
  /-- and it is rejected out of range. -/
  rejects : ∀ value, Json.lookup "progress" changes.reverse = some (.int value) -> ¬(0 ≤ value ∧ value ≤ 100) ->
    live.isSome = true -> ∃ report, outcome.1 = .error (.record report)

/-- Changes fail only when they are rejected. -/
theorem Upkeep.Changes.report_of_error {problem : Problem} (comesTo : Upkeep.Changes changes world live outcome)
    (failed : outcome.1 = .error problem) : ∃ report, problem = .record report := by
  have found : live.isSome = true := by
    refine Option.ne_none_iff_isSome.mp fun missed => ?_
    nomatch failed.symm.trans (comesTo.misses missed).1
  rcases comesTo.comes found with ⟨updated, isDone⟩ | ⟨report, rejected⟩
  · nomatch failed.symm.trans isDone
  · exact ⟨report, Except.error.inj (failed.symm.trans rejected)⟩

namespace Progress.Updates

/-- A record that is written is the one that stood before, changed. -/
theorem renews (updates : Updates seconds url changes world (Standing.at? standing (world.next surroundings)) outcome)
    (before : Standing.Descends made world url standing)
    (named : ∀ change ∈ changes, change.1 ∈ Progress.changeableNames) :
    Upkeep.Renews seconds made world url outcome := by
  generalize isLive : Standing.at? standing (world.next surroundings) = live at updates
  cases updates with
  | missed leaves =>
    exact ⟨leaves.mono fun _ _ => trivial, ⟨standing, before.leaves leaves trivial⟩, fun _ same => nomatch same⟩
  | rejected _ _ leaves =>
    exact ⟨leaves.mono fun _ _ => trivial, ⟨standing, before.leaves leaves trivial⟩, fun _ same => nomatch same⟩
  | @written record updated now after begun ended inCalendar changed holds leaves =>
    obtain ⟨kept, member, rfl, -⟩ := Standing.of_at? isLive
    obtain ⟨birth, isLatest, descends⟩ := before.descends kept member
    obtain ⟨follows, -⟩ := Progress.follows_of_changed named descends.regular inCalendar changed
    have stands : Standing.Descends made after url
        (some ⟨updated, after.clock.microseconds + seconds * Moment.perSecond⟩) := by
      refine ⟨holds, ?_⟩
      rintro _ ⟨⟩
      exact ⟨birth, isLatest, descends.follows follows begun ended⟩
    refine ⟨leaves, ⟨_, stands⟩, ?_⟩
    rintro _ ⟨⟩
    exact stands

/-- Changes that every regular record takes are made. -/
theorem leads {record : Progress} {change : Progress -> Moment -> Progress}
    (updates : Updates seconds url changes world (some record) outcome) (leads : Leads changes change)
    (regular : record.Regular) : ∃ now, outcome.1 = .ok (some (change record now)) := by
  cases updates with
  | rejected inCalendar rejected left =>
    nomatch rejected.symm.trans (leads.changed record _ regular inCalendar)
  | written begun ended inCalendar changed holds left =>
    obtain rfl := Except.ok.inj (changed.symm.trans (leads.changed record _ regular inCalendar))
    exact ⟨_, rfl⟩

/-- Changes come to what they may. -/
theorem comes (updates : Updates seconds url changes world live outcome)
    (regular : ∀ record ∈ live, record.Regular)
    (named : ∀ change ∈ changes, change.1 ∈ Progress.changeableNames) : Upkeep.Changes changes world live outcome := by
  cases updates with
  | missed leaves =>
    exact {
      misses := fun _ => ⟨rfl, leaves⟩
      comes := nofun
      fails := fun _ failed => nomatch failed
      asked := fun _ _ _ isUpdated => nomatch isUpdated
      rejects := fun _ _ _ found => nomatch found }
  | rejected _ _ leaves =>
    exact {
      misses := nofun
      comes := fun _ => .inr ⟨_, rfl⟩
      fails := fun _ _ => leaves
      asked := fun _ _ _ isUpdated => nomatch isUpdated
      rejects := fun _ _ _ _ => ⟨_, rfl⟩ }
  | written begun ended inCalendar changed holds leaves =>
    obtain ⟨follows, isAsked⟩ := Progress.follows_of_changed named (regular _ rfl) inCalendar changed
    exact {
      misses := nofun
      comes := fun _ => .inl ⟨_, rfl⟩
      fails := fun _ failed => nomatch failed
      asked := by
        rintro value asked _ ⟨⟩
        exact isAsked value asked
      rejects := fun value asked outOfRange _ =>
        absurd (isAsked value asked ▸ ⟨follows.regular.low, follows.regular.high⟩) outOfRange }

end Progress.Updates

/-! ## Reports -/

/-- Whether a record shows what a report says. -/
structure Progress.Retells (event : Event) (record : Progress) : Prop where
  stage : record.stage = event.stage
  details : record.details = event.details
  progress : record.progress = event.progress
  status : record.status = if event.progress = 100 then .completed else .analyzing

/-- What comes of a report, given the record that is found and the one that is made, if none is found. -/
structure Upkeep.Reports (seconds : Int) (url : String) (event : Event) (world : World σ) (live birth : Option Progress)
    (outcome : Except Problem (Option Progress) × World σ) : Prop where
  /-- A record is made if and only if none is found, -/
  makes : birth.isSome = live.isNone
  /-- and it is a fresh one. -/
  fresh : ∀ record, birth = some record -> ∃ id now, record = Progress.fresh id url now
  /-- The record shows what is reported, and is completed at one hundred. -/
  retells : ∀ record, outcome.1 = .ok (some record) -> record.Retells event
  /-- Within range a record comes back, unless one that was just made is over before it is found. -/
  comes : 0 ≤ event.progress ∧ event.progress ≤ 100 -> (∃ record, outcome.1 = .ok (some record)) ∨
    outcome.1 = .ok none ∧ live = none ∧
      world.clock.microseconds + seconds * Moment.perSecond < outcome.2.clock.microseconds
  /-- A report that is rejected leaves the record that was found, or else the one that was made. -/
  fails : ∀ problem, outcome.1 = .error problem -> (∃ report, problem = .record report) ∧
    (live.isSome = true -> World.Leaves (fun _ => True) world outcome.2) ∧
    ∀ record, birth = some record -> ∃ last, outcome.2.Upholds url (some ⟨record, last⟩)

/-- A record that comes back from a change to what is reported says so. -/
theorem Progress.Updates.retells (updates : Updates seconds url (Progress.reported event) world live outcome)
    (regular : ∀ record ∈ live, record.Regular) :
    ∀ record, outcome.1 = .ok (some record) -> record.Retells event := by
  cases updates with
  | missed leaves => exact fun _ isRecord => nomatch isRecord
  | rejected inCalendar rejected leaves => exact fun _ isRecord => nomatch isRecord
  | written begun ended inCalendar changed holds leaves =>
    obtain ⟨inRange, rfl⟩ := Progress.changed_reported (regular _ rfl) inCalendar changed
    rintro _ ⟨⟩
    have same : 100 ≤ event.progress ↔ event.progress = 100 := by omega
    exact ⟨rfl, rfl, rfl, by simp only [Progress.after, same]⟩

/-- What is reported is written into a record that is found when it is within range. -/
theorem Progress.Updates.reported {record : Progress}
    (updates : Updates seconds url (Progress.reported event) world (some record) outcome)
    (inRange : 0 ≤ event.progress ∧ event.progress ≤ 100) (regular : record.Regular) :
    ∃ updated, outcome.1 = .ok (some updated) := by
  obtain ⟨now, isUpdated⟩ := updates.leads (Progress.leads_reported inRange) regular
  exact ⟨_, isUpdated⟩

/-- A report on a record that is found comes to what it may. -/
theorem Progress.Updates.reports {record : Progress}
    (updates : Updates seconds url (Progress.reported event) world (some record) outcome) (regular : record.Regular) :
    Upkeep.Reports seconds url event world (some record) none outcome := by
  have allRegular : ∀ found ∈ some record, found.Regular := by
    rintro _ ⟨⟩
    exact regular
  have changes := updates.comes allRegular (Progress.named_reported event)
  exact {
    makes := rfl
    fresh := fun _ same => nomatch same
    retells := updates.retells allRegular
    comes := fun inRange => .inl (updates.reported inRange regular)
    fails := fun problem failed =>
      ⟨changes.report_of_error failed, fun _ => changes.fails problem failed, fun _ same => nomatch same⟩ }

/-- A report is a change and, where that finds no record, a fresh record and another change. -/
theorem Upkeep.carryOut_report : (report url event).carryOut surroundings seconds world =
    match World.run surroundings (Progress.update (.ofSeconds seconds) url (Progress.reported event)).run world with
    | (.ok (some record), middle) => (.ok (some record), middle)
    | (.ok none, middle) => World.run surroundings (do
        let _ <- Progress.create (.ofSeconds seconds) url
        Progress.update (.ofSeconds seconds) url (Progress.reported event) : Attempt (Option Progress)).run middle
    | (.error problem, middle) => (.error problem, middle) := by
  unfold carryOut perform Progress.note
  rw [World.run_then]
  rcases World.run surroundings (Progress.update (.ofSeconds seconds) url (Progress.reported event)).run world with
    ⟨problem | record | record, middle⟩ <;> rfl

/-- A report makes a record where the first change finds none. -/
theorem Upkeep.made?_report : (report url event).made? surroundings seconds world =
    match World.run surroundings (Progress.update (.ofSeconds seconds) url (Progress.reported event)).run world with
    | (.ok none, middle) => created surroundings seconds url middle
    | _ => none := rfl

/-- The world after operations is that after the rest of them in the world after the first. -/
theorem Upkeep.worldAfter_cons (operations : List Upkeep) :
    worldAfter surroundings seconds (operation :: operations) world =
      worldAfter surroundings seconds operations (operation.carryOut surroundings seconds world).2 := rfl

/-- The clock never goes back in operations. -/
theorem Upkeep.clock_le_worldAfter (surroundings : Surroundings σ) (seconds : Int) (operations : List Upkeep)
    (world : World σ) :
    world.clock.microseconds ≤ (worldAfter surroundings seconds operations world).clock.microseconds := by
  induction operations generalizing world with
  | nil => exact le_rfl
  | cons operation operations inductionHypothesis =>
    rw [worldAfter_cons]
    exact (World.clock_le_run surroundings _ world).trans (inductionHypothesis _)

/-- A record that is created is of the URL that it is created for. -/
theorem Upkeep.url_of_created {birth : Progress} (isCreated : created surroundings seconds url world = some birth) :
    birth.repositoryUrl = url := by
  have created := ok_of_toOption isCreated
  unfold Progress.create at created
  rw [World.run_then, run_freshId] at created
  dsimp only at created
  rw [World.run_then, run_present] at created
  dsimp only at created
  rw [World.run_then] at created
  split at created
  · obtain rfl := Except.ok.inj created
    rfl
  · nomatch created

/-- A record that an operation makes is of the URL that the operation is about. -/
theorem Upkeep.url_of_made? {birth : Progress} (isMade : operation.made? surroundings seconds world = some birth) :
    birth.repositoryUrl = operation.url := by
  cases operation with
  | create url => exact url_of_created isMade
  | report url event =>
    rw [made?_report] at isMade
    split at isMade
    · exact url_of_created isMade
    · cases isMade
  | _ => cases isMade

section Serving

variable (serves : surroundings.RefusesNothing)

include serves

/-- Where a report finds no record, one is made and changed. -/
theorem Upkeep.reports_of_missed (leaves : World.Leaves (fun _ => True) world middle)
    (isOutcome : World.run surroundings (do
      let _ <- Progress.create (.ofSeconds seconds) url
      Progress.update (.ofSeconds seconds) url (Progress.reported event) : Attempt (Option Progress)).run middle =
        outcome) (inCalendar : CalendarHolds world.clock outcome.2.clock) :
    Reports seconds url event world none (created surroundings seconds url middle) outcome ∧
      Renews seconds (made ++ (created surroundings seconds url middle).toList) world url outcome := by
  obtain ⟨id, now, after, ran, ⟨begun, ended, isDate⟩, left, stands⟩ := run_create serves seconds middle url
    (inCalendar.mono leaves.clock (isOutcome ▸ World.clock_le_run_then _ _))
  have isBirth : created surroundings seconds url middle = some (Progress.fresh id url now) := by
    unfold created
    rw [ran]
    rfl
  rw [World.run_then, ran] at isOutcome
  dsimp only at isOutcome
  have descends := Standing.Descends.fresh made stands isDate ended
  have started := leaves.clock.trans left.clock
  have updates := run_update serves seconds stands descends.regular descends.isUrl
    (Progress.named_reported event)
    (inCalendar.mono started (by rw [isOutcome]))
  have moved : (after.next surroundings).microseconds ≤ outcome.2.clock.microseconds :=
    isOutcome ▸ World.next_le_run rfl
  rw [isOutcome] at updates
  have renews := updates.renews descends (Progress.named_reported event)
  have retells := updates.retells descends.regular_at?
  have changes := updates.comes descends.regular_at? (Progress.named_reported event)
  rw [isBirth]
  refine ⟨⟨rfl, fun record same => ⟨id, now, (Option.some.inj same).symm⟩, retells, fun inRange => ?_,
    fun problem failed => ?_⟩,
    ((leaves.mono fun _ _ => trivial).trans left).trans renews.others, renews.stands, renews.renewed⟩
  · cases isFound : Standing.at? (some ⟨Progress.fresh id url now,
      after.clock.microseconds + seconds * Moment.perSecond⟩) (after.next surroundings) with
    | some record =>
      have regular := descends.regular_at? record isFound
      rw [isFound] at updates
      exact .inl (updates.reported inRange regular)
    | none =>
      have past : ¬(after.next surroundings).microseconds ≤
          after.clock.microseconds + seconds * Moment.perSecond := by
        simpa [Standing.at?] using isFound
      exact .inr ⟨(changes.misses isFound).1, rfl, by omega⟩
  · refine ⟨changes.report_of_error failed, fun isFound => absurd isFound Bool.false_ne_true, ?_⟩
    rintro _ ⟨⟩
    exact ⟨_, (changes.fails problem failed).upholds trivial stands⟩

/-- A report comes to what it may, and what stands afterwards is the record made last. -/
theorem Upkeep.reports (before : Standing.Descends made world url standing)
    (inCalendar : CalendarHolds world.clock ((report url event).carryOut surroundings seconds world).2.clock) :
    let outcome := (report url event).carryOut surroundings seconds world
    let birth := (report url event).made? surroundings seconds world
    Reports seconds url event world (Standing.at? standing (world.next surroundings)) birth outcome ∧
      Renews seconds (made ++ birth.toList) world url outcome := by
  intro outcome birth
  have updates := run_update serves seconds before.holds before.regular before.isUrl
    (Progress.named_reported event) (inCalendar.mono le_rfl (World.clock_le_run_then _ _))
  have renews := updates.renews before (Progress.named_reported event)
  have isOutcome : outcome = _ := carryOut_report
  have isBirth : birth = _ := made?_report
  have inCalendar : CalendarHolds world.clock outcome.2.clock := inCalendar
  clear_value outcome birth
  generalize World.run surroundings
    (Progress.update (.ofSeconds seconds) url (Progress.reported event)).run world = first
      at updates renews isOutcome isBirth
  cases isLive : Standing.at? standing (world.next surroundings) with
  | some record =>
    obtain ⟨kept, member, rfl, -⟩ := Standing.of_at? isLive
    rw [isLive] at updates
    have same : outcome = first ∧ birth = none := by
      cases updates <;> exact ⟨isOutcome, isBirth⟩
    obtain ⟨rfl, rfl⟩ := same
    exact ⟨updates.reports (before.regular kept member), renews.append_none⟩
  | none =>
    rw [isLive] at updates
    obtain ⟨leaves⟩ := updates
    obtain rfl := isBirth
    exact reports_of_missed serves leaves isOutcome.symm inCalendar

end Serving

/-! ## All operations -/

/-- What comes of an operation, given the records made so far and the one that is found for its URL. -/
structure Upkeep.Accounts (surroundings : Surroundings σ) (seconds : Int) (made : List Progress) (world : World σ)
    (operation : Upkeep) (live : Option Progress) (outcome : Except Problem (Option Progress) × World σ) : Prop where
  /-- No other URL is touched. -/
  others : World.Leaves (· ≠ operation.url) world outcome.2
  /-- What stands for the URL is the record made last for it, changed or not. -/
  stands : ∃ standing,
    Standing.Descends (made ++ (operation.made? surroundings seconds world).toList) outcome.2 operation.url standing
  /-- A record that was written stands for its whole lifetime. -/
  renewed : operation.writes = true -> ∀ record, outcome.1 = .ok (some record) ->
    Standing.Descends (made ++ (operation.made? surroundings seconds world).toList) outcome.2 operation.url
      (some ⟨record, outcome.2.clock.microseconds + seconds * Moment.perSecond⟩)
  creates : ∀ url, operation = .create url -> ∃ id now, outcome.1 = .ok (some (Progress.fresh id url now)) ∧
    operation.made? surroundings seconds world = some (Progress.fresh id url now)
  gets : ∀ url, operation = .get url -> outcome.1 = .ok live ∧ World.Leaves (fun _ => True) world outcome.2
  changes : ∀ changes, operation.changes? = some changes -> Changes changes world live outcome
  marks : ∀ change, operation.mark? = some change -> ∀ record, live = some record ->
    ∃ now, outcome.1 = .ok (some (change record now))
  reports : ∀ url event, operation = .report url event ->
    Reports seconds url event world live (operation.made? surroundings seconds world) outcome
  deletes : ∀ url, operation = .delete url -> outcome.1 = .ok none ∧ outcome.2.Upholds url none

namespace Upkeep

section Serving

variable (serves : surroundings.RefusesNothing)

include serves

/-- A creation makes a record, which stands from then on. -/
theorem accounts_create
    (inCalendar : CalendarHolds world.clock ((create url).carryOut surroundings seconds world).2.clock) :
    (create url).Accounts surroundings seconds made world live ((create url).carryOut surroundings seconds world) := by
  obtain ⟨id, now, after, ran, ⟨begun, ended, isDate⟩, leaves, stands⟩ := run_create serves seconds world url
    (inCalendar.mono le_rfl (World.clock_le_run_then _ _))
  have isOutcome : (create url).carryOut surroundings seconds world =
      (.ok (some (Progress.fresh id url now)), after) := by
    refine (World.run_then _ _).trans ?_
    rw [ran]
    rfl
  have isBirth : (create url).made? surroundings seconds world = some (Progress.fresh id url now) := by
    rw [made?, created, ran]
    rfl
  have descends := Standing.Descends.fresh made stands isDate ended
  rw [isOutcome]
  exact {
    others := leaves
    stands := by
      rw [isBirth]
      exact ⟨_, descends⟩
    renewed := by
      rw [isBirth]
      rintro - _ ⟨⟩
      exact descends
    creates := by
      rintro _ ⟨⟩
      exact ⟨id, now, rfl, isBirth⟩
    gets := fun _ same => nomatch same
    changes := fun _ same => nomatch same
    marks := fun _ same => nomatch same
    reports := fun _ _ same => nomatch same
    deletes := fun _ same => nomatch same }

/-- A look finds the record that is found. -/
theorem accounts_get (before : Standing.Descends made world url standing) :
    (get url).Accounts surroundings seconds made world (Standing.at? standing (world.next surroundings))
      ((get url).carryOut surroundings seconds world) := by
  obtain ⟨after, ran, leaves⟩ := run_get serves before.holds before.regular
  have isOutcome : (get url).carryOut surroundings seconds world = _ := ran
  rw [isOutcome]
  exact {
    others := leaves.mono fun _ _ => trivial
    stands := ⟨standing, (before.leaves leaves trivial).append fun _ isBirth => nomatch isBirth⟩
    renewed := fun writes => nomatch writes
    creates := fun _ same => nomatch same
    gets := fun _ _ => ⟨rfl, leaves⟩
    changes := fun _ same => nomatch same
    marks := fun _ same => nomatch same
    reports := fun _ _ same => nomatch same
    deletes := fun _ same => nomatch same }

/-- A report comes to what it may. -/
theorem accounts_report (before : Standing.Descends made world url standing)
    (inCalendar : CalendarHolds world.clock ((report url event).carryOut surroundings seconds world).2.clock) :
    (report url event).Accounts surroundings seconds made world (Standing.at? standing (world.next surroundings))
      ((report url event).carryOut surroundings seconds world) := by
  obtain ⟨reports, renews⟩ := Upkeep.reports serves before inCalendar
  exact {
    others := renews.others
    stands := renews.stands
    renewed := fun _ => renews.renewed
    creates := fun _ same => nomatch same
    gets := fun _ same => nomatch same
    changes := fun _ same => nomatch same
    marks := fun _ same => nomatch same
    reports := by
      rintro _ _ ⟨⟩
      exact reports
    deletes := fun _ same => nomatch same }

/-- A change comes to what it may. -/
theorem accounts_change (isChange : operation.changes? = some changes)
    (before : Standing.Descends made world operation.url standing)
    (inCalendar : CalendarHolds world.clock (operation.carryOut surroundings seconds world).2.clock) :
    operation.Accounts surroundings seconds made world (Standing.at? standing (world.next surroundings))
      (operation.carryOut surroundings seconds world) := by
  have named := named_of_changes? isChange
  have isOutcome : operation.carryOut surroundings seconds world =
      World.run surroundings (Progress.update (.ofSeconds seconds) operation.url changes).run world := by
    rw [carryOut, perform_of_changes? isChange]
  rw [isOutcome] at inCalendar ⊢
  have updates := run_update serves seconds before.holds before.regular before.isUrl named inCalendar
  have renews := (updates.renews before named).append_none
  have unmade := made?_of_changes? surroundings seconds world isChange
  exact {
    others := renews.others
    stands := by
      rw [unmade]
      exact renews.stands
    renewed := by
      rw [unmade]
      exact fun _ => renews.renewed
    creates := by
      rintro _ rfl
      nomatch isChange
    gets := by
      rintro _ rfl
      nomatch isChange
    changes := by
      intro other isOther
      obtain rfl := Option.some.inj (isChange.symm.trans isOther)
      exact updates.comes before.regular_at? named
    marks := by
      intro change isMark record found
      obtain ⟨other, isOther, leads⟩ := leads_of_mark? isMark
      obtain rfl := Option.some.inj (isChange.symm.trans isOther)
      rw [found] at updates
      exact updates.leads leads (before.regular_at? record found)
    reports := by
      rintro _ _ rfl
      nomatch isChange
    deletes := by
      rintro _ rfl
      nomatch isChange }

/-- Nothing stands for a URL after a deletion. -/
theorem accounts_delete : (delete url).Accounts surroundings seconds made world live
    ((delete url).carryOut surroundings seconds world) := by
  obtain ⟨after, ran, leaves, shown⟩ := run_deleteCache serves world url
  have isOutcome : (delete url).carryOut surroundings seconds world = (.ok none, after) := by
    refine (World.run_then _ _).trans ?_
    rw [Progress.delete, ran]
    rfl
  rw [isOutcome]
  have holds : after.Upholds url none := fun moment _ => shown moment
  exact {
    others := leaves
    stands := ⟨none, holds, fun _ kept => nomatch kept⟩
    renewed := fun writes => nomatch writes
    creates := fun _ same => nomatch same
    gets := fun _ same => nomatch same
    changes := fun _ same => nomatch same
    marks := fun _ same => nomatch same
    reports := fun _ _ same => nomatch same
    deletes := by
      rintro _ ⟨⟩
      exact ⟨rfl, holds⟩ }

/-- Every operation comes to what it may. -/
theorem accounts (operation : Upkeep) (before : Standing.Descends made world operation.url standing)
    (inCalendar : CalendarHolds world.clock (operation.carryOut surroundings seconds world).2.clock) :
    operation.Accounts surroundings seconds made world (Standing.at? standing (world.next surroundings))
      (operation.carryOut surroundings seconds world) := by
  cases operation with
  | create url => exact accounts_create serves inCalendar
  | get url => exact accounts_get serves before
  | report url event => exact accounts_report serves before inCalendar
  | update | fail | complete => exact accounts_change serves rfl before inCalendar
  | delete url => exact accounts_delete serves

/-- What stands for any URL after an operation is the record made last for it. -/
theorem stands_carryOut (operation : Upkeep) (before : ∀ url, ∃ standing, Standing.Descends made world url standing)
    (inCalendar : CalendarHolds world.clock (operation.carryOut surroundings seconds world).2.clock) (url : String) :
    ∃ standing, Standing.Descends (made ++ (operation.made? surroundings seconds world).toList)
      (operation.carryOut surroundings seconds world).2 url standing := by
  obtain ⟨own, descends⟩ := before operation.url
  have accounts := operation.accounts serves descends inCalendar
  by_cases same : url = operation.url
  · subst same
    exact accounts.stands
  · obtain ⟨standing, descends⟩ := before url
    refine ⟨standing, (descends.leaves accounts.others same).append fun birth isBirth sameUrl => same ?_⟩
    exact sameUrl.symm.trans (url_of_made? isBirth)

/-- What stands for any URL after operations is the record made last for it. -/
theorem stands_worldAfter (made : List Progress) (operations : List Upkeep)
    (before : ∀ url, ∃ standing, Standing.Descends made world url standing)
    (inCalendar : CalendarHolds world.clock (worldAfter surroundings seconds operations world).clock) (url : String) :
    ∃ standing, Standing.Descends (made ++ allMade surroundings seconds operations world)
      (worldAfter surroundings seconds operations world) url standing := by
  induction operations generalizing made world with
  | nil => simpa [worldAfter, allMade] using before url
  | cons operation operations inductionHypothesis =>
    rw [worldAfter_cons] at inCalendar ⊢
    rw [allMade, ← List.append_assoc]
    have begun := World.clock_le_run surroundings (operation.perform (.ofSeconds seconds)).run world
    have ended := clock_le_worldAfter surroundings seconds operations
      (operation.carryOut surroundings seconds world).2
    exact inductionHypothesis _ (stands_carryOut serves operation before (inCalendar.mono le_rfl ended))
      (inCalendar.mono begun le_rfl)

end Serving

end Upkeep

/-- A record that comes back from an operation is the one made last for its URL, changed or not. -/
theorem Upkeep.Accounts.descends (before : Standing.Descends made world operation.url standing)
    (accounts : operation.Accounts surroundings seconds made world
      (Standing.at? standing (world.next surroundings)) outcome) {record : Progress}
    (isRecord : outcome.1 = .ok (some record)) :
    ∃ birth, Upkeep.latest (made ++ (operation.made? surroundings seconds world).toList) operation.url = some birth ∧
      birth.Descends record outcome.2.clock := by
  cases writes : operation.writes with
  | true => exact (accounts.renewed writes record isRecord).descends _ rfl
  | false =>
    cases operation with
    | get url =>
      have isFound := Except.ok.inj ((accounts.gets url rfl).1.symm.trans isRecord)
      obtain ⟨kept, member, rfl, -⟩ := Standing.of_at? isFound
      obtain ⟨birth, isLatest, descends⟩ := before.descends kept member
      refine ⟨birth, ?_, descends.mono accounts.others.clock⟩
      exact (congrArg (latest · _) (List.append_nil made)).trans isLatest
    | delete url => nomatch (accounts.deletes url rfl).1.symm.trans isRecord
    | _ => cases writes

/-- **Upkeep of progress records.** From a cache that holds none, let operations of any number be carried out while
no call is refused and the clock shows dates of the calendar. Whatever stands for a URL then is the record that was
made last for it, changed or not: it has its identifier and its first time, its last change is not before that time,
and its progress is within range. The same holds of what comes back from any further operation, which touches no
other URL; the record that it writes stands for the whole lifetime; changes and marks change nothing where no record is
found or where they are rejected, as they are for a progress out of range; and a record that a report was written into
says what was reported, and is completed at exactly one hundred. -/
theorem upkeep_account (serves : surroundings.RefusesNothing) (nothing : ∀ url, world.Upholds url none)
    (operations : List Upkeep) (operation : Upkeep) (inCalendar : CalendarHolds world.clock
      (operation.carryOut surroundings seconds (Upkeep.worldAfter surroundings seconds operations world)).2.clock) :
    let made := Upkeep.allMade surroundings seconds operations world
    let before := Upkeep.worldAfter surroundings seconds operations world
    let outcome := operation.carryOut surroundings seconds before
    ∃ standing, Standing.Descends made before operation.url standing ∧
      operation.Accounts surroundings seconds made before (Standing.at? standing (before.next surroundings)) outcome ∧
      ∀ record, outcome.1 = .ok (some record) -> ∃ birth,
        Upkeep.latest (made ++ (operation.made? surroundings seconds before).toList) operation.url = some birth ∧
          birth.Descends record outcome.2.clock := by
  intro made before outcome
  have begun := Upkeep.clock_le_worldAfter surroundings seconds operations world
  have ended := World.clock_le_run surroundings (operation.perform (.ofSeconds seconds)).run before
  obtain ⟨standing, descends⟩ := Upkeep.stands_worldAfter serves [] operations
    (fun url => ⟨none, nothing url, fun _ kept => nomatch kept⟩) (inCalendar.mono le_rfl ended) operation.url
  have accounts := operation.accounts serves descends (inCalendar.mono begun le_rfl)
  exact ⟨standing, descends, accounts, fun record isRecord => accounts.descends descends isRecord⟩

end Worlds

/-- Surroundings that refuse nothing, in which a second passes before every call. -/
def Surroundings.ticking : Surroundings (List String) :=
  { Surroundings.reciting fun _ => none with elapsed := fun replies => (1000000, replies) }

/-- The first day of 1970 has a date of the calendar. -/
theorem calendarHolds_of_day {last : Moment} (early : last.microseconds < Moment.perDay) : CalendarHolds ⟨0⟩ last := by
  intro moment begun ended
  have isFirst : moment.microseconds / Moment.perDay = 0 := Int.ediv_eq_zero_of_lt begun (ended.trans_lt early)
  unfold Moment.InCalendar Moment.date
  rw [isFirst]
  decide

/-- A record is created and changed, and a report on another URL makes one for that. -/
def briefUpkeep : List Upkeep :=
  [.create "https://host/a", .update "https://host/a" [("progress", .int 40)] (by decide),
    .report "https://host/b" ⟨"Overview", 30, none⟩]

/-- The world after this, where records are kept for five seconds. -/
def briefWorld : World (List String) := Upkeep.worldAfter .ticking 5 briefUpkeep (.untouched [])

/-- A report that comes when the first record is over. -/
def lateReport : Upkeep := .report "https://host/a" ⟨"Completed", 100, none⟩

/-- The late report makes a new record, which is completed. -/
theorem upkeep_account_late : Surroundings.ticking.RefusesNothing ∧
    (∀ url, (World.untouched []).Upholds url none) ∧
    CalendarHolds ⟨0⟩ (lateReport.carryOut .ticking 5 briefWorld).2.clock ∧
    ((lateReport.carryOut .ticking 5 briefWorld).1.toOption.join.map fun record =>
      (record.id, record.progress, record.status)) = some ("progress-000000000002", 100, .completed) ∧
    ∃ standing, Standing.Descends (Upkeep.allMade .ticking 5 briefUpkeep (.untouched [])) briefWorld lateReport.url
        standing ∧
      lateReport.Accounts .ticking 5 (Upkeep.allMade .ticking 5 briefUpkeep (.untouched [])) briefWorld
        (Standing.at? standing (briefWorld.next .ticking)) (lateReport.carryOut .ticking 5 briefWorld) := by
  have serves : Surroundings.ticking.RefusesNothing := fun _ _ => rfl
  have nothing : ∀ url, (World.untouched []).Upholds url none := fun _ _ _ => rfl
  have ends : (lateReport.carryOut .ticking 5 briefWorld).2.clock = ⟨23000000⟩ := by decide +kernel
  have inCalendar : CalendarHolds ⟨0⟩ (lateReport.carryOut .ticking 5 briefWorld).2.clock := by
    rw [ends]
    exact calendarHolds_of_day (by decide)
  obtain ⟨standing, descends, accounts, -⟩ := upkeep_account serves nothing briefUpkeep lateReport inCalendar
  exact ⟨serves, nothing, inCalendar, by decide +kernel, standing, descends, accounts⟩

end RepoSurvey.Analysis

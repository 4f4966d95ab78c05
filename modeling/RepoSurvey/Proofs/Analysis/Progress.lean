import RepoSurvey.Analysis.Progress
import RepoSurvey.Proofs.Schema.Restoring

/-!
# Progress records in the cache

A progress record that was read once is regular, and a regular record is read back from what is written.
`Progress.leads_reported` and `Progress.leads_failed` say what becomes of a regular record under the
only changes that a run makes, so that no such change is ever rejected.
-/

namespace RepoSurvey.Analysis.Progress

open Clock (Moment Timestamp)
open Schema

/-- Whether a record can be written and read back. -/
structure Regular (record : Progress) : Prop where
  low : 0 ≤ record.progress
  high : record.progress ≤ 100
  createdAt : record.createdAt.Regular
  updatedAt : record.updatedAt.Regular

variable {record : Progress} {now later : Moment} {value : Json}

/-- The fields of a record that is read are read one by one. -/
theorem fields_of_read {members : List (String × Json)} (read : (codec now).read (.obj members) = .valid record) :
    (Part.field "id" .text Progress.id none).read members = .valid record.id ∧
      (Part.field "repository_url" .text repositoryUrl none).read members = .valid record.repositoryUrl ∧
      (Part.field "progress" (.integerWithin 0 100) progress (some 0)).read members = .valid record.progress ∧
      (Part.field "created_at" .timestamp createdAt (some (.ofMoment now))).read members = .valid record.createdAt ∧
      (Part.field "updated_at" .timestamp updatedAt (some (.ofMoment now))).read members =
        .valid record.updatedAt := by
  change (parts now).read members = _ at read
  unfold parts at read
  simp only [Part.read_seq_eq_valid, Part.read_map_eq_valid] at read
  obtain ⟨_, updatedAt, ⟨_, createdAt, ⟨_, details, ⟨_, stage, ⟨_, progress, ⟨_, status,
    ⟨_, url, ⟨id, idRead, rfl⟩, urlRead, rfl⟩, -, rfl⟩, progressRead, rfl⟩, -, rfl⟩, -, rfl⟩, createdRead, rfl⟩,
    updatedRead, rfl⟩ := read
  exact ⟨idRead, urlRead, progressRead, createdRead, updatedRead⟩

/-- A record that was read is regular, as its times are when they stood there or were made now. -/
theorem regular_of_read (inCalendar : now.InCalendar)
    (read : (codec now).read value = .valid record) : record.Regular := by
  cases value with
  | obj members =>
    obtain ⟨-, -, progressRead, createdRead, updatedRead⟩ := fields_of_read read
    have regular : ∀ {name : String} {held : Progress -> Timestamp} {stamp : Timestamp},
        (Part.field name Codec.timestamp held (some (.ofMoment now))).read members = .valid stamp ->
          stamp.Regular := by
      intro name held stamp stampRead
      rcases Part.of_read_named stampRead with ⟨_, -, stampRead⟩ | fallback
      · exact Codec.regular_of_read stampRead
      · exact Option.some.inj fallback ▸ Clock.Timestamp.regular_ofMoment inCalendar
    have within : 0 ≤ record.progress ∧ record.progress ≤ 100 := by
      rcases Part.of_read_named progressRead with ⟨_, -, numberRead⟩ | fallback
      · exact Codec.bounds_of_read numberRead
      · exact Option.some.inj fallback ▸ by decide
    exact ⟨within.1, within.2, regular createdRead, regular updatedRead⟩
  | _ => nomatch read

/-- What reads as a record at one time does at any other. -/
theorem read_later (later : Moment) (read : (codec now).read value = .valid record) :
    ∃ found, (codec later).read value = .valid found := by
  cases value with
  | obj members =>
    change (parts now).read members = _ at read
    unfold parts at read
    obtain ⟨_, _, readRest, updatedRead, -⟩ := Part.read_seq_eq_valid.mp read
    obtain ⟨_, _, readFirst, createdRead, -⟩ := Part.read_seq_eq_valid.mp readRest
    obtain ⟨_, createdAt⟩ := Part.read_named_of_fallback createdRead
    obtain ⟨_, updatedAt⟩ := Part.read_named_of_fallback updatedRead
    exact ⟨_, Part.read_seq_eq_valid.mpr ⟨_, _,
      Part.read_seq_eq_valid.mpr ⟨_, _, readFirst, createdAt, rfl⟩, updatedAt, rfl⟩⟩
  | _ => nomatch read

/-- What is written of a record, field by field. -/
theorem write_parts (record : Progress) : (parts now).write .stored record =
    [ ("id", .str record.id), ("repository_url", .str record.repositoryUrl),
      ("status", .str record.status.name), ("progress", .int record.progress),
      ("stage", .str record.stage), ("details", (record.details.map Json.str).getD .null),
      ("created_at", .str record.createdAt.text), ("updated_at", .str record.updatedAt.text) ] := by
  obtain ⟨_, _, _, _, _, details, _, _⟩ := record
  cases details <;> rfl

/-- A regular record is read back. -/
theorem restores (regular : record.Regular) (now : Moment) : (codec now).Restores record := by
  have status : (Codec.choice RunStatus.all RunStatus.name).Restores record.status :=
    Codec.restores_choice (by cases record.status <;> rfl)
  have progress := Codec.restores_integerWithin regular.low regular.high
  have details : (Codec.optional .text).Restores record.details :=
    Codec.restores_optional fun _ _ => ⟨rfl, Json.noConfusion⟩
  have createdAt := Codec.restores_timestamp regular.createdAt
  have updatedAt := Codec.restores_timestamp regular.updatedAt
  have texts := Codec.restores_text
  open Part in
  exact Codec.restores_record (by decide) (by decide)
    ((restores_named (texts _)).map Progress.mk |>.seq (restores_named (texts _)) |>.seq
      (restores_named status) |>.seq (restores_named progress) |>.seq (restores_named (texts _)) |>.seq
      (restores_named details) |>.seq (restores_named createdAt) |>.seq (restores_named updatedAt))

/-- What is written of a record is sound. -/
theorem sound_written (record : Progress) : ((codec now).write .stored record).Sound := by
  have details : ((Codec.optional .text).write .stored record.details).Sound := by
    cases record.details <;> trivial
  have distinct : ["id", "repository_url", "status", "progress", "stage", "details", "created_at",
    "updated_at"].Nodup := by decide
  exact ⟨distinct, trivial, trivial, trivial, trivial, trivial, details, trivial, trivial, trivial⟩

/-! ## Changes -/

/-- The record after an event was written into it. -/
def after (record : Progress) (event : Event) (now : Moment) : Progress :=
  { record with
    stage := event.stage
    progress := event.progress
    details := event.details
    status := if 100 ≤ event.progress then .completed else .analyzing
    updatedAt := .ofMoment now }

/-- The record after a failure was written into it. -/
def afterFailure (record : Progress) (details : String) (now : Moment) : Progress :=
  { record with
    status := .failed
    progress := 0
    details := some details
    updatedAt := .ofMoment now }

/-- A change that leads to what is written of a regular record makes it that record. -/
theorem changed_eq {changes : List (String × Json)} {changed : Progress} (regular : changed.Regular)
    (leads : Json.assign "updated_at" (.str now.text)
      (changes.foldl (fun members change => Json.assign change.1 change.2 members)
        ((parts now).write .stored record)) = (parts now).write .stored changed) :
    record.changed changes now = .ok changed := by
  unfold Progress.changed
  dsimp only
  rw [leads]
  exact Checked.toExcept_eq_ok.mpr (restores regular now)

/-- A regular record is regular after an event. -/
theorem Regular.after (regular : record.Regular) (inCalendar : now.InCalendar) {event : Event}
    (inRange : 0 ≤ event.progress ∧ event.progress ≤ 100) : (record.after event now).Regular :=
  ⟨inRange.1, inRange.2, regular.createdAt, Clock.Timestamp.regular_ofMoment inCalendar⟩

/-- A regular record is regular after a failure. -/
theorem Regular.afterFailure (regular : record.Regular) (inCalendar : now.InCalendar)
    (details : String) : (record.afterFailure details now).Regular :=
  ⟨Int.le_refl 0, of_decide_eq_true rfl, regular.createdAt, Clock.Timestamp.regular_ofMoment inCalendar⟩

/-- Whether changes turn every regular record into another one of the same URL. -/
structure Leads (changes : List (String × Json)) (change : Progress -> Moment -> Progress) : Prop where
  changed : ∀ (record : Progress) (now : Moment), record.Regular -> now.InCalendar ->
    record.changed changes now = .ok (change record now)
  regular : ∀ (record : Progress) (now : Moment), record.Regular -> now.InCalendar -> (change record now).Regular
  sameUrl : ∀ record now, (change record now).repositoryUrl = record.repositoryUrl

/-- An event within the range of progress is written into every regular record. -/
theorem leads_reported {event : Event} (inRange : 0 ≤ event.progress ∧ event.progress ≤ 100) :
    Leads (reported event) fun record now => record.after event now where
  changed record now regular inCalendar := by
    refine changed_eq (regular.after inCalendar inRange) ?_
    rw [write_parts, write_parts]
    simp [reported, after, Json.assign]
  regular _ _ regular inCalendar := regular.after inCalendar inRange
  sameUrl _ _ := rfl

/-- A failure is written into every regular record. -/
theorem leads_failed (details : String) : Leads [("status", .str RunStatus.failed.name),
    ("progress", .int 0), ("details", .str details)] fun record now => record.afterFailure details now where
  changed record now regular inCalendar := by
    refine changed_eq (regular.afterFailure inCalendar details) ?_
    rw [write_parts, write_parts]
    simp [afterFailure, Json.assign]
  regular _ _ regular inCalendar := regular.afterFailure inCalendar details
  sameUrl _ _ := rfl

end RepoSurvey.Analysis.Progress

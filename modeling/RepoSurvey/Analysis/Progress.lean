import RepoSurvey.Analysis.Call
import RepoSurvey.Analysis.Identity

/-!
# Progress records

Each repository has at most one progress record in the cache, which lasts for a time after it was last
written. A record is changed by writing some of its fields anew; what comes of it has to be a record
again, or nothing is written.
-/

namespace RepoSurvey.Analysis

open Schema
open Clock (Moment Timestamp)

/-- Where a run stands. -/
inductive RunStatus where
  | pending
  | analyzing
  | completed
  | failed
  deriving DecidableEq, Repr

namespace RunStatus

/-- All values. -/
def all : List RunStatus := [.pending, .analyzing, .completed, .failed]

/-- The name of a value. -/
def name : RunStatus -> String
  | .pending => "pending"
  | .analyzing => "analyzing"
  | .completed => "completed"
  | .failed => "failed"

end RunStatus

/-- A progress record. -/
structure Progress where
  id : String
  repositoryUrl : String
  status : RunStatus
  progress : Int
  stage : String
  details : Option String
  createdAt : Timestamp
  updatedAt : Timestamp
  deriving DecidableEq, Repr

namespace Progress

/-- The name under which progress records are reported. -/
def recordName : String := "AnalysisProgress"

/-- The parts of a progress record. A record without times is made now. -/
def parts (now : Moment) : Part Progress Progress :=
  Progress.mk <$> .field "id" .text id none
    <*> .field "repository_url" .text repositoryUrl none
    <*> .field "status" (.choice RunStatus.all RunStatus.name) status (some .pending)
    <*> .field "progress" (.integerWithin 0 100) progress (some 0)
    <*> .field "stage" .text stage (some "")
    <*> .field "details" (.optional .text) details (some none)
    <*> .field "created_at" .timestamp createdAt (some (.ofMoment now))
    <*> .field "updated_at" .timestamp updatedAt (some (.ofMoment now))

/-- How progress records are read and written. -/
def codec (now : Moment) : Codec Progress := .record recordName (parts now)

/-- A record before anything was done. -/
def fresh (id url : String) (now : Moment) : Progress :=
  ⟨id, url, .pending, 0, "Waiting to start", none, .ofMoment now, .ofMoment now⟩

/-- A record with some fields written anew. -/
def changed (record : Progress) (changes : List (String × Json)) (now : Moment) :
    Except Report Progress :=
  let members := changes.foldl (fun members change => Json.assign change.1 change.2 members)
    ((parts now).write .stored record)
  ((codec now).read (.obj (Json.assign "updated_at" (.str now.text) members))).toExcept recordName

/-- The seconds for which a record is kept when no other time is given. -/
def defaultSeconds : Int := 24 * 60 * 60

/-- Keep a record. -/
def save (lifetime : Store.Lifetime) (record : Progress) : Attempt Unit :=
  writeCache (progressKey record.repositoryUrl) ((codec record.updatedAt.reading).write .stored record)
    lifetime

/-- Start a fresh record in place of any other. -/
def create (lifetime : Store.Lifetime) (url : String) : Attempt Progress := do
  let id <- freshId
  let now <- present
  let record := fresh ("progress-" ++ id) url now
  save lifetime record
  pure record

/-- The record of a repository. -/
def get (url : String) : Attempt (Option Progress) := do
  match <- readCache (progressKey url) with
  | none => pure none
  | some value =>
    let now <- present
    match ((codec now).read value).toExcept recordName with
    | .ok record => pure (some record)
    | .error report => throw (.record report)

/-- Write some fields of a record anew; nothing when there is no record. -/
def update (lifetime : Store.Lifetime) (url : String) (changes : List (String × Json)) :
    Attempt (Option Progress) := do
  match <- get url with
  | none => pure none
  | some record =>
    let now <- present
    match record.changed changes now with
    | .ok updated =>
      save lifetime updated
      pure (some updated)
    | .error report => throw (.record report)

/-- The fields written by a report. -/
def reported (event : Event) : List (String × Json) :=
  let status := if 100 ≤ event.progress then RunStatus.completed else .analyzing
  [ ("stage", .str event.stage), ("progress", .int event.progress),
    ("details", (event.details.map Json.str).getD .null), ("status", .str status.name) ]

/-- Write an event into the record, which is created if there is none. -/
def note (lifetime : Store.Lifetime) (url : String) (event : Event) : Attempt (Option Progress) := do
  match <- update lifetime url (reported event) with
  | some record => pure (some record)
  | none =>
    let _ <- create lifetime url
    update lifetime url (reported event)

/-- Mark a run as failed. -/
def markFailed (lifetime : Store.Lifetime) (url details : String) : Attempt (Option Progress) :=
  update lifetime url
    [ ("status", .str RunStatus.failed.name), ("progress", .int 0), ("details", .str details) ]

/-- The stage noted for a completed run when no other is given. -/
def completedStage : String := "Completed"

/-- Mark a run as completed. -/
def markCompleted (lifetime : Store.Lifetime) (url stage : String) : Attempt (Option Progress) :=
  update lifetime url
    [ ("status", .str RunStatus.completed.name), ("progress", .int 100), ("stage", .str stage) ]

/-- Delete a record. -/
def delete (url : String) : Attempt Unit := deleteCache (progressKey url)

end Progress

end RepoSurvey.Analysis

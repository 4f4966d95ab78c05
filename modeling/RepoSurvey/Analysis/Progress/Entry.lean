import RepoSurvey.Analysis.Progress
import RepoSurvey.Json.Compare

/-!
# Progress from outside

Progress records can be asked for and changed with values of any shape. A URL has to be a text before
anything is looked for under it; what a record is changed to is checked when the record is made anew. Changes to what says which record
is meant are refused before anything is done.
-/

namespace RepoSurvey.Analysis.Progress

open Schema
open Store (Lifetime)

/-- The URL that a value is. -/
def urlOf (value : Json) : Attempt String :=
  match value with
  | .str url => pure url
  | other => throw (.shape (.noOperation other.kindName "encode"))

/-- Start a fresh record for a URL, which is checked as a part of the record. -/
def createFor (lifetime : Lifetime) (url : Json) : Attempt Progress :=
  match (Codec.text.read url).under "repository_url" with
  | .valid url => create lifetime url
  | .invalid issues => throw (.record ⟨recordName, issues⟩)

/-- Why changes cannot be asked for at all. -/
inductive ChangeFault where
  /-- They are no object, but of some other kind. -/
  | noObject (kind : String)
  /-- They name what already says which record is changed. -/
  | reservedName (name : String)
  deriving DecidableEq, Repr

/-- The wording of a fault. -/
def ChangeFault.message : ChangeFault -> String
  | .noObject kind =>
    "repo_analyzer.executor.progress_store.ProgressStore.update() argument after ** must be a " ++
      "mapping, not " ++ kind
  | .reservedName name => "ProgressStore.update() got multiple values for argument '" ++ name ++ "'"

/-- The names that already say which record is changed. -/
def reservedNames : List String := ["self", "repository_url"]

/-- The changes that a value asks for. -/
def changesOf : Json -> Except ChangeFault (List (String × Json))
  | .obj changes =>
    match changes.find? (reservedNames.contains ·.1) with
    | some (name, _) => .error (.reservedName name)
    | none => .ok changes
  | value => .error (.noObject value.kindName)

/-- The record for a URL. -/
def getFor (url : Json) : Attempt (Option Progress) := do get (<- urlOf url)

/-- Write some fields of the record for a URL anew. -/
def updateFor (lifetime : Lifetime) (url : Json) (changes : List (String × Json)) :
    Attempt (Option Progress) := do
  update lifetime (<- urlOf url) changes

/-- Write a report into the record for a URL, which is created if there is none. Whether the report is
of the end is found out first. -/
def noteFor (lifetime : Lifetime) (url stage progress details : Json) :
    Attempt (Option Progress) := do
  match progress.reaches (.int 100) with
  | .error fault => throw (.shape fault)
  | .ok ended =>
    let status := if ended then RunStatus.completed else .analyzing
    let changes :=
      [ ("stage", stage), ("progress", progress), ("details", details),
        ("status", .str status.name) ]
    match <- updateFor lifetime url changes with
    | some record => pure (some record)
    | none =>
      let _ <- createFor lifetime url
      updateFor lifetime url changes

/-- Mark the run for a URL as failed. -/
def markFailedFor (lifetime : Lifetime) (url details : Json) : Attempt (Option Progress) :=
  updateFor lifetime url
    [ ("status", .str RunStatus.failed.name), ("progress", .int 0), ("details", details) ]

/-- Mark the run for a URL as completed, in a stage or in the usual one. -/
def markCompletedFor (lifetime : Lifetime) (url : Json) (stage : Option Json) :
    Attempt (Option Progress) :=
  updateFor lifetime url
    [ ("status", .str RunStatus.completed.name), ("progress", .int 100),
      ("stage", stage.getD (.str completedStage)) ]

/-- Delete the record for a URL. -/
def deleteFor (url : Json) : Attempt Unit := do delete (<- urlOf url)

end RepoSurvey.Analysis.Progress

import RepoSurvey.Agent.Run
import RepoSurvey.Analysis.Request
import RepoSurvey.Prompt.Library
import RepoSurvey.Session.Table
import RepoSurvey.Store.Cache
import RepoSurvey.Survey.Dependencies

/-!
# Calls of an analysis

An analysis works through calls to its surroundings: its agents' calls, the clock, the keys, the
cache, the stored documents, the sessions and a listener to whom progress is reported. Calls to the
cache, to the stored documents and to the listener may be refused.
-/

namespace RepoSurvey.Analysis

open Clock (Moment)
open Store (CacheFault Lifetime)

/-- Progress, as it is reported. -/
structure Event where
  stage : String
  progress : Int
  details : Option String
  deriving DecidableEq, Repr

/-- The calls of an analysis. -/
inductive Call where
  /-- A call of one of its agents. -/
  | agent (call : Agent.Call)
  /-- Draw the next key. -/
  | drawKey
  /-- Look at the clock. -/
  | now
  /-- Make up an identifier. -/
  | freshId
  | readCache (key : String)
  | writeCache (key : String) (value : Json) (lifetime : Lifetime)
  | deleteCache (key : String)
  | saveDocument (project name content language : String)
  | discardDrafts (project : String) (name : Option String)
  | countDrafts (project : String)
  | promoteDrafts (project : String)
  | session (request : Session.Request)
  /-- Report progress to the listener. -/
  | report (event : Event)
  /-- Tell that one more document of a batch is settled. -/
  | settled (count total : Nat)
  /-- Choose which of several activities goes on. -/
  | choose (count : Nat)
  deriving DecidableEq, Repr

/-- Why a call was not carried out. -/
inductive Obstacle where
  /-- It was refused with a report. -/
  | refusal (report : String)
  /-- The cache cannot do it. -/
  | cache (fault : CacheFault)
  deriving DecidableEq, Repr

/-- What comes back from each call. -/
def Answer : Call -> Type
  | .agent call => Agent.Answer call
  | .drawKey | .freshId => String
  | .now => Moment
  | .readCache _ => Except Obstacle (Option Json)
  | .writeCache _ _ _ | .deleteCache _ | .saveDocument _ _ _ _ | .promoteDrafts _ | .report _
  | .settled _ _ => Except Obstacle Unit
  | .discardDrafts _ _ | .countDrafts _ => Except Obstacle Nat
  | .session request => Session.Answer request
  | .choose _ => Nat

/-- Activities of an analysis. -/
abbrev Doing (α : Type) : Type := Activity Call Answer α

/-- Who may refuse a call. -/
inductive Partner where
  | cache
  | documents
  | listener
  deriving DecidableEq, Repr

/-- What can stop an analysis or one of its steps. -/
inductive Problem where
  /-- The repository is no directory. -/
  | notDirectory (path : String)
  /-- The path of the repository is too long to be looked for. -/
  | overlongPath (path : Files.Path)
  /-- A call was refused. -/
  | refused (partner : Partner) (report : String)
  /-- The cache cannot do something. -/
  | cache (fault : CacheFault)
  /-- No session can be created. -/
  | noRoom (problem : Session.NoRoom)
  /-- A prompt cannot be rendered. -/
  | prompt (problem : Prompt.Problem)
  /-- Data of a strange shape broke an agent down. -/
  | shape (fault : Json.ShapeFault)
  /-- The declared dependencies cannot be found. -/
  | manifest (problem : Survey.ManifestProblem)
  /-- A kept record does not read. -/
  | record (report : Schema.Report)
  /-- A reply holds no usable object. -/
  | reply (failure : ExtractionFailure)
  /-- A stage failed. -/
  | stage (stage : Stage) (report : String)
  deriving Repr

/-- The wording of a problem. -/
def Problem.message : Problem -> String
  | .notDirectory path => "Repository path is not a directory: " ++ path
  | .overlongPath path => Files.overlongReport path
  | .refused _ report => report
  | .cache fault => fault.message
  | .noRoom problem => problem.message
  | .prompt problem => problem.message
  | .shape fault => fault.message
  | .manifest problem => problem.message
  | .record report => report.text
  | .reply failure => failure.message
  | .stage reached report => "Stage '" ++ reached.name ++ "' failed: " ++ report

/-- Activities that may be stopped by a problem. -/
abbrev Attempt (α : Type) : Type := ExceptT Problem (Activity Call Answer) α

/-- Take the answer to a call that may be refused. -/
def Attempt.accepted {α : Type} (partner : Partner) (asked : Doing (Except Obstacle α)) :
    Attempt α :=
  ExceptT.mk <| Activity.bind asked fun
    | .ok value => .done (.ok value)
    | .error (.refusal report) => .done (.error (.refused partner report))
    | .error (.cache fault) => .done (.error (.cache fault))

/-- A call that is never refused. -/
def Attempt.certain {α : Type} (asked : Doing α) : Attempt α :=
  ExceptT.mk (Activity.bind asked fun value => .done (.ok value))

/-- Draw the next key. -/
def drawKey : Attempt String := .certain (.ask Call.drawKey)

/-- The present moment. -/
def present : Attempt Moment := .certain (.ask Call.now)

/-- A fresh identifier. -/
def freshId : Attempt String := .certain (.ask Call.freshId)

/-- Look for a value in the cache. A kept null counts as nothing. -/
def readCache (key : String) : Attempt (Option Json) := do
  let found <- Attempt.accepted .cache (.ask (Call.readCache key))
  pure (found.filter (· != .null))

/-- Keep a value in the cache. -/
def writeCache (key : String) (value : Json) (lifetime : Lifetime) : Attempt Unit :=
  .accepted .cache (.ask (Call.writeCache key value lifetime))

/-- Drop a value from the cache. -/
def deleteCache (key : String) : Attempt Unit := .accepted .cache (.ask (Call.deleteCache key))

/-- Save a draft. -/
def saveDocument (project name content language : String) : Attempt Unit :=
  .accepted .documents (.ask (Call.saveDocument project name content language))

/-- Delete drafts and count them. -/
def discardDrafts (project : String) (name : Option String) : Attempt Nat :=
  .accepted .documents (.ask (Call.discardDrafts project name))

/-- Publish the drafts of a project, if there are any, and count them. The count and the transaction
are two calls. -/
def publishDrafts (project : String) : Attempt Nat := do
  let count <- Attempt.accepted .documents (.ask (Call.countDrafts project))
  if count = 0 then pure 0
  else do
    Attempt.accepted .documents (.ask (Call.promoteDrafts project))
    pure count

/-- Create a session and give its identifier. -/
def createSession (goal repositoryPath : String) : Attempt String := do
  let id <- freshId
  let id := "session-" ++ id
  let created : Doing (Except Session.NoRoom Unit) :=
    .ask (Call.session (.create id goal repositoryPath))
  ExceptT.mk <| Activity.bind created fun
    | .ok () => .done (.ok id)
    | .error problem => .done (.error (.noRoom problem))

/-- Note something about the context of a session. -/
def updateSession (id : String) (updates : List (String × Json)) : Attempt Bool :=
  .certain (.ask (Call.session (.updateContext id updates)))

/-- Add a remark to a session. -/
def remark (id role content : String) : Attempt Bool :=
  .certain (.ask (Call.session (.remark id role content)))

/-- Record how a tool call came out. -/
def recordTool (id toolName : String) (success : Bool) (summary : String) : Attempt Bool :=
  .certain (.ask (Call.session (.toolRecord id toolName success summary)))

/-- End a session. -/
def closeSession (id : String) : Attempt Bool := .certain (.ask (Call.session (.close id)))

/-- Report progress to the listener. -/
def report (event : Event) : Attempt Unit := .accepted .listener (.ask (Call.report event))

/-- Tell that one more document of a batch is settled. -/
def tellSettled (count total : Nat) : Attempt Unit :=
  .accepted .listener (.ask (Call.settled count total))

/-- Choose which of several activities goes on. -/
def choose (count : Nat) : Doing Nat := .ask (Call.choose count)

/-- Have an agent carry out a task from its opening. -/
def carryOut (profile : Agent.Profile) (task : Agent.Task) : Attempt Agent.Outcome :=
  ExceptT.mk <|
    Activity.bind (Activity.embed Call.agent (fun _ answer => answer) (profile.execute task false))
      fun
      | .ok (outcome, _) => .done (.ok outcome)
      | .error fault => .done (.error (.shape fault))

/-- Go on whether an attempt succeeds or not. -/
def Attempt.ignore {α : Type} (attempt : Attempt α) : Attempt Unit :=
  ExceptT.mk (Activity.bind attempt.run fun _ => .done (.ok ()))

end RepoSurvey.Analysis

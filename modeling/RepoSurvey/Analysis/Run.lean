import RepoSurvey.Analysis.Identity
import RepoSurvey.Analysis.Progress
import RepoSurvey.Analysis.Result
import RepoSurvey.Analysis.Schedule
import RepoSurvey.Analysis.Writing
import RepoSurvey.Survey.Quality
import RepoSurvey.Survey.Structure

/-!
# Runs

A run turns a request into a result and published documents. A result kept for the same request is
given back without any work. Otherwise the run surveys the checkout, passes through its stages and
publishes; whatever stops it is reported, its drafts are discarded, and neither a result is kept nor
anything published. The session of the run is ended in every case.
-/

namespace RepoSurvey.Analysis

open Agent (Profile)
open Schema

/-- Whether progress is reported to a listener. -/
structure Listening where
  hasListener : Bool
  deriving DecidableEq, Repr

/-- Report an event to the listener, if there is one. -/
def Listening.tell (listening : Listening) (event : Event) : Attempt Unit :=
  if listening.hasListener then report event else pure ()

/-- Report an event and write it into the progress record. -/
def emit (context : Context) (listening : Listening) (url stage : String) (progress : Int) :
    Attempt Unit := do
  let event : Event := ⟨stage, progress, none⟩
  listening.tell event
  let _ <- Progress.note context.progressLifetime url event

/-- Write a failure into the progress record, which is created if there is none. -/
def noteFailure (context : Context) (url details : String) : Attempt Unit := do
  match <- Progress.markFailed context.progressLifetime url details with
  | some _ => pure ()
  | none =>
    let _ <- Progress.create context.progressLifetime url
    let _ <- Progress.markFailed context.progressLifetime url details

/-- Report a failure. Trouble with the progress record is of no consequence. -/
def reportFailure (context : Context) (listening : Listening) (url details : String) :
    Attempt Unit := do
  listening.tell ⟨"Failed", 0, some details⟩
  (noteFailure context url details).ignore

/-- A problem and the stage in which it arose. -/
structure Stop where
  reached : Stage
  problem : Problem

namespace Stop

/-- What is told about a stop: a stage's own failure speaks for itself. -/
def details (stop : Stop) : String :=
  match stop.problem with
  | .stage .. => stop.problem.message
  | problem => stop.reached.name ++ ": " ++ problem.message

/-- A stop as the failure of a stage. -/
def failure (stop : Stop) : Problem :=
  match stop.problem with
  | .stage named reason => .stage named reason
  | problem => .stage stop.reached problem.message

end Stop

/-- The steps of a run. -/
abbrev Course (α : Type) : Type := ExceptT Stop (Activity Call Answer) α

/-- Do something while in a stage. -/
def during {α : Type} (stage : Stage) (attempt : Attempt α) : Course α :=
  ExceptT.mk (Activity.bind attempt.run fun
    | .ok value => .done (.ok value)
    | .error problem => .done (.error ⟨stage, problem⟩))

/-- A run under way. -/
structure Running where
  request : Request
  checkout : Files.Checkout
  session : String
  listening : Listening

namespace Running

/-- The project of a run. -/
def projectKey (run : Running) : String := Analysis.projectKey run.request.repositoryUrl

/-- Report an event. -/
def emit (run : Running) (context : Context) (stage : String) (progress : Int) : Attempt Unit :=
  Analysis.emit context run.listening run.request.repositoryUrl stage progress

/-- Note in the session that a stage begins. -/
def enter (run : Running) (stage : Stage) : Attempt Unit := do
  let _ <- updateSession run.session [("stage", .str stage.name)]

/-- Enter a stage and do something in it. -/
def entering {α : Type} (run : Running) (stage : Stage) (attempt : Attempt α) : Course α :=
  during stage do
    run.enter stage
    attempt

/-- What the survey of a checkout finds. -/
structure Findings where
  layout : Survey.Structure
  dependencies : Survey.Dependencies
  quality : Survey.Quality

/-- The structure of a checkout. -/
def layoutOf (checkout : Files.Checkout) : Attempt Survey.Structure :=
  match Survey.Structure.obstacle? checkout with
  | some path => throw (.overlongPath path)
  | none => pure (Survey.Structure.ofCheckout checkout)

/-- The declared dependencies of a checkout. -/
def declaredDependencies (checkout : Files.Checkout) : Attempt Survey.Dependencies :=
  match Survey.Dependencies.ofCheckout checkout with
  | .ok found => pure found
  | .error problem => throw (.manifest problem)

/-- A record as it stands in prompts. -/
def prompted {α : Type} (codec : Codec α) (value : α) : String :=
  (codec.write .prompted value).text .indented

/-- Survey the checkout. -/
def inspect (run : Running) (context : Context) : Attempt Findings := do
  let layout <- layoutOf run.checkout
  run.emit context "Repository structure analyzed" 10
  let dependencies <- declaredDependencies run.checkout
  run.emit context "Declared dependencies collected" 15
  let quality := Survey.Quality.ofCheckout run.checkout
  run.emit context "Code quality measured" 20
  pure ⟨layout, dependencies, quality⟩

/-- Discard the drafts of earlier runs and begin. -/
def commence (run : Running) (context : Context) : Attempt Unit := do
  let _ <- discardDrafts run.projectKey none
  run.emit context "Starting analysis" 5

/-- The inquiry of a stage with tools and surroundings. -/
def inquiry (run : Running) (stage : Stage) (promptName : String)
    (values : List (String × String)) : Inquiry :=
  ⟨stage, promptName, values, some run.session, true, true⟩

/-- The overview stage. -/
def overviewStage (run : Running) (context : Context) (findings : Findings) : Attempt Overview := do
  let overview <- askForRecord context run.checkout
    (run.inquiry .overview "overview"
      [ ("repository_path", run.checkout.path.text),
        ("structure", prompted Survey.Structure.codec findings.layout) ])
    Overview.recordName Overview.codec
  run.emit context "Project overview complete" 30
  pure overview

/-- The dependency stage. -/
def dependencyStage (run : Running) (context : Context) (findings : Findings)
    (overview : Overview) : Attempt Graph := do
  let graph <- askForRecord context run.checkout
    (run.inquiry .dependencies "dependencies"
      [ ("overview", prompted Overview.codec overview),
        ("declared_dependencies", prompted Survey.Dependencies.codec findings.dependencies) ])
    Graph.recordName Graph.codec
  run.emit context "Dependency graph complete" 40
  pure graph

/-- The feature stage. -/
def featureStage (run : Running) (context : Context) (overview : Overview) (graph : Graph) :
    Attempt Features := do
  let features <- askForRecord context run.checkout
    (run.inquiry .coreFeatures "core_features"
      [ ("overview", prompted Overview.codec overview),
        ("dependency_graph", prompted Graph.codec graph) ])
    Features.recordName Features.codec
  run.emit context
    ("Identified " ++ Number.natText features.features.length ++ " core features") 50
  pure features

/-- The planning stage. -/
def planningStage (run : Running) (context : Context) (overview : Overview)
    (features : Features) : Attempt String := do
  let plan <- askForPlan context run.checkout
    [ ("overview", prompted Overview.codec overview),
      ("core_features", prompted Features.codec features) ]
    (some run.session)
  run.emit context "Documentation plan ready" 60
  pure plan

/-- The scheduling stage. -/
def schedulingStage (run : Running) (context : Context) (plan : String) (features : Features) :
    Attempt (List DocumentTask) := do
  let planned <- askForTasks context run.checkout plan features (some run.session)
  let tasks := prepareTasks planned features
  let _ <- updateSession run.session
    [("document_tasks", .arr (tasks.map fun task => .str task.title))]
  run.emit context ("Scheduled " ++ Number.natText tasks.length ++ " documents") 70
  pure tasks

/-- What is prepared for the writing of documents. -/
structure Preparation where
  overview : Overview
  graph : Graph
  features : Features
  tasks : List DocumentTask

/-- The share of progress after some of all documents are settled. -/
def writingProgress (count total : Nat) : Int := 80 + (count * 15 / total : Nat)

/-- Report how many documents are settled. -/
def tellWritten (run : Running) (context : Context) (count total : Nat) : Attempt Unit :=
  run.emit context
    ("Documents written " ++ Number.natText count ++ "/" ++ Number.natText total)
    (writingProgress count total)

/-- What the documents of a run are written for. -/
def batch (run : Running) (overview : Overview) : Batch :=
  ⟨run.checkout, run.projectKey, prompted Overview.codec overview⟩

/-- The writing stage. It fails when no document could be written. -/
def writingStage (run : Running) (context : Context) (preparation : Preparation) :
    Attempt WriteReport := do
  run.emit context "Writing documents" 80
  let written <- Attempt.certain <| writeAll context (run.batch preparation.overview)
    (run.tellWritten context) preparation.tasks
  if written.written.isEmpty then throw (.stage .writing "every document task failed")
  else pure written

/-- The assembling stage: sidebars, then publication. -/
def assemblingStage (run : Running) (context : Context) (written : WriteReport) : Attempt Unit := do
  saveSidebars context run.projectKey written.written
  run.emit context "Documentation assembled" 97
  let _ <- publishDrafts run.projectKey

/-- The result of a run that is completed at a moment. -/
def resultAt (run : Running) (findings : Findings) (preparation : Preparation)
    (written : WriteReport) (now : Clock.Moment) : Result where
  repositoryUrl := run.request.repositoryUrl
  analysisType := run.request.analysisType
  projectKey := run.projectKey
  metadata := run.request.metadata
  layout := findings.layout
  dependencies := findings.dependencies
  codeQuality := findings.quality
  overview := preparation.overview
  dependencyGraph := preparation.graph
  coreFeatures := preparation.features
  documents := written.written
  failedDocuments := written.failed
  completedAt := .ofMoment now

/-- The result of a run. -/
def result (run : Running) (findings : Findings) (preparation : Preparation)
    (written : WriteReport) : Attempt Result := do
  let now <- present
  pure (run.resultAt findings preparation written now)

/-- Keep a result. -/
def keep (run : Running) (context : Context) (result : Result) : Attempt Unit :=
  writeCache (resultKey run.request.repositoryUrl run.request.analysisType.name)
    ((Result.codec result.completedAt.reading).write .stored result) context.resultLifetime

/-- Report the end of the run. -/
def complete (run : Running) (context : Context) : Attempt Unit := do
  run.emit context "Analysis complete" 100

/-- The stages that prepare the writing of documents. -/
def prepare (run : Running) (context : Context) (findings : Findings) : Course Preparation := do
  let overview <- run.entering .overview (run.overviewStage context findings)
  let graph <- run.entering .dependencies (run.dependencyStage context findings overview)
  let features <- run.entering .coreFeatures (run.featureStage context overview graph)
  let plan <- run.entering .planning (run.planningStage context overview features)
  let tasks <- run.entering .scheduling (run.schedulingStage context plan features)
  pure ⟨overview, graph, features, tasks⟩

/-- The stages that publish what was written and keep the result. -/
def publish (run : Running) (context : Context) (findings : Findings) (preparation : Preparation)
    (written : WriteReport) : Course Result := do
  run.entering .assembling (run.assemblingStage context written)
  let result <- during .assembling (run.result findings preparation written)
  during .assembling (run.keep context result)
  run.entering .published (run.complete context)
  pure result

/-- All that a run does once it has begun. -/
def advance (run : Running) (context : Context) : Course Result := do
  let findings <- during .notStarted (run.inspect context)
  let preparation <- run.prepare context findings
  let written <- run.entering .writing (run.writingStage context preparation)
  run.publish context findings preparation written

/-- All stages of a run. -/
def course (run : Running) (context : Context) : Course Result := do
  during .notStarted (run.commence context)
  run.advance context

/-- What is done about a stop: the drafts are discarded and the failure is reported. -/
def abandon (run : Running) (context : Context) (stop : Stop) : Attempt Result := do
  (discardDrafts run.projectKey none).ignore
  reportFailure context run.listening run.request.repositoryUrl stop.details
  throw stop.failure

/-- The course of a run with what is done about a stop. -/
def outcome (run : Running) (context : Context) : Attempt Result :=
  ExceptT.mk <| Activity.bind (run.course context).run fun
    | .ok result => .done (.ok result)
    | .error stop => (run.abandon context stop).run

/-- Do something and end the session, whatever comes of it. -/
def closing {α : Type} (run : Running) (attempt : Attempt α) : Attempt α :=
  ExceptT.mk <| Activity.bind attempt.run fun outcome =>
    Activity.bind (closeSession run.session).run fun _ => .done outcome

end Running

/-- The goal noted in the sessions of runs. -/
def sessionGoal : String := "full_analysis"

/-- Look for a kept result. A path that is no directory is a problem. -/
def lookUp (checkout : Files.Checkout) (request : Request) : Attempt (Option Json) :=
  match checkout.found with
  | .ok (.directory _) => readCache (resultKey request.repositoryUrl request.analysisType.name)
  | .error .overlong => throw (.overlongPath checkout.path)
  | _ => throw (.notDirectory request.repositoryPath)

/-- Give back a kept result. -/
def giveBack (context : Context) (listening : Listening) (request : Request) (value : Json) :
    Attempt Result := do
  emit context listening request.repositoryUrl "Completed (cached)" 100
  let now <- present
  match ((Result.codec now).read value).toExcept Result.recordName with
  | .ok result => pure result
  | .error report => throw (.record report)

/-- Report that a run could not start. -/
def rejectRun (context : Context) (listening : Listening) (request : Request) (problem : Problem) :
    Attempt Result := do
  reportFailure context listening request.repositoryUrl
    (Stage.notStarted.name ++ ": " ++ problem.message)
  throw problem

/-- Run a request in a session of its own. -/
def startRun (context : Context) (listening : Listening) (request : Request) : Attempt Result := do
  let checkout := context.checkout request.repositoryPath
  let session <- createSession sessionGoal checkout.path.text
  let run : Running := ⟨request, checkout, session, listening⟩
  run.closing (run.outcome context)

/-- Run a request, unless a result is kept for it. -/
def runRequest (context : Context) (listening : Listening) (request : Request) : Attempt Result :=
  ExceptT.mk <| Activity.bind (lookUp (context.checkout request.repositoryPath) request).run fun
    | .error problem => (rejectRun context listening request problem).run
    | .ok (some value) => (giveBack context listening request value).run
    | .ok none => (startRun context listening request).run

end RepoSurvey.Analysis

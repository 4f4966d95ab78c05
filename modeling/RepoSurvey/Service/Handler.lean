import RepoSurvey.Analysis.Run
import RepoSurvey.Json.Access
import RepoSurvey.Json.Encoding
import RepoSurvey.Json.Finite
import RepoSurvey.Json.Reader
import RepoSurvey.Service.Route
import RepoSurvey.Service.Started

/-!
# Handling requests

A request is checked before anything else; what is wrong with it is answered in full. A service that
is not configured answers only whether it is there. Starting an analysis looks whether one of the same
URL is under way, creates a progress record and registers the run; these are separate calls, between
which other requests may come.
-/

namespace RepoSurvey.Service

open Analysis (Attempt Context Problem Progress Result)
open Schema

/-- The calls of a request that is being handled. -/
inductive Call where
  | analysis (call : Analysis.Call)
  /-- Whether a run of a URL is under way. -/
  | isRunning (url : String)
  /-- Register a run and start it in the background. -/
  | register (request : Analysis.Request)
  | sessionStats
  | documentNames (project language : String)
  | document (project name language : String)
  deriving DecidableEq, Repr

/-- What comes back from each call. -/
def Answer : Call -> Type
  | .analysis call => Analysis.Answer call
  | .isRunning _ => Bool
  | .register _ => Unit
  | .sessionStats => Session.Stats
  | .documentNames _ _ => List String
  | .document _ _ _ => Option String

/-- What breaks a request down. -/
inductive Failure where
  | problem (problem : Problem)
  /-- A response cannot be written, because a number in it is not finite. -/
  | unwritable
  deriving Repr

/-- The wording of a failure. -/
def Failure.message : Failure -> String
  | .problem found => found.message
  | .unwritable => "Out of range float values are not JSON compliant"

/-- The handling of a request. -/
abbrev Handling (α : Type) : Type := ExceptT Failure (Activity Call Answer) α

namespace Handling

/-- A single call. -/
def ask (call : Call) : Handling (Answer call) :=
  ExceptT.mk (Activity.bind (.ask call) fun answer => .done (.ok answer))

/-- Something done for analyses. -/
def attempt {α : Type} (attempt : Attempt α) : Handling α :=
  ExceptT.mk <|
    Activity.bind (Activity.embed Call.analysis (fun _ answer => answer) attempt.run) fun
      | .ok value => .done (.ok value)
      | .error problem => .done (.error (.problem problem))

end Handling

/-- Whether a run of a URL is under way. -/
def isRunning (url : String) : Handling Bool := .ask (Call.isRunning url)

/-- Register a run. -/
def register (request : Analysis.Request) : Handling Unit := .ask (Call.register request)

/-! ## Starting analyses -/

/-- What is answered about a run. -/
def started (url status message : String) : Response :=
  .ok (Started.codec.write .answered ⟨url, status, message⟩)

/-- Start an analysis, or point out the one of the same URL that is under way. -/
def startAnalysis (context : Context) (request : Analysis.Request) : Handling Response := do
  let url := request.repositoryUrl
  if <- isRunning url then
    pure (started url "analyzing" "Analysis already running. Poll GET /v1/analyses/progress.")
  else do
    let _ <- Handling.attempt (Progress.create context.progressLifetime url)
    register request
    pure (started url "pending" "Analysis started. Poll GET /v1/analyses/progress for progress.")

/-! ## Bodies and queries -/

/-- Complaints about a request that is missing something. -/
def missing (place : List String) : List Complaint := [⟨place, Misfit.missing.category⟩]

/-- Why the body of a request is refused. -/
inductive BodyFault where
  | complaints (complaints : List Complaint)
  /-- It is in no known encoding, or holds an integer that is too long. -/
  | unparsable
  /-- What a complaint is about cannot be written. -/
  | unwritable
  deriving DecidableEq, Repr

/-- What a complaint about a body is about: all of it where something is missing. -/
def echoed (body : Json) (complaint : Complaint) : Json :=
  if complaint.category = Misfit.missing.category then body
  else ((complaint.place.drop 1).head?.bind body.get?).getD body

/-- Refuse a body. Complaints echo what they are about. -/
def refuse (body : Json) (complaints : List Complaint) : BodyFault :=
  if complaints.all fun complaint => (echoed body complaint).isFinite then .complaints complaints
  else .unwritable

/-- Read the analysis request in a value. -/
def readRequest : Json -> Except BodyFault Analysis.Request
  | .null => .error (.complaints (missing ["body"]))
  | .obj members =>
    match Analysis.Request.codec.read (.obj members) with
    | .valid request => .ok request
    | .invalid issues => .error (refuse (.obj members) (Complaint.ofIssues "body" issues))
  | body => .error (refuse body [⟨["body"], "model_attributes_type"⟩])

/-- Read the analysis request in a body. -/
def readBody (body : Option String) : Except BodyFault Analysis.Request :=
  match body.getD "" with
  | "" => .error (.complaints (missing ["body"]))
  | text =>
    match Json.Encoding.reread? text with
    | none => .error .unparsable
    | some chars =>
      match Json.readAll chars with
      | .ok value => readRequest value
      | .error fault =>
        match fault.flaw with
        | .overlongInteger _ => .error .unparsable
        | _ => .error (.complaints [⟨["body", Number.natText fault.position], "json_invalid"⟩])

/-- Read the parts of a query, or answer what is wrong with them. -/
def withQuery {α : Type} (request : Request) (parts : Part α α) (next : α -> Handling Response) :
    Handling Response :=
  match (Codec.record "" parts).read request.queryObject with
  | .valid found => next found
  | .invalid issues => pure (.complaining (Complaint.ofIssues "query" issues))

/-- The query that names a repository. -/
def urlPart : Part String String := .field "repository_url" .text id none

/-- A repository and a type of analysis. -/
structure ResultQuery where
  url : String
  analysisType : Analysis.AnalysisType
  deriving DecidableEq, Repr

/-- The query for a result. -/
def resultPart : Part ResultQuery ResultQuery :=
  ResultQuery.mk <$> .field "repository_url" .text ResultQuery.url none
    <*> .field "analysis_type" Analysis.AnalysisType.codec ResultQuery.analysisType (some .full)

/-- The query that names a language. -/
def languagePart : Part String String :=
  .field "language" .text id (some Context.defaultPrimaryLanguage)

/-! ## Responses -/

/-- A successful response, if its value can be written. -/
def written (value : Json) : Handling Response :=
  if value.isFinite then pure (.ok value) else throw .unwritable

/-- The progress of a run. -/
def answerProgress (url : String) : Handling Response := do
  match <- Handling.attempt (Progress.get url) with
  | none => pure (.explained 404 ("No analysis found for " ++ url))
  | some record => written ((Progress.codec record.updatedAt.reading).write .answered record)

/-- The kept result of a run. -/
def answerResult (query : ResultQuery) : Handling Response := do
  match <- Handling.attempt
    (Analysis.readCache (Analysis.resultKey query.url query.analysisType.name)) with
  | none => pure (.explained 404 ("No completed analysis for " ++ query.url))
  | some value =>
    let now <- Handling.attempt Analysis.present
    match ((Result.codec now).read value).toExcept Result.recordName with
    | .ok result => written ((Result.codec now).write .answered result)
    | .error report => throw (.problem (.record report))

/-- The figures of the sessions. -/
def answerSessions : Handling Response := do
  let stats : Session.Stats <- Handling.ask .sessionStats
  written (Session.Stats.codec.write .answered stats)

/-- The published documents of a project. -/
def answerDocumentList (project language : String) : Handling Response := do
  let names : List String <- Handling.ask (.documentNames project language)
  pure (.ok (.obj
    [ ("project_key", .str project), ("language", .str language),
      ("documents", Json.ofTexts names) ]))

/-- A published document. -/
def answerDocument (project name language : String) : Handling Response := do
  let content : Option String <- Handling.ask (.document project name language)
  match content with
  | some text => pure ⟨200, .markdown text⟩
  | none =>
    pure (.explained 404
      ("Document not found: " ++ project ++ "/" ++ name ++ " (" ++ language ++ ")"))

/-- The version of the service. -/
def version : String := "0.1.0"

/-- Whether the service is there. -/
def health : Response := .ok (.obj [("status", .str "ok"), ("version", .str version)])

/-- The response of a service without a context. -/
def unconfigured : Response :=
  .explained 503 "Analyzer is not configured (LLM_API_KEY missing?)"

/-- Go on with the context, if the service has one. -/
def configured (context : Option Context) (next : Context -> Handling Response) :
    Handling Response :=
  match context with
  | some context => next context
  | none => pure unconfigured

/-- Answer a request that leads to a route and has its method. -/
def answerRoute (context : Option Context) (request : Request) : Route -> Handling Response
  | .health => pure health
  | .analyses =>
    match readBody request.body with
    | .error (.complaints complaints) => pure (.complaining complaints)
    | .error .unparsable => pure (.explained 400 "There was an error parsing the body")
    | .error .unwritable => throw .unwritable
    | .ok wanted => configured context fun context => startAnalysis context wanted
  | .progress =>
    withQuery request urlPart fun url => configured context fun _ => answerProgress url
  | .result =>
    withQuery request resultPart fun query => configured context fun _ => answerResult query
  | .sessions => configured context fun _ => answerSessions
  | .documentList project =>
    withQuery request languagePart fun language =>
      configured context fun _ => answerDocumentList project language
  | .document project name =>
    withQuery request languagePart fun language =>
      configured context fun _ => answerDocument project name language

/-- Answer a request. -/
def respond (context : Option Context) (request : Request) : Handling Response :=
  match Route.ofPath? request.path with
  | some route =>
    if request.method = route.method then answerRoute context request route
    else pure (.explained 405 "Method Not Allowed")
  | none =>
    if Route.isRedirected request.path then pure ⟨307, .nothing⟩
    else pure (.explained 404 "Not Found")

end RepoSurvey.Service

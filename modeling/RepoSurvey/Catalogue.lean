import RepoSurvey.Agent.Run
import RepoSurvey.Analysis.Progress
import RepoSurvey.Analysis.Result
import RepoSurvey.Chat.Settings
import RepoSurvey.Prompt.Library
import RepoSurvey.Service.Started
import RepoSurvey.Session.Record

/-!
# The catalogue of records

Every record has a name under which it is reported. The catalogue finds the codec of a record by that
name.
-/

namespace RepoSurvey

open Analysis
open Clock (Moment)
open Schema

/-- A record with the codec of its values. -/
structure Catalogued where
  Value : Type
  codec : Codec Value

namespace Catalogued

/-- A codec in the catalogue. -/
def of {α : Type} (codec : Codec α) : Catalogued := ⟨α, codec⟩

/-- The outputs of the stages and their parts. -/
def outputs : List (String × Catalogued) :=
  [ ("_LLMModel", of (.record "_LLMModel" (pure ()))),
    ("ModuleRole", of ModuleRole.codec),
    ("TechStackItem", of Technique.codec),
    ("EntryCandidate", of EntryCandidate.codec),
    (Overview.recordName, of Overview.codec),
    ("ModuleEdge", of ModuleEdge.codec),
    ("CallEdge", of CallEdge.codec),
    ("Hotspot", of Hotspot.codec),
    ("GraphVisual", of Drawing.codec),
    (Graph.recordName, of Graph.codec),
    ("CoreFeature", of Feature.codec),
    (Features.recordName, of Features.codec),
    (DocumentTask.recordName, of DocumentTask.codec),
    ("WrittenDocument", of WrittenDocument.codec),
    ("FailedDocument", of FailedDocument.codec) ]

/-- The findings of a survey and their parts. -/
def findings : List (String × Catalogued) :=
  [ ("RepositoryStructure", of Survey.Structure.codec),
    ("DependencyInfo", of Survey.Dependencies.codec),
    ("FileComplexity", of Survey.FileComplexity.codec),
    ("SecurityFinding", of Survey.Finding.codec),
    ("CodeQualityMetrics", of Survey.Quality.codec) ]

/-- Conversations, prompts and settings. -/
def conversations : List (String × Catalogued) :=
  [ (Chat.Settings.recordName, of Chat.Settings.codec),
    ("ToolCall", of Chat.ToolCall.codec),
    (Chat.Message.recordName, of Chat.Message.codec),
    (Chat.ToolDefinition.recordName, of Chat.ToolDefinition.codec),
    (Chat.ToolResult.recordName, of Chat.ToolResult.codec),
    (Agent.Record.recordName, of Agent.Record.codec),
    (Prompt.recordName, of Prompt.namedCodec) ]

/-- Requests, results and the books kept about runs. What has no time was made now. -/
def books (now : Moment) : List (String × Catalogued) :=
  [ (Request.recordName, of Request.codec),
    (Result.recordName, of (Result.codec now)),
    (Progress.recordName, of (Progress.codec now)),
    ("SessionMessage", of (Session.Remark.codec now)),
    ("ToolResultRecord", of (Session.ToolRecord.codec now)),
    ("SessionState", of (Session.codec now)),
    ("SessionSummary", of Session.Summary.codec),
    ("SessionStats", of Session.Stats.codec),
    (Service.Started.recordName, of Service.Started.codec) ]

/-- The record of a name. -/
def find? (now : Moment) (name : String) : Option Catalogued :=
  ((outputs ++ findings ++ conversations ++ books now).find? (·.1 == name)).map (·.2)

end Catalogued

end RepoSurvey

import RepoSurvey.Json.Access
import RepoSurvey.Json.Display
import RepoSurvey.Schema.Part

/-!
# Analysis requests and stages

A request names a repository by its URL and its local checkout. A run passes through stages of fixed
names.
-/

namespace RepoSurvey.Analysis

open Schema

/-- What an analysis is asked to cover. -/
inductive AnalysisType where
  | full
  | structural
  | quality
  | documentation
  deriving DecidableEq, Repr, Inhabited

namespace AnalysisType

/-- All types. -/
def all : List AnalysisType := [.full, .structural, .quality, .documentation]

/-- The name of a type. -/
def name : AnalysisType -> String
  | .full => "full"
  | .structural => "structure"
  | .quality => "quality"
  | .documentation => "documentation"

/-- How types are read and written. -/
def codec : Codec AnalysisType := .choice all name

end AnalysisType

/-- The stages of a run. -/
inductive Stage where
  | notStarted
  | overview
  | dependencies
  | coreFeatures
  | planning
  | scheduling
  | writing
  | assembling
  | published
  | failed
  deriving DecidableEq, Repr, Inhabited

namespace Stage

/-- All stages. -/
def all : List Stage :=
  [.notStarted, .overview, .dependencies, .coreFeatures, .planning, .scheduling, .writing,
    .assembling, .published, .failed]

/-- The name of a stage. -/
def name : Stage -> String
  | .notStarted => "not_started"
  | .overview => "overview"
  | .dependencies => "dependencies"
  | .coreFeatures => "core_features"
  | .planning => "planning"
  | .scheduling => "scheduling"
  | .writing => "writing"
  | .assembling => "assembling"
  | .published => "published"
  | .failed => "failed"

/-- The stage of a name. -/
def ofName? (text : String) : Option Stage := all.find? fun stage => stage.name = text

/-- The report about a value that names no stage. -/
def unknownReport (value : Json) : String := value.literal ++ " is not a valid PipelineStage"

/-- The stage that a value names. -/
def ofJson (value : Json) : Except String Stage :=
  match value.string?.bind ofName? with
  | some stage => .ok stage
  | none => .error (unknownReport value)

end Stage

/-- A request for an analysis. -/
structure Request where
  repositoryUrl : String
  repositoryPath : String
  analysisType : AnalysisType
  metadata : List (String × Json)
  deriving DecidableEq, Repr

namespace Request

/-- The name under which requests are reported. -/
def recordName : String := "AnalysisRequest"

/-- How requests are read and written. -/
def codec : Codec Request :=
  .record recordName <|
    Request.mk <$> .field "repository_url" (.textFrom 1) repositoryUrl none
      <*> .field "repository_path" (.textFrom 1) repositoryPath none
      <*> .field "analysis_type" AnalysisType.codec analysisType (some .full)
      <*> .field "metadata" .members metadata (some [])

end Request

end RepoSurvey.Analysis

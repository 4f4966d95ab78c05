import RepoSurvey.Analysis.Document
import RepoSurvey.Analysis.Feature
import RepoSurvey.Analysis.Graph
import RepoSurvey.Analysis.Overview
import RepoSurvey.Analysis.Request
import RepoSurvey.Survey.Record

/-!
# Analysis results

The result of a run repeats the request and holds the findings, the outputs of the stages and what
became of each document. It is kept in the cache in its written form and read back from there.
-/

namespace RepoSurvey.Analysis

open Schema
open Clock (Moment Timestamp)

/-- The result of an analysis. -/
structure Result where
  repositoryUrl : String
  analysisType : AnalysisType
  projectKey : String
  metadata : List (String × Json)
  layout : Survey.Structure
  dependencies : Survey.Dependencies
  codeQuality : Survey.Quality
  overview : Overview
  dependencyGraph : Graph
  coreFeatures : Features
  documents : List WrittenDocument
  failedDocuments : List FailedDocument
  completedAt : Timestamp
  deriving DecidableEq, Repr

namespace Result

/-- The name under which results are reported. -/
def recordName : String := "AnalysisResult"

/-- How results are read and written. A result without a time of completion was completed now. -/
def codec (now : Moment) : Codec Result :=
  .record recordName <|
    Result.mk <$> .field "repository_url" .text repositoryUrl none
      <*> .field "analysis_type" AnalysisType.codec analysisType none
      <*> .field "project_key" .text projectKey none
      <*> .field "metadata" .members metadata (some [])
      <*> .field "structure" Survey.Structure.codec layout none
      <*> .field "dependencies" Survey.Dependencies.codec dependencies none
      <*> .field "code_quality" Survey.Quality.codec codeQuality none
      <*> .field "overview" Overview.codec overview none
      <*> .field "dependency_graph" Graph.codec dependencyGraph none
      <*> .field "core_features" Features.codec coreFeatures none
      <*> .field "documents" (.list WrittenDocument.codec) documents (some [])
      <*> .field "failed_documents" (.list FailedDocument.codec) failedDocuments (some [])
      <*> .field "completed_at" .timestamp completedAt (some (.ofMoment now))

/-- The documents about features. -/
def featureDocuments (result : Result) : List WrittenDocument :=
  WrittenDocument.ofFeatures result.documents

end Result

end RepoSurvey.Analysis

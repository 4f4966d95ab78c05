import RepoSurvey.Schema.Part

/-!
# Answers about started runs

Whoever asks for an analysis is told the URL, where the run stands and where to look for progress.
-/

namespace RepoSurvey.Service

open Schema

/-- What is told about a run. -/
structure Started where
  url : String
  status : String
  message : String
  deriving DecidableEq, Repr

namespace Started

/-- The name under which such answers are reported. -/
def recordName : String := "StartAnalysisResponse"

/-- How such answers are read and written. -/
def codec : Codec Started :=
  .record recordName <|
    Started.mk <$> .field "repository_url" .text url none
      <*> .field "status" .text status none
      <*> .field "message" .text message none

end Started

end RepoSurvey.Service

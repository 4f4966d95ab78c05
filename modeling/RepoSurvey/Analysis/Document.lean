import RepoSurvey.Schema.Part

/-!
# Documents of an analysis

A task asks for one document. It ends as a document written in both languages or as a failure with
its reason.
-/

namespace RepoSurvey.Analysis

open Schema

/-- A document to be written. -/
structure DocumentTask where
  title : String
  goal : String
  outline : String
  targetReader : String
  featureId : Option String
  deriving DecidableEq, Repr

/-- A document stored in both languages. -/
structure WrittenDocument where
  docName : String
  title : String
  translatedTitle : String
  featureId : Option String
  languages : List String
  deriving DecidableEq, Repr

/-- A document that could not be written. -/
structure FailedDocument where
  title : String
  featureId : Option String
  error : String
  deriving DecidableEq, Repr

/-- The name under which tasks are reported. -/
def DocumentTask.recordName : String := "DocumentTask"

/-- How tasks are read and written. -/
def DocumentTask.codec : Codec DocumentTask :=
  .record recordName <|
    DocumentTask.mk <$> .exchanged "title" .text title none
      <*> .exchanged "goal" .text goal (some "")
      <*> .exchanged "outline" .text outline (some "")
      <*> .exchanged "target_reader" .text targetReader (some "")
      <*> .exchanged "feature_id" (.optional .text) featureId (some none)

/-- How written documents are read and written. -/
def WrittenDocument.codec : Codec WrittenDocument :=
  .record "WrittenDocument" <|
    WrittenDocument.mk <$> .field "doc_name" .text docName none
      <*> .field "title" .text title none
      <*> .field "translated_title" .text translatedTitle none
      <*> .field "feature_id" (.optional .text) featureId (some none)
      <*> .field "languages" (.list .text) languages (some [])

/-- The documents that are about features. -/
def WrittenDocument.ofFeatures (documents : List WrittenDocument) : List WrittenDocument :=
  documents.filter fun document => document.featureId.isSome

/-- How failed documents are read and written. -/
def FailedDocument.codec : Codec FailedDocument :=
  .record "FailedDocument" <|
    FailedDocument.mk <$> .field "title" .text title none
      <*> .field "feature_id" (.optional .text) featureId (some none)
      <*> .field "error" .text error none

end RepoSurvey.Analysis

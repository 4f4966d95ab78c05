import RepoSurvey.Json.Dictionary
import RepoSurvey.Schema.Part

/-!
# Findings of a survey

What is found out about a checkout without a model: its structure, its declared dependencies and
measures of its code.
-/

namespace RepoSurvey.Survey

open Schema
open Number (Binary64)

/-- The structure of a checkout. -/
structure Structure where
  totalFiles : Int
  totalDirectories : Int
  totalSizeBytes : Int
  languages : List (String × Int)
  keyFiles : List String
  topLevel : List String
  deriving DecidableEq, Repr

/-- The dependencies declared by the manifests of a checkout. -/
structure Dependencies where
  manifests : List String
  ecosystems : List String
  dependencies : Json.Dictionary
  devDependencies : Json.Dictionary
  deriving DecidableEq, Repr

/-- The complexity of a file. -/
structure FileComplexity where
  path : String
  lines : Int
  complexity : Int
  deriving DecidableEq, Repr

/-- A line that may be unsafe. -/
structure Finding where
  path : String
  line : Int
  issue : String
  deriving DecidableEq, Repr

/-- Measures of the code of a checkout. -/
structure Quality where
  filesAnalyzed : Int
  totalLines : Int
  averageFileLines : Binary64
  averageComplexity : Binary64
  maxComplexity : Int
  complexFiles : List FileComplexity
  duplicateLineRatio : Binary64
  maintainabilityIndex : Binary64
  securityIssues : List Finding
  deriving DecidableEq, Repr

/-- How structures are read and written. -/
def Structure.codec : Codec Structure :=
  .record "RepositoryStructure" <|
    Structure.mk <$> .field "total_files" .integer totalFiles (some 0)
      <*> .field "total_directories" .integer totalDirectories (some 0)
      <*> .field "total_size_bytes" .integer totalSizeBytes (some 0)
      <*> .field "languages" (.dictionary .integer) languages (some [])
      <*> .field "key_files" (.list .text) keyFiles (some [])
      <*> .field "top_level" (.list .text) topLevel (some [])

/-- How declared versions are read and written. A manifest may declare other values than texts; they
are written as they are and not read again. -/
def versionsCodec : Codec Json.Dictionary where
  read
    | .obj members =>
      (Checked.entries Codec.text.read members).map fun versions =>
        versions.map fun (name, version) => (.str name, .str version)
    | _ => .misfit .notDictionary
  write _ versions :=
    .obj (Json.finiteMembers versions.toMembers)

/-- How dependencies are read and written. -/
def Dependencies.codec : Codec Dependencies :=
  .record "DependencyInfo" <|
    Dependencies.mk <$> .field "manifests" (.list .text) manifests (some [])
      <*> .field "ecosystems" (.list .text) ecosystems (some [])
      <*> .field "dependencies" versionsCodec dependencies (some [])
      <*> .field "dev_dependencies" versionsCodec devDependencies (some [])

/-- How file complexities are read and written. -/
def FileComplexity.codec : Codec FileComplexity :=
  .record "FileComplexity" <|
    FileComplexity.mk <$> .field "path" .text path none
      <*> .field "lines" .integer lines none
      <*> .field "complexity" .integer complexity none

/-- How findings are read and written. -/
def Finding.codec : Codec Finding :=
  .record "SecurityFinding" <|
    Finding.mk <$> .field "path" .text path none
      <*> .field "line" .integer line none
      <*> .field "issue" .text issue none

/-- The number one hundred. -/
def hundred : Binary64 := Binary64.ofInt 100

/-- How measures are read and written. -/
def Quality.codec : Codec Quality :=
  .record "CodeQualityMetrics" <|
    Quality.mk <$> .field "files_analyzed" .integer filesAnalyzed (some 0)
      <*> .field "total_lines" .integer totalLines (some 0)
      <*> .field "average_file_lines" .number averageFileLines (some .zero)
      <*> .field "average_complexity" .number averageComplexity (some .zero)
      <*> .field "max_complexity" .integer maxComplexity (some 0)
      <*> .field "complex_files" (.list FileComplexity.codec) complexFiles (some [])
      <*> .field "duplicate_line_ratio" .number duplicateLineRatio (some .zero)
      <*> .field "maintainability_index" .number maintainabilityIndex (some hundred)
      <*> .field "security_issues" (.list Finding.codec) securityIssues (some [])

end RepoSurvey.Survey

import RepoSurvey.Schema.Part

/-!
# Core features of a project

The third stage lists the features that matter most. A feature's importance is a score or a word; it
is never used to order the features.
-/

namespace RepoSurvey.Analysis

open Schema
open Number (Binary64)

/-- The importance of a feature. -/
inductive Importance where
  | score (value : Binary64)
  | word (text : String)
  deriving DecidableEq, Repr

/-- A core feature. -/
structure Feature where
  id : String
  name : String
  whyCore : String
  importance : Option Importance
  evidence : List Json
  entryPoints : List String
  primaryModules : List String
  keySymbols : List String
  deriving DecidableEq, Repr

/-- The core features and the rule by which they were ranked. -/
structure Features where
  features : List Feature
  rankingRule : String
  deriving DecidableEq, Repr

/-- How importance is read and written. Texts stay texts; a value that is neither a number nor a text
has the issues of both readings. -/
def Importance.codec : Codec Importance where
  read value :=
    match Codec.text.read value, Codec.number.read value with
    | .valid text, _ => .valid (.word text)
    | _, .valid number => .valid (.score number)
    | .invalid others, .invalid issues =>
      .invalid (issues.map (fun issue => { issue with path := "float" :: issue.path }) ++
        others.map fun issue => { issue with path := "str" :: issue.path })
  write form
    | .score value => Codec.number.write form value
    | .word text => Codec.text.write form text

/-- How features are read and written. -/
def Feature.codec : Codec Feature :=
  .record "CoreFeature" <|
    Feature.mk <$> .exchanged "id" .text id none
      <*> .exchanged "name" .text name none
      <*> .exchanged "why_core" .text whyCore (some "")
      <*> .exchanged "importance" (.optional Importance.codec) importance (some none)
      <*> .exchanged "evidence" (.list .any) evidence (some [])
      <*> .exchanged "entry_points" (.list .text) entryPoints (some [])
      <*> .exchanged "primary_modules" (.list .text) primaryModules (some [])
      <*> .exchanged "key_symbols" (.list .text) keySymbols (some [])

/-- The name under which features are reported. -/
def Features.recordName : String := "CoreFeatures"

/-- How features with their ranking rule are read and written. -/
def Features.codec : Codec Features :=
  .record recordName <|
    Features.mk <$> .exchanged "features" (.list Feature.codec) features (some [])
      <*> .exchanged "ranking_rule" .text rankingRule (some "")

end RepoSurvey.Analysis

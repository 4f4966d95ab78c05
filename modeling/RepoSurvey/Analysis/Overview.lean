import RepoSurvey.Schema.Part

/-!
# Overview of a project

The first stage describes the modules of a project, the techniques it uses, the places where a reader
could start, and remarks.
-/

namespace RepoSurvey.Analysis

open Schema

/-- A module and what it is for. -/
structure ModuleRole where
  path : String
  role : String
  examples : List String
  deriving DecidableEq, Repr

/-- Evidence: one text or a list of texts. -/
inductive Evidence where
  | one (text : String)
  | many (texts : List String)
  deriving DecidableEq, Repr

/-- A technique and the evidence for its use. -/
structure Technique where
  kind : String
  name : String
  evidence : Evidence
  deriving DecidableEq, Repr

/-- A place to start reading. -/
structure EntryCandidate where
  path : String
  why : String
  deriving DecidableEq, Repr

/-- The overview of a project. -/
structure Overview where
  modules : List ModuleRole
  techniques : List Technique
  entryCandidates : List EntryCandidate
  notes : List String
  deriving DecidableEq, Repr

/-- How module roles are read and written. -/
def ModuleRole.codec : Codec ModuleRole :=
  .record "ModuleRole" <|
    ModuleRole.mk <$> .exchanged "path" .text path none
      <*> .exchanged "role" .text role (some "")
      <*> .exchanged "examples" (.list .text) examples (some [])

/-- How evidence is read and written. A value that is neither a text nor a list of texts has the
issues of both readings. -/
def Evidence.codec : Codec Evidence where
  read value :=
    match Codec.text.read value, (Codec.list .text).read value with
    | .valid text, _ => .valid (.one text)
    | _, .valid texts => .valid (.many texts)
    | .invalid issues, .invalid others =>
      .invalid (issues.map (fun issue => { issue with path := "str" :: issue.path }) ++
        others.map fun issue => { issue with path := "list[str]" :: issue.path })
  write form
    | .one text => Codec.text.write form text
    | .many texts => (Codec.list .text).write form texts

/-- How techniques are read and written. -/
def Technique.codec : Codec Technique :=
  .record "TechStackItem" <|
    Technique.mk <$> .exchanged "type" .text kind (some "")
      <*> .exchanged "name" .text name none
      <*> .exchanged "evidence" Evidence.codec evidence (some (.one ""))

/-- How entry candidates are read and written. -/
def EntryCandidate.codec : Codec EntryCandidate :=
  .record "EntryCandidate" <|
    EntryCandidate.mk <$> .exchanged "path" .text path none
      <*> .exchanged "why" .text why (some "")

/-- The name under which overviews are reported. -/
def Overview.recordName : String := "ProjectOverview"

/-- How overviews are read and written. -/
def Overview.codec : Codec Overview :=
  .record recordName <|
    Overview.mk <$> .exchanged "modules" (.list ModuleRole.codec) modules (some [])
      <*> .exchanged "tech_stack" (.list Technique.codec) techniques (some [])
      <*> .exchanged "entry_candidates" (.list EntryCandidate.codec) entryCandidates (some [])
      <*> .exchanged "notes" (.list .text) notes (some [])

end RepoSurvey.Analysis

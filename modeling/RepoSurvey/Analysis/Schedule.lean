import RepoSurvey.Analysis.Document
import RepoSurvey.Analysis.Feature
import RepoSurvey.Text.Lower
import RepoSurvey.Text.Blank

/-!
# The schedule of documents

The overview comes first, whatever was planned. The planned tasks follow, each about one feature at
most and no two about the same one. Features that no task is about get tasks of their own at the end.
-/

namespace RepoSurvey.Analysis

/-- The task that always comes first. -/
def overviewTask : DocumentTask where
  title := "Overview"
  goal := "Provide a concise introduction to the current project"
  outline := "Flexibly structure based on the project's actual content"
  targetReader := "The project's intended audience"
  featureId := none

/-- A title or name, as it is compared. -/
def comparedName (text : String) : String := Text.lower (Text.strip text)

/-- Whether a task is the overview under its own title. -/
def DocumentTask.isOverview (task : DocumentTask) : Bool :=
  comparedName task.title == comparedName overviewTask.title

/-- One line of an outline, if there is anything to list. -/
def outlinePart (label : String) (items : List String) : List String :=
  if items.isEmpty then [] else [label ++ ": " ++ String.intercalate ", " items]

/-- The task for a feature that no other task is about. -/
def Feature.task (feature : Feature) : DocumentTask where
  title := feature.name
  goal :=
    if feature.whyCore = "" then "Explain the " ++ feature.name ++ " feature" else feature.whyCore
  outline := String.intercalate "; "
    (["What the feature does and why it matters"] ++
      outlinePart "Entry points" feature.entryPoints ++
      outlinePart "Modules involved" feature.primaryModules ++
      outlinePart "Key symbols" feature.keySymbols ++
      ["How a developer extends or debugs it"])
  targetReader := "Developers working on this feature"
  featureId := some feature.id

/-- The feature a task is about: the one it names, or else the last one of the same name as its
title. -/
def DocumentTask.resolve (features : List Feature) (task : DocumentTask) : Option String :=
  match task.featureId.filter fun id => features.any (·.id == id) with
  | some id => some id
  | none =>
    (features.reverse.find? fun feature => comparedName feature.name == comparedName task.title).map
      (·.id)

/-- Planned tasks with the features they are about; `covered` holds the features taken before. -/
def assignFeatures (features : List Feature) (covered : List String) :
    List DocumentTask -> List DocumentTask
  | [] => []
  | task :: tasks =>
    let featureId := (task.resolve features).filter fun id => !covered.contains id
    { task with featureId } ::
      assignFeatures features (featureId.toList ++ covered) tasks

/-- The schedule: the overview, the planned tasks, and tasks for the features left. -/
def prepareTasks (planned : List DocumentTask) (features : Features) : List DocumentTask :=
  let kept := assignFeatures features.features [] (planned.filter fun task => !task.isOverview)
  let covered := kept.filterMap (·.featureId)
  let left := features.features.filter fun feature => !covered.contains feature.id
  overviewTask :: (kept ++ left.map Feature.task)

end RepoSurvey.Analysis

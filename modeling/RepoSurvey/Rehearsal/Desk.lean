import RepoSurvey.Analysis.Progress.Entry
import RepoSurvey.Rehearsal.Description
import RepoSurvey.Service.Reception
import RepoSurvey.Session.Entry
import RepoSurvey.Store.Entry

/-!
# The desk of a rehearsal

A described rehearsal is played on a desk: its description, a service in a rehearsed world, and the
handles by which sessions are called. What is asked of the stores of the world may fail; what was
changed before stays changed.
-/

namespace RepoSurvey.Rehearsal

open Analysis (Attempt Doing Problem World)
open Clock (Moment)

/-- A rehearsed world. -/
abbrev Scene := World Rehearsal

/-- A described rehearsal as it is played. -/
structure Desk where
  description : Json
  service : Service.State Rehearsal
  handles : Json.Dictionary

/-- Why something asked of a desk fails. -/
inductive DeskFault where
  | problem (problem : Problem)
  | entry (fault : Store.EntryFault)
  | rejection (rejection : Session.Rejection)
  /-- A transaction held a statement that cannot be carried out. -/
  | invalidStatement

/-- Work at a desk. -/
abbrev Working := StateM Desk

/-- Work at a desk that may fail. -/
abbrev Trying := ExceptT DeskFault Working

namespace Desk

/-- A desk on which nothing was done yet. -/
def start (description : Json) (world : Scene) : Desk := ⟨description, .start world, []⟩

/-- The world on a desk. -/
def scene (desk : Desk) : Scene := desk.service.world

/-- The identifier of a session that a handle stands for; a handle never given stands for itself. -/
def session (desk : Desk) (handle : Json) : String :=
  (((desk.handles.get? handle).getD handle).string?).getD ""

end Desk

/-- Change the world on the desk. -/
def onScene {α : Type} (change : Scene -> α × Scene) : Working α :=
  modifyGet fun desk =>
    let (value, world) := change desk.scene
    (value, { desk with service := { desk.service with world } })

/-- Have an activity carried out. -/
def carriedOut {α : Type} (work : Doing α) : Working α :=
  onScene fun scene => scene.run surroundings work

/-- Attempt something. -/
def attempted {α : Type} (work : Attempt α) : Trying α :=
  ExceptT.mk do return (<- carriedOut work.run).mapError .problem

/-- Change the table of sessions. -/
def onTable {α : Type} (change : Session.Table -> Moment -> α × Session.Table) : Working α :=
  onScene fun scene =>
    let (value, sessions) := change scene.sessions scene.clock
    (value, { scene with sessions })

/-- Enter something into the table of sessions. -/
def entered {α : Type}
    (change : Session.Table -> Moment -> Except Session.Rejection α × Session.Table) : Trying α :=
  ExceptT.mk do return (<- onTable change).mapError .rejection

/-- Change the stored documents. -/
def onDocuments {α : Type} (change : Store.Documents -> α × Store.Documents) : Working α :=
  onScene fun scene =>
    let (value, documents) := change scene.documents
    (value, { scene with documents })

/-- What can be made of values from outside. -/
def fitting {α : Type} (outcome : Except Store.EntryFault α) : Trying α :=
  ExceptT.mk (pure (outcome.mapError .entry))

/-- The text of a value for a column at a position. -/
def columnText (position : Nat) (value : Json) : Trying (Option String) :=
  fitting ((Store.columnText? position value).mapError .column)

end RepoSurvey.Rehearsal

import RepoSurvey.Analysis.World
import RepoSurvey.Rehearsal.Topic

/-!
# Rehearsals

A rehearsal lets agents work without a model: replies are taken from scripts, tools do simple things,
and whether a turn is kept was settled beforehand. The requests that were made are kept.

A rehearsal can stand in for all the surroundings of an analysis. Time stands still in it, activities
go on in turn, and trouble comes from where it was prepared.
-/

namespace RepoSurvey

open Agent (ChatRequest Delivery Reply)

namespace Rehearsal

/-- What the model does when it is asked. -/
inductive Cue where
  | replies (reply : Reply) (fires : Bool)
  | refuses (report : String) (fires : Bool)
  | hangs
  deriving DecidableEq, Repr

/-- A cue without tool calls. -/
def Cue.plain (content : String) : Cue := .replies ⟨content, []⟩ false

/-- How a cue comes back to an agent. -/
def Cue.delivery : Cue -> Delivery Reply
  | .replies reply fires => .answered reply fires
  | .refuses report fires => .refused report fires
  | .hangs => .cutOff

/-- What a tool does. -/
inductive Behaviour where
  | returns (data : Json)
  | echoes
  | raises (report : String)
  | hangs
  deriving DecidableEq, Repr

/-- What comes of a tool's work on arguments. -/
def Behaviour.delivery (arguments : List (String × Json)) : Behaviour -> Delivery Json
  | .returns data => .answered data false
  | .echoes => .answered (.obj arguments) false
  | .raises report => .refused report false
  | .hangs => .cutOff

/-- The first of a list and what is left of it; the last one is never used up. -/
def takeNext {α : Type} : List α -> Option (α × List α)
  | [] => none
  | [last] => some (last, [last])
  | first :: rest => some (first, rest)

/-- Trouble that was prepared: reports by the name of the call they are for, and the events and the
settlements after which the listener complains. -/
structure Trouble where
  reports : List (String × String)
  events : List String
  settlements : List Nat
  deriving DecidableEq, Repr

/-- No trouble. -/
def Trouble.nothing : Trouble := ⟨[], [], []⟩

end Rehearsal

open Rehearsal (Behaviour Cue Trouble)

/-- A rehearsal in progress: the cues for each name, the tools, the verdicts about turns, the trouble,
the requests made so far and the number of choices made so far. -/
structure Rehearsal where
  universal : Bool
  scripts : List (String × List Cue)
  tools : List (String × Behaviour)
  verdicts : List Bool
  trouble : Trouble
  requests : List ChatRequest
  choices : Nat
  deriving Repr

namespace Rehearsal

/-- The name under which the script for every conversation is kept. -/
def universalName : String := ""

/-- A rehearsal in which nothing was prepared. -/
def empty : Rehearsal := ⟨false, [], [], [], .nothing, [], 0⟩

/-- The reply to a conversation for which nothing was prepared. -/
def improvised : Topic -> Cue
  | .overview => .plain "\x7b\"modules\": [\x7b\"path\": \"app\", \"role\": \"code\"\x7d]\x7d"
  | .dependencies => .plain "\x7b\x7d"
  | .coreFeatures => .plain "\x7b\"features\": []\x7d"
  | .planner => .plain "The plan."
  | .scheduler => .plain "\x7b\"document_tasks\": []\x7d"
  | .writer title => .plain (document [("document", .str ("# " ++ title))])
  | .translator title =>
    .plain (document [("title", .str ("ZH " ++ title)), ("document", .str ("# ZH " ++ title))])
  | .oracle => .plain "\x7b\"next_speaker\": \"user\"\x7d"
  | .other => .plain ""
where
  /-- An object as a reply. -/
  document (members : List (String × Json)) : String := (Json.obj members).text .ascii

/-- The names under which a script for a topic may be kept, the closest first. -/
def names (rehearsal : Rehearsal) (topic : Topic) : List String :=
  if rehearsal.universal then [universalName] else [topic.name, topic.kind]

/-- The entry of a name in a list of named values. -/
def valueOf? {α : Type} (name : String) (named : List (String × α)) : Option α :=
  (named.find? (·.1 == name)).map (·.2)

/-- Put a value in place of the one of the same name. -/
def replace {α : Type} (name : String) (value : α) (named : List (String × α)) :
    List (String × α) :=
  named.map fun entry => if entry.1 = name then (name, value) else entry

/-- The cue for a topic, and the rehearsal after it was taken. -/
def cueFor (rehearsal : Rehearsal) (topic : Topic) : Cue × Rehearsal :=
  match (rehearsal.names topic).find? fun name => (valueOf? name rehearsal.scripts).isSome with
  | none => (improvised topic, rehearsal)
  | some name =>
    match takeNext ((valueOf? name rehearsal.scripts).getD []) with
    | none => (improvised topic, rehearsal)
    | some (cue, rest) =>
      (cue, { rehearsal with scripts := replace name rest rehearsal.scripts })

/-- Answer a request to the model. -/
def chat (request : ChatRequest) (rehearsal : Rehearsal) : Delivery Reply × Rehearsal :=
  let (cue, rehearsal) := rehearsal.cueFor (Topic.ofMessages request.messages)
  (cue.delivery, { rehearsal with requests := rehearsal.requests ++ [request] })

/-- Have a tool work; a tool that was not prepared returns nothing. -/
def work (tool : String) (arguments : List (String × Json)) (rehearsal : Rehearsal) :
    Delivery Json × Rehearsal :=
  ((valueOf? tool rehearsal.tools).getD (.returns .null) |>.delivery arguments, rehearsal)

/-- Decide whether a turn is kept. -/
def judge (rehearsal : Rehearsal) : Bool × Rehearsal :=
  match takeNext rehearsal.verdicts with
  | none => (false, rehearsal)
  | some (verdict, rest) => (verdict, { rehearsal with verdicts := rest })

/-- Answer the calls of an agent. -/
def answer : (call : Agent.Call) -> Rehearsal -> Agent.Answer call × Rehearsal
  | .chat request, rehearsal => rehearsal.chat request
  | .work tool arguments, rehearsal => rehearsal.work tool arguments
  | .judge _, rehearsal => rehearsal.judge
  | .pause, rehearsal => (false, rehearsal)

/-! ## Surroundings -/

section Surroundings

open Analysis (Call Surroundings)

namespace Trouble

/-- The report prepared under a name. -/
def about? (trouble : Trouble) (name : String) : Option String :=
  (trouble.reports.find? (·.1 == name)).map (·.2)

/-- The kind of values kept under a key of the cache. -/
def keyKind (key : String) : String := String.ofList (key.toList.takeWhile (· != ':'))

/-- The report with which a call is refused, if trouble was prepared for it. -/
def refusal (trouble : Trouble) : Call -> Option String
  | .readCache key => trouble.about? (keyKind key ++ "_get")
  | .writeCache key _ _ => trouble.about? (keyKind key ++ "_set")
  | .saveDocument _ name _ language =>
    (trouble.about? ("save:" ++ name ++ ":" ++ language)).or (trouble.about? ("save:" ++ name))
  | .discardDrafts _ none => trouble.about? "discard"
  | .discardDrafts _ (some name) => trouble.about? ("discard:" ++ name)
  | .countDrafts _ => trouble.about? "publish"
  | .report event =>
    if trouble.events.contains event.stage then some ("sink: " ++ event.stage) else none
  | .settled count _ =>
    if trouble.settlements.contains count then some ("settled " ++ Number.natText count) else none
  | _ => none

end Trouble

/-- The surroundings of a rehearsal. -/
def surroundings : Surroundings Rehearsal where
  agent := answer
  refusal call rehearsal := (rehearsal.trouble.refusal call, rehearsal)
  choose count rehearsal :=
    (rehearsal.choices % count, { rehearsal with choices := rehearsal.choices + 1 })
  elapsed rehearsal := (0, rehearsal)

end Surroundings

end Rehearsal

end RepoSurvey

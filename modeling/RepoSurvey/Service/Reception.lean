import RepoSurvey.Analysis.World
import RepoSurvey.Service.Handler

/-!
# Runs in the background

A service registers the latest run of each URL. A run goes on in the background; when it ends, the
entry of its URL is removed, whichever run it names by then. A run can be paused where it first needs
its model and be brought to its end later.
-/

namespace RepoSurvey.Service

open Analysis (Context Problem Result Surroundings World)

/-- The latest run registered for each URL, the runs under way with their URLs, and the number of runs
registered so far. -/
structure Register where
  latest : List (String × Nat)
  underWay : List (Nat × String)
  issued : Nat
  deriving DecidableEq, Repr

namespace Register

/-- A register without runs. -/
def empty : Register := ⟨[], [], 0⟩

/-- Whether the latest run of a URL is under way. -/
def isRunning (register : Register) (url : String) : Bool :=
  match register.latest.find? fun entry => entry.1 == url with
  | none => false
  | some (_, number) => register.underWay.any fun run => run.1 == number

/-- Register a run of a URL; its number is the number of runs registered before. -/
def add (register : Register) (url : String) : Register :=
  ⟨(url, register.issued) :: register.latest.filter fun entry => entry.1 != url,
    register.underWay ++ [(register.issued, url)], register.issued + 1⟩

/-- A run ends: the entry of its URL is removed. -/
def finish (register : Register) (number : Nat) (url : String) : Register :=
  { register with
    latest := register.latest.filter fun entry => entry.1 != url
    underWay := register.underWay.filter fun run => run.1 != number }

end Register

/-- A run in the background and what is left of it. -/
structure Background where
  number : Nat
  url : String
  rest : Analysis.Doing (Except Problem Result)

/-- A service at work in a world. -/
structure State (σ : Type) where
  world : World σ
  register : Register
  background : List Background

namespace State

variable {σ : Type}

/-- A service without runs. -/
def start (world : World σ) : State σ := ⟨world, .empty, []⟩

/-- Whether a call needs a model. -/
def needsModel : Analysis.Call -> Bool
  | .agent (.chat _) => true
  | _ => false

/-- Start a run in the background, up to where it first needs its model. -/
def begin (surroundings : Surroundings σ) (context : Context) (request : Analysis.Request)
    (state : State σ) : State σ :=
  let url := request.repositoryUrl
  let number := state.register.issued
  let register := state.register.add url
  let run := (Analysis.runRequest context ⟨false⟩ request).run
  let (rest, world) := run.runUntil needsModel (World.answer surroundings) state.world
  match rest with
  | .done _ => ⟨world, register.finish number url, state.background⟩
  | rest => ⟨world, register, state.background ++ [⟨number, url, rest⟩]⟩

/-- Bring a run in the background to its end. -/
def conclude (surroundings : Surroundings σ) (state : State σ) (background : Background) :
    State σ :=
  { state with
    world := (state.world.run surroundings background.rest).2
    register := state.register.finish background.number background.url }

/-- Bring all runs in the background to their ends, one after another. -/
def concludeAll (surroundings : Surroundings σ) (state : State σ) : State σ :=
  { state.background.foldl (conclude surroundings) state with background := [] }

/-- Answer a call of a request. -/
def answer (surroundings : Surroundings σ) (context : Option Context) :
    (call : Call) -> State σ -> Answer call × State σ
  | .analysis call, state =>
    let (answer, world) := World.answer surroundings call state.world
    (answer, { state with world })
  | .isRunning url, state => (state.register.isRunning url, state)
  | .register request, state =>
    ((), (context.map fun context => begin surroundings context request state).getD state)
  | .sessionStats, state => (state.world.sessions.stats state.world.clock, state)
  | .documentNames project language, state =>
    (state.world.documents.names project language .published, state)
  | .document project name language, state =>
    (state.world.documents.get? project name language .published, state)

/-- Respond to a request. -/
def respond (surroundings : Surroundings σ) (context : Option Context) (request : Request)
    (state : State σ) : Except Failure Response × State σ :=
  (Service.respond context request).run.run (answer surroundings context) state

end State

/-- The settings a service starts with; none when it has no key or an unknown provider. Other problems
keep it from starting. -/
def settingsAtStart (environment : String -> Option String) :
    Except Chat.SettingsProblem (Option Chat.Settings) :=
  match Chat.Settings.ofEnvironment environment with
  | .ok settings => .ok (some settings)
  | .error .noKey | .error (.unknownProvider _) => .ok none
  | .error problem => .error problem

end RepoSurvey.Service

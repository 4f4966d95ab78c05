import RepoSurvey.Analysis.Call
import RepoSurvey.Chat.Settings
import RepoSurvey.Store.Cache
import RepoSurvey.Store.Documents

/-!
# The world of runs

The world answers the calls of an analysis. Clock, identifiers, keys, cache, stored documents and
sessions are part of it. What the model, the tools and the listener do, which calls are refused, in
which order activities go on and how time passes is left to the surroundings, which have a state of
their own.
-/

namespace RepoSurvey.Analysis

open Clock (Moment)

/-- The behaviour of the surroundings. -/
structure Surroundings (σ : Type) where
  /-- Answer a call of an agent. -/
  agent : (call : Agent.Call) -> σ -> Agent.Answer call × σ
  /-- Refuse a call to the cache, the stored documents or the listener with a report, or accept it. -/
  refusal : Call -> σ -> Option String × σ
  /-- Choose which of several activities goes on. -/
  choose : Nat -> σ -> Nat × σ
  /-- The microseconds that pass before a call. -/
  elapsed : σ -> Nat × σ

/-- The world: the calls made so far, the latest first, and the sessions ended so far are kept. -/
structure World (σ : Type) where
  clock : Moment
  identifiers : Nat
  keys : Chat.KeyPool
  cache : Store.Cache
  documents : Store.Documents
  sessions : Session.Table
  calls : List Call
  ended : List Session
  outside : σ

namespace World

variable {σ : Type}

/-- The identifier made up as the one of a number. -/
def identifier (number : Nat) : String := String.ofList (Text.hexDigits 12 number)

/-- Answer a call that the surroundings may refuse. -/
def orRefusal {α : Type} (surroundings : Surroundings σ) (call : Call) (world : World σ)
    (accept : World σ -> α × World σ) : Except Obstacle α × World σ :=
  match surroundings.refusal call world.outside with
  | (some report, outside) => (.error (.refusal report), { world with outside })
  | (none, outside) =>
    let (value, world) := accept { world with outside }
    (.ok value, world)

/-- Answer a call to the cache, which the surroundings may refuse and which may come to nothing. -/
def answerCache {α : Type} (surroundings : Surroundings σ) (call : Call) (world : World σ)
    (change : Moment -> Store.Cache -> Except Store.CacheFault α × Store.Cache) :
    Except Obstacle α × World σ :=
  let (answer, world) := orRefusal surroundings call world fun world =>
    let (value, cache) := change world.clock world.cache
    (value, { world with cache })
  (answer.bind fun value => value.mapError .cache, world)

/-- Answer a call to the table of sessions. -/
def answerSession (request : Session.Request) (world : World σ) :
    Session.Answer request × World σ :=
  let ended :=
    match request with
    | .close id => (world.sessions.find? id).toList ++ world.ended
    | _ => world.ended
  let (answer, sessions) := Session.Table.answer world.clock request world.sessions
  (answer, { world with sessions, ended })

/-- Note a call and let time pass before it. -/
def noting (surroundings : Surroundings σ) (call : Call) (world : World σ) : World σ :=
  let (microseconds, outside) := surroundings.elapsed world.outside
  { world with clock := world.clock.after microseconds, calls := call :: world.calls, outside }

/-- Carry out a call. -/
def carryOut (surroundings : Surroundings σ) : (call : Call) -> World σ -> Answer call × World σ
  | .agent call, world =>
    let (answer, outside) := surroundings.agent call world.outside
    (answer, { world with outside })
  | .drawKey, world => (world.keys.next, { world with keys := world.keys.advance })
  | .now, world => (world.clock, world)
  | .freshId, world =>
    (identifier world.identifiers, { world with identifiers := world.identifiers + 1 })
  | .readCache key, world =>
    answerCache surroundings (.readCache key) world fun now => Store.Cache.get key now
  | .writeCache key value lifetime, world =>
    answerCache surroundings (.writeCache key value lifetime) world fun now =>
      Store.Cache.set key value lifetime now
  | .deleteCache key, world =>
    answerCache surroundings (.deleteCache key) world fun _ cache => (.ok (), cache.delete key)
  | .saveDocument project name content language, world =>
    orRefusal surroundings (.saveDocument project name content language) world fun world =>
      ((), { world with
        documents := world.documents.save project name content language world.clock })
  | .discardDrafts project name, world =>
    orRefusal surroundings (.discardDrafts project name) world fun world =>
      let (count, documents) := world.documents.discardDrafts project name
      (count, { world with documents })
  | .countDrafts project, world =>
    orRefusal surroundings (.countDrafts project) world fun world =>
      (world.documents.countDrafts project, world)
  | .promoteDrafts project, world =>
    orRefusal surroundings (.promoteDrafts project) world fun world =>
      ((), { world with
        documents := (world.documents.transact (Store.Documents.publication project)).2 })
  | .session request, world => world.answerSession request
  | .report event, world => orRefusal surroundings (.report event) world fun world => ((), world)
  | .settled count total, world =>
    orRefusal surroundings (.settled count total) world fun world => ((), world)
  | .choose count, world =>
    let (index, outside) := surroundings.choose count world.outside
    (index, { world with outside })

/-- Answer a call. -/
def answer (surroundings : Surroundings σ) (call : Call) (world : World σ) :
    Answer call × World σ :=
  carryOut surroundings call (noting surroundings call world)

/-- Run an activity in the world. -/
def run {α : Type} (surroundings : Surroundings σ) (activity : Doing α) (world : World σ) :
    α × World σ :=
  activity.run (answer surroundings) world

/-- The events reported so far. -/
def events (world : World σ) : List Event :=
  world.calls.reverse.filterMap fun
    | .report event => some event
    | _ => none

/-- The requests made to the model so far. -/
def requests (world : World σ) : List Agent.ChatRequest :=
  world.calls.reverse.filterMap fun
    | .agent (.chat request) => some request
    | _ => none

/-- The settlements told so far. -/
def settlements (world : World σ) : List (Nat × Nat) :=
  world.calls.reverse.filterMap fun
    | .settled count total => some (count, total)
    | _ => none

end World

end RepoSurvey.Analysis

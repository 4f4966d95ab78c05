import RepoSurvey.Proofs.Activity.Attempts
import RepoSurvey.Service.Reception

/-!
# The traffic of a service

A service handles requests and goes on with its runs in the background, one call after another, and whose turn it is
to make the next call is open. A move says whose turn it is, so that a list of moves is an order in which everything
advances: `Traffic.after` says what comes of it. To respond to a request at once, and to go on with its run as far as
it goes without a model, is one order among others: `exists_moves_respond`. A request registers a run only for a URL
that it found without one: `heeds_respond`.

Nothing is claimed here about which orders are likely, or that whoever waits for a turn gets one.
-/

namespace RepoSurvey.Service

open Activity (Abides)
open Analysis (Attempt Context Problem Progress Result Surroundings World)
open Schema (Part)

/-! ## Parts of handling -/

section Parts

variable {α : Type} {conditions : Activity.Terms Call Answer} {request : Request}

/-- A single call may be asked. -/
theorem abides_ask {call : Call} (may : conditions.asks call) : Abides conditions (Handling.ask call) :=
  ⟨may, fun _ _ => trivial⟩

/-- What is done for analyses keeps to terms if its calls do. -/
theorem abides_attempt {attempt : Attempt α}
    (embedded : (Activity.embed Call.analysis (fun _ answer => answer) attempt.run : Activity Call Answer _).Keeps
      conditions fun _ => True) : Abides conditions (Handling.attempt attempt) := by
  refine Activity.keeps_bind.mpr (embedded.mono fun outcome _ => ?_)
  cases outcome <;> trivial

/-- A query is read without any call. -/
theorem abides_withQuery {parts : Part α α} {next : α -> Handling Response}
    (each : ∀ found, (Schema.Codec.record "" parts).read request.queryObject = .valid found ->
      Abides conditions (next found)) : Abides conditions (withQuery request parts next) := by
  unfold withQuery
  split
  · next found isFound => exact each found isFound
  · exact Activity.abides_pure _

/-- Whether a service is configured is known without any call. -/
theorem abides_configured {context : Option Context} {next : Context -> Handling Response}
    (each : ∀ context, Abides conditions (next context)) : Abides conditions (configured context next) := by
  unfold configured
  split
  · exact each _
  · exact Activity.abides_pure _

/-- A value is written without any call. -/
theorem abides_written (value : Json) : Abides conditions (written value) := by
  unfold written
  split
  · exact Activity.abides_pure _
  · exact Activity.abides_throw _

/-- Whether a call looks at sessions or documents. -/
def Call.IsLook : Call -> Prop
  | .sessionStats | .documentNames _ _ | .document _ _ _ => True
  | _ => False

/-- What is asked about progress, results, sessions and documents keeps to terms if looks at records, results, the
clock, sessions and documents do. -/
theorem abides_answerRoute {context : Option Context} {route : Route} (other : route ≠ .analyses)
    (gets : ∀ url, route = .progress -> (Schema.Codec.record "" urlPart).read request.queryObject = .valid url ->
      Abides conditions (Handling.attempt (Progress.get url)))
    (finds : ∀ query, route = .result -> (Schema.Codec.record "" resultPart).read request.queryObject = .valid query ->
      Abides conditions
        (Handling.attempt (Analysis.readCache (Analysis.resultKey query.url query.analysisType.name))))
    (clock : Abides conditions (Handling.attempt Analysis.present))
    (looks : ∀ call, call.IsLook -> conditions.asks call) : Abides conditions (answerRoute context request route) := by
  cases route with
  | health => exact Activity.abides_pure _
  | analyses => exact absurd rfl other
  | progress =>
    refine abides_withQuery fun url isUrl => abides_configured fun _ => ?_
    refine (gets url rfl isUrl).andThen fun found => ?_
    cases found with
    | none => exact Activity.abides_pure _
    | some record => exact abides_written _
  | result =>
    refine abides_withQuery fun query isQuery => abides_configured fun _ => ?_
    refine (finds query rfl isQuery).andThen fun found => ?_
    cases found with
    | none => exact Activity.abides_pure _
    | some value =>
      refine clock.andThen fun now => ?_
      split
      · exact abides_written _
      · exact Activity.abides_throw _
  | sessions =>
    exact abides_configured fun _ => (abides_ask (looks .sessionStats trivial)).andThen fun _ => abides_written _
  | documentList project =>
    refine abides_withQuery fun language _ => abides_configured fun _ => ?_
    exact (abides_ask (looks (.documentNames project language) trivial)).andThen fun _ => Activity.abides_pure _
  | document project name =>
    refine abides_withQuery fun language _ => abides_configured fun _ => ?_
    refine (abides_ask (looks (.document project name language) trivial)).andThen fun content => ?_
    split <;> exact Activity.abides_pure _

end Parts

/-! ## Handlers -/

/-- What an answer says about the URL that a request may register a run for: the one that was last found without a
run under way, as long as none was registered for it. -/
def Call.vacancy (vacant : Option String) : (call : Call) -> Answer call -> Option String
  | .isRunning url, (running : Bool) => if running then none else some url
  | .register _, _ => none
  | _, _ => vacant

/-- A request that is being handled: the URL that it may register a run for, and what is left to be done. -/
structure Handler where
  vacant : Option String
  rest : Activity Call Answer (Except Failure Response)

/-- Whether a request is about to start a run of a URL: it found none under way and has not registered one yet. -/
def Handler.isStarting (url : String) : Handler -> Bool
  | ⟨vacant, .call _ _⟩ => vacant == some url
  | ⟨_, .done _⟩ => false

/-- Whether an activity registers a run only for the URL that it found without one. -/
def Heeds {α : Type} (vacant : Option String) : Activity Call Answer α -> Prop
  | .done _ => True
  | .call call next =>
    (∀ request, call = .register request -> vacant = some request.repositoryUrl) ∧
      ∀ answer, Heeds (call.vacancy vacant answer) (next answer)

namespace Call

/-- Whether a call neither asks for a run under way nor registers one. -/
def IsPlain : Call -> Prop
  | .isRunning _ | .register _ => False
  | _ => True

/-- Plain calls say nothing about the URL that a run may be registered for. -/
theorem IsPlain.vacancy {call : Call} (plain : call.IsPlain) (vacant : Option String) (answer : Answer call) :
    call.vacancy vacant answer = vacant := by
  cases call <;> first | exact plain.elim | rfl

end Call

section Heeding

variable {α β : Type} {vacant : Option String} {context : Context}

/-- What begins with plain calls heeds what it is told if it does so after them. -/
theorem heeds_bind {activity : Activity Call Answer α} {next : α -> Activity Call Answer β}
    (plain : activity.Keeps (Activity.asking Answer Call.IsPlain) fun value => Heeds vacant (next value)) :
    Heeds vacant (Activity.bind activity next) := by
  induction activity with
  | done value => exact plain
  | call call onward inductionHypothesis =>
    refine ⟨fun request isRegister => ?_, fun answer => ?_⟩
    · exact (isRegister ▸ plain.1 : (Call.register request).IsPlain).elim
    · rw [Call.IsPlain.vacancy plain.1]
      exact inductionHypothesis answer (plain.2 answer trivial)

/-- What makes plain calls only registers nothing. -/
theorem heeds_of_abides {handling : Handling α} (plain : Abides (Activity.asking Answer Call.IsPlain) handling) :
    Heeds vacant handling.run := by
  rw [← Activity.bind_done handling.run]
  exact heeds_bind (Activity.Keeps.mono plain fun _ _ => trivial)

/-- What is done for analyses makes plain calls. -/
theorem abides_plain (attempt : Attempt α) :
    Abides (Activity.asking Answer Call.IsPlain) (Handling.attempt attempt) :=
  abides_attempt (Activity.keeps_embed (fun _ => trivial) _)

/-- Whoever starts an analysis looks for a run first and registers one only if there is none under way. -/
theorem heeds_startAnalysis (request : Analysis.Request) : Heeds none (startAnalysis context request).run := by
  refine ⟨nofun, fun (running : Bool) => ?_⟩
  cases running with
  | true => trivial
  | false =>
    have created := abides_plain (Progress.create context.progressLifetime request.repositoryUrl)
    refine @heeds_bind _ _ _ (Handling.attempt (Progress.create context.progressLifetime request.repositoryUrl)).run _
      (Activity.Keeps.mono created fun outcome _ => ?_)
    cases outcome with
    | error failure => trivial
    | ok record => exact ⟨fun _ same => by cases same; rfl, fun _ => trivial⟩

/-- Every request registers a run only for a URL that it found without one. -/
theorem heeds_respond (context : Option Context) (request : Request) : Heeds none (respond context request).run := by
  unfold respond
  split
  · next route _ =>
    split
    · by_cases analyses : route = .analyses
      · subst analyses
        simp only [answerRoute]
        split
        · trivial
        · trivial
        · trivial
        · cases context with
          | none => trivial
          | some context => exact heeds_startAnalysis _
      · refine heeds_of_abides (abides_answerRoute analyses (fun _ _ _ => abides_plain _) (fun _ _ _ => abides_plain _)
          (abides_plain _) fun call look => ?_)
        cases call <;> trivial
    · trivial
  · split <;> trivial

end Heeding

/-! ## Traffic -/

namespace State

variable {σ : Type}

/-- Register a run that waits for its first turn. -/
def enroll (context : Context) (request : Analysis.Request) (state : State σ) : State σ :=
  { state with
    register := state.register.add request.repositoryUrl
    background := state.background ++
      [⟨state.register.issued, request.repositoryUrl, (Analysis.runRequest context ⟨false⟩ request).run⟩] }

/-- Answer a call of a request; a run that is registered waits for its first turn. -/
def reply (surroundings : Surroundings σ) (context : Option Context) :
    (call : Call) -> State σ -> Answer call × State σ
  | .register request, state => ((), (context.map fun context => state.enroll context request).getD state)
  | call, state => state.answer surroundings context call

end State

/-- A service at work with the requests that it handles. -/
structure Traffic (σ : Type) where
  state : State σ
  handlers : List Handler

/-- Whose turn it is: a request comes in, or one that is handled, or a run in the background, makes its next call or
comes to its end. -/
inductive Move where
  | arrives (request : Request)
  | handles (index : Nat)
  | works (index : Nat)
  deriving DecidableEq, Repr

namespace Traffic

variable {σ : Type}

/-- A service without runs and requests. -/
def start (world : World σ) : Traffic σ := ⟨.start world, []⟩

/-- What comes of a turn. Nothing comes of the turn of a request or run that is not there. -/
def next (surroundings : Surroundings σ) (context : Option Context) (traffic : Traffic σ) : Move -> Traffic σ
  | .arrives request => { traffic with handlers := traffic.handlers ++ [⟨none, (respond context request).run⟩] }
  | .handles index =>
    match traffic.handlers[index]? with
    | none => traffic
    | some ⟨_, .done _⟩ => { traffic with handlers := traffic.handlers.eraseIdx index }
    | some ⟨vacant, .call call next⟩ =>
      let (answer, state) := traffic.state.reply surroundings context call
      ⟨state, traffic.handlers.set index ⟨call.vacancy vacant answer, next answer⟩⟩
  | .works index =>
    match traffic.state.background[index]? with
    | none => traffic
    | some ⟨number, url, .done _⟩ =>
      { traffic with
        state := { traffic.state with
          register := traffic.state.register.finish number url
          background := traffic.state.background.eraseIdx index } }
    | some ⟨number, url, .call call next⟩ =>
      let (answer, world) := traffic.state.world.answer surroundings call
      { traffic with
        state := { traffic.state with
          world
          background := traffic.state.background.set index ⟨number, url, next answer⟩ } }

/-- What comes of turns one after another. -/
def after (surroundings : Surroundings σ) (context : Option Context) (traffic : Traffic σ) (moves : List Move) :
    Traffic σ := moves.foldl (next surroundings context) traffic

/-- The runs of a URL that are under way. -/
def underWay (url : String) (traffic : Traffic σ) : List Background :=
  traffic.state.background.filter fun run => run.url == url

/-- The number of requests that are about to start a run of a URL. -/
def starting (url : String) (traffic : Traffic σ) : Nat := traffic.handlers.countP (Handler.isStarting url)

/-! ### One after another -/

section Orders

variable {surroundings : Surroundings σ} {context : Option Context} {state : State σ} {handlers : List Handler}
  {world : World σ} {register : Register} {background : List Background} {number : Nat} {url : String}

/-- Turns in a row. -/
theorem after_append (traffic : Traffic σ) (first second : List Move) :
    traffic.after surroundings context (first ++ second) =
      (traffic.after surroundings context first).after surroundings context second := List.foldl_append

/-- The turn of the last request with a call to make. -/
theorem next_handles_call {vacant : Option String} {call : Call}
    {onward : Answer call -> Activity Call Answer (Except Failure Response)} :
    (⟨state, handlers ++ [⟨vacant, .call call onward⟩]⟩ : Traffic σ).next surroundings context
        (.handles handlers.length) =
      ⟨(state.reply surroundings context call).2, handlers ++
        [⟨call.vacancy vacant (state.reply surroundings context call).1,
          onward (state.reply surroundings context call).1⟩]⟩ := by
  simp [next]

/-- The turn of the last request when nothing is left to be done for it. -/
theorem next_handles_done {vacant : Option String} {response : Except Failure Response} :
    (⟨state, handlers ++ [⟨vacant, .done response⟩]⟩ : Traffic σ).next surroundings context
        (.handles handlers.length) = ⟨state, handlers⟩ := by
  simp [next, List.eraseIdx_append_of_length_le]

/-- A run in the background comes to where it waits, if it has its turns. -/
theorem exists_moves_runUntil (waits : Analysis.Call -> Bool) (run : Analysis.Doing (Except Problem Result)) :
    ∃ moves, (⟨⟨world, register, background ++ [⟨number, url, run⟩]⟩, handlers⟩ : Traffic σ).after surroundings
        context moves =
      ⟨⟨(run.runUntil waits (World.answer surroundings) world).2, register, background ++
        [⟨number, url, (run.runUntil waits (World.answer surroundings) world).1⟩]⟩, handlers⟩ := by
  induction run generalizing world with
  | done outcome => exact ⟨[], rfl⟩
  | call call onward inductionHypothesis =>
    unfold Activity.runUntil
    split
    · exact ⟨[], rfl⟩
    · obtain ⟨moves, reached⟩ := @inductionHypothesis (World.answer surroundings call world).1
        (World.answer surroundings call world).2
      refine ⟨.works background.length :: moves, Eq.trans ?_ reached⟩
      simp [after, next]

/-- The turn of the last run when nothing is left of it. -/
theorem next_works_done {outcome : Except Problem Result} :
    (⟨⟨world, register, background ++ [⟨number, url, .done outcome⟩]⟩, handlers⟩ : Traffic σ).next surroundings context
        (.works background.length) = ⟨⟨world, register.finish number url, background⟩, handlers⟩ := by
  simp [next, List.eraseIdx_append_of_length_le]

/-- A run that is begun is registered, has its turns up to where it needs its model, and ends if it does not. -/
theorem exists_moves_begin (runs : Context) (request : Analysis.Request) :
    ∃ moves, (⟨state.enroll runs request, handlers⟩ : Traffic σ).after surroundings context moves =
      ⟨state.begin surroundings runs request, handlers⟩ := by
  obtain ⟨moves, reached⟩ := @exists_moves_runUntil σ surroundings context handlers state.world
    (state.register.add request.repositoryUrl) state.background state.register.issued request.repositoryUrl
    State.needsModel (Analysis.runRequest runs ⟨false⟩ request).run
  simp only [State.begin]
  rcases ran : Activity.runUntil State.needsModel (World.answer surroundings)
    (Analysis.runRequest runs ⟨false⟩ request).run state.world with ⟨rest, world⟩
  rw [ran] at reached
  cases rest with
  | done outcome =>
    refine ⟨moves ++ [.works state.background.length], (after_append _ _ _).trans ?_⟩
    have ended := @next_works_done σ surroundings context handlers world (state.register.add request.repositoryUrl)
      state.background state.register.issued request.repositoryUrl outcome
    exact (congrArg (after surroundings context · [.works state.background.length]) reached).trans ended
  | call call onward => exact ⟨moves, reached⟩

/-- What a service answers to a call at once, it can come to answer. -/
theorem exists_moves_answer (call : Call) (state : State σ) :
    (state.reply surroundings context call).1 = (state.answer surroundings context call).1 ∧
      ∃ moves, (⟨(state.reply surroundings context call).2, handlers⟩ : Traffic σ).after surroundings context moves =
        ⟨(state.answer surroundings context call).2, handlers⟩ := by
  cases call with
  | register request =>
    refine ⟨rfl, ?_⟩
    cases context with
    | none => exact ⟨[], rfl⟩
    | some runs => exact exists_moves_begin runs request
  | _ => exact ⟨rfl, [], rfl⟩

/-- A request that is handled has its turns to the end. -/
theorem exists_moves_handled (vacant : Option String) (rest : Activity Call Answer (Except Failure Response))
    (state : State σ) : ∃ moves, (⟨state, handlers ++ [⟨vacant, rest⟩]⟩ : Traffic σ).after surroundings context moves =
      ⟨(rest.run (State.answer surroundings context) state).2, handlers⟩ := by
  induction rest generalizing vacant state with
  | done response => exact ⟨[.handles handlers.length], next_handles_done⟩
  | call call onward inductionHypothesis =>
    obtain ⟨same, begun, isBegun⟩ := @exists_moves_answer σ surroundings context (handlers ++
      [⟨call.vacancy vacant (state.reply surroundings context call).1,
        onward (state.reply surroundings context call).1⟩]) call state
    obtain ⟨moves, reached⟩ := inductionHypothesis (state.reply surroundings context call).1
      (call.vacancy vacant (state.reply surroundings context call).1) (state.answer surroundings context call).2
    refine ⟨.handles handlers.length :: (begun ++ moves), ?_⟩
    change after surroundings context (next surroundings context _ _) _ = _
    rw [next_handles_call, after_append, isBegun, reached, same]
    rfl

/-- A service that responds to a request at once gives everyone turns in some order. -/
theorem exists_moves_respond (request : Request) (state : State σ) :
    ∃ moves, (⟨state, handlers⟩ : Traffic σ).after surroundings context moves =
      ⟨(state.respond surroundings context request).2, handlers⟩ := by
  obtain ⟨moves, reached⟩ := @exists_moves_handled σ surroundings context handlers none
    (respond context request).run state
  exact ⟨.arrives request :: moves, reached⟩

end Orders

end Traffic

end RepoSurvey.Service

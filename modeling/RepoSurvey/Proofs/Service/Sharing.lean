import RepoSurvey.Proofs.Analysis.Slots
import RepoSurvey.Proofs.Service.Crossings

/-!
# Requests that share a cache

A request to the service is about slots of the cache: those of the analysis that it starts, or the one that it asks for.
Its handling keeps to them (`abides_sharing`), and so does the run that it starts, as long as progress records stand
under the keys of their URLs. The service keeps it so, whosever turn it is (`Traffic.Filing.next`). So in every order a
slot is left alone by all requests but its own: `sharing_account`.

Requests of one URL share its progress record, also when they are for different types of analysis. Nothing is claimed
here about the order in which they write it.
-/

namespace RepoSurvey.Service

open Activity (Abides Terms)
open Analysis (AnalysisType Attempt Context Filed Listening Slot Spares Surroundings World filing progressKey resultKey
  runRequest)
open Store (Cache)

/-! ## Handling -/

/-- The slots of a request: those of the analysis that it starts, or the one that it asks for. -/
def Request.slots (request : Request) : List Slot :=
  match Route.ofPath? request.path with
  | some .analyses =>
    match readBody request.body with
    | .ok wanted => wanted.slots
    | .error _ => []
  | some .progress =>
    match (Schema.Codec.record "" urlPart).read request.queryObject with
    | .valid url => [.progress url]
    | .invalid _ => []
  | some .result =>
    match (Schema.Codec.record "" resultPart).read request.queryObject with
    | .valid query => [.result query.url query.analysisType]
    | .invalid _ => []
  | _ => []

namespace Call

/-- Whether a call keeps to slots of the cache, and a run that it registers does. -/
def KeepsTo (slots : List Slot) : Call -> Prop
  | .analysis call => call.KeepsTo slots
  | .register wanted => wanted.slots ⊆ slots
  | _ => True

/-- Whether a call leaves caches filed. -/
def LeavesFiled : Call -> Prop
  | .analysis call => call.LeavesFiled
  | _ => True

/-- Whether an answer comes from a filed cache. -/
def TellsFiled : (call : Call) -> Answer call -> Prop
  | .analysis call, answer => call.TellsFiled answer
  | _, _ => True

end Call

/-- The terms of requests that keep to slots of a filed cache. -/
def sharing (slots : List Slot) : Terms Call Answer where
  told request answer := request.TellsFiled answer
  asks request := request.KeepsTo slots ∧ request.LeavesFiled

section Handling

variable {α : Type} {slots : List Slot}

/-- What is done for analyses keeps to the slots that it does by itself. -/
theorem abides_filed {attempt : Attempt α} (abides : Abides (filing slots) attempt) :
    Abides (sharing slots) (Handling.attempt attempt) := by
  have keeps : attempt.run.Keeps (filing slots) fun _ => True := Activity.Keeps.mono abides fun _ _ => trivial
  exact abides_attempt (keeps.embed (fun _ asks => asks) fun _ _ told => told)

/-- To start an analysis is to write into its slots and to register its run. -/
theorem abides_startAnalysis (context : Context) (wanted : Analysis.Request) :
    Abides (sharing wanted.slots) (startAnalysis context wanted) := by
  have looked : Abides (sharing wanted.slots) (isRunning wanted.repositoryUrl) := abides_ask ⟨trivial, trivial⟩
  refine looked.andThen fun running => ?_
  split
  · exact Activity.abides_pure _
  · refine (abides_filed (Analysis.notes_filing (.head _)).create).andThen fun _ => ?_
    have registered : Abides (sharing wanted.slots) (register wanted) :=
      abides_ask ⟨List.Subset.refl _, trivial⟩
    exact registered.andThen fun _ => Activity.abides_pure _

/-- A request keeps to its slots. -/
theorem abides_sharing (context : Option Context) (request : Request) :
    Abides (sharing request.slots) (respond context request) := by
  unfold respond
  split
  · next route isRoute =>
    split
    · by_cases analyses : route = .analyses
      · subst analyses
        simp only [answerRoute]
        cases isRead : readBody request.body with
        | error fault => cases fault <;> trivial
        | ok wanted =>
          have same : request.slots = wanted.slots := by simp only [Request.slots, isRoute, isRead]
          rw [same]
          exact abides_configured fun context => abides_startAnalysis context wanted
      · refine abides_answerRoute analyses (fun url isProgress isUrl => ?_) (fun query isResult isQuery => ?_)
          (abides_filed (Analysis.fares_anyPresent (Analysis.asks_elsewhere rfl))) fun call look => ?_
        · have same : request.slots = [.progress url] := by simp only [Request.slots, isRoute, isProgress, isUrl]
          rw [same]
          exact abides_filed (Analysis.reads_filing (.head _)).get.abides
        · have same : request.slots = [.result query.url query.analysisType] := by
            simp only [Request.slots, isRoute, isResult, isQuery]
          rw [same]
          exact abides_filed (Analysis.abides_readCache (@Analysis.asks_read _ (.result _ _) (.head _)))
        · cases call <;> first | exact look.elim | exact ⟨trivial, trivial⟩
    · trivial
  · split <;> trivial

end Handling

/-! ## Turns -/

/-- The request that comes in with a move, if one does. -/
def Move.requests : Move -> List Request
  | .arrives request => [request]
  | _ => []

/-- Whether a cache is the same as an earlier one, or holds the same in all but the slots of one of some requests. -/
def IsTurnOf (requests : List Request) (before after : Cache) : Prop :=
  after = before ∨ ∃ request ∈ requests, Spares request.slots before after

variable {σ : Type} {surroundings : Surroundings σ} {context : Option Context} {requests : List Request}

/-- Whether the cache of a service is filed, and each run in the background keeps to the slots of one of some
requests. -/
structure State.Filing (requests : List Request) (state : State σ) : Prop where
  cache : Filed state.world.cache
  background : ∀ run ∈ state.background, ∃ request ∈ requests, run.rest.Keeps (filing request.slots) fun _ => True

/-- Whether the cache is filed, and whatever is under way keeps to the slots of one of some requests. -/
structure Traffic.Filing (requests : List Request) (traffic : Traffic σ) : Prop where
  state : traffic.state.Filing requests
  handlers : ∀ handler ∈ traffic.handlers, ∃ request ∈ requests,
    handler.rest.Keeps (sharing request.slots) fun _ => True

/-- More requests may be under way. -/
theorem Traffic.Filing.mono {traffic : Traffic σ} (files : traffic.Filing requests) (more : List Request) :
    traffic.Filing (requests ++ more) where
  state.cache := files.state.cache
  state.background run member := by
    obtain ⟨request, isRequest, keeps⟩ := files.state.background run member
    exact ⟨request, List.mem_append_left _ isRequest, keeps⟩
  handlers handler member := by
    obtain ⟨request, isRequest, keeps⟩ := files.handlers handler member
    exact ⟨request, List.mem_append_left _ isRequest, keeps⟩

/-- A call of a request is answered from a filed cache, and leaves it filed and all slots alone but those of the
request. -/
theorem State.Filing.reply {state : State σ} (files : state.Filing requests) {request : Request}
    (member : request ∈ requests) {call : Call} (asks : (sharing request.slots).asks call) :
    call.TellsFiled (state.reply surroundings context call).1 ∧
      (state.reply surroundings context call).2.Filing requests ∧
      Spares request.slots state.world.cache (state.reply surroundings context call).2.world.cache := by
  cases call with
  | analysis call =>
    obtain ⟨tells, cache⟩ := files.cache.answer asks.2
    exact ⟨tells, ⟨cache, files.background⟩, Analysis.spares_answer asks.1 _⟩
  | register wanted =>
    refine ⟨trivial, ?_⟩
    cases context with
    | none => exact ⟨files, fun _ _ => rfl⟩
    | some runs =>
      have keeps : (runRequest runs ⟨false⟩ wanted).run.Keeps (filing wanted.slots) fun _ => True :=
        Activity.Keeps.mono (Analysis.abides_filing runs ⟨false⟩ wanted) fun _ _ => trivial
      refine ⟨⟨files.cache, List.forall_mem_append.mpr ⟨files.background, List.forall_mem_singleton.mpr ?_⟩⟩,
        fun _ _ => rfl⟩
      exact ⟨request, member, Analysis.filing_mono keeps asks.1⟩
  | _ => exact ⟨trivial, files, fun _ _ => rfl⟩

/-- Every turn leaves the cache filed, and all slots alone but those of one request. -/
theorem Traffic.Filing.next {traffic : Traffic σ} (files : traffic.Filing requests) (move : Move) :
    (traffic.next surroundings context move).Filing (requests ++ move.requests) ∧
      IsTurnOf requests traffic.state.world.cache (traffic.next surroundings context move).state.world.cache := by
  have still := files.mono move.requests
  cases move with
  | arrives request =>
    refine ⟨⟨still.state, List.forall_mem_append.mpr ⟨still.handlers, List.forall_mem_singleton.mpr ?_⟩⟩, .inl rfl⟩
    refine ⟨request, List.mem_append_right _ (.head _), ?_⟩
    exact Activity.Keeps.mono (abides_sharing context request) fun _ _ => trivial
  | handles index =>
    simp only [Traffic.next, Move.requests, List.append_nil]
    split
    · exact ⟨files, .inl rfl⟩
    · exact ⟨⟨files.state, fun handler member => files.handlers handler (List.mem_of_mem_eraseIdx member)⟩, .inl rfl⟩
    · next vacant call onward isThere =>
      obtain ⟨request, isRequest, asks, later⟩ := files.handlers _ (List.mem_of_getElem? isThere)
      obtain ⟨tells, state, spares⟩ :=
        @State.Filing.reply σ surroundings context requests _ files.state request isRequest call asks
      refine ⟨⟨state, fun handler member => ?_⟩, .inr ⟨request, isRequest, spares⟩⟩
      rcases List.mem_or_eq_of_mem_set member with member | rfl
      · exact files.handlers handler member
      · exact ⟨request, isRequest, later _ tells⟩
  | works index =>
    simp only [Traffic.next, Move.requests, List.append_nil]
    split
    · exact ⟨files, .inl rfl⟩
    · refine ⟨⟨⟨files.state.cache, fun run member => ?_⟩, files.handlers⟩, .inl rfl⟩
      exact files.state.background run (List.mem_of_mem_eraseIdx member)
    · next number url call onward isThere =>
      obtain ⟨request, isRequest, asks, later⟩ := files.state.background _ (List.mem_of_getElem? isThere)
      obtain ⟨tells, cache⟩ := files.state.cache.answer asks.2
      refine ⟨⟨⟨cache, fun run member => ?_⟩, files.handlers⟩,
        .inr ⟨request, isRequest, Analysis.spares_answer asks.1 _⟩⟩
      rcases List.mem_or_eq_of_mem_set member with member | rfl
      · exact files.state.background run member
      · exact ⟨request, isRequest, later _ tells⟩

/-- A slot of none of the requests is left alone. -/
theorem IsTurnOf.kept {before after : Cache} (turn : IsTurnOf requests before after) {slot : Slot}
    (other : ∀ request ∈ requests, slot ∉ request.slots) : after.kept? slot.key = before.kept? slot.key := by
  rcases turn with rfl | ⟨request, member, spares⟩
  · rfl
  · exact spares slot (other request member)

/-- In every order, the cache stays filed, and the slots of none of the requests are left alone. -/
theorem Traffic.Filing.after {traffic : Traffic σ} (files : traffic.Filing requests) (moves : List Move) :
    (traffic.after surroundings context moves).Filing (requests ++ moves.flatMap Move.requests) ∧
      ∀ slot : Slot, (∀ request ∈ requests ++ moves.flatMap Move.requests, slot ∉ request.slots) ->
        (traffic.after surroundings context moves).state.world.cache.kept? slot.key =
          traffic.state.world.cache.kept? slot.key := by
  induction moves generalizing traffic requests with
  | nil =>
    rw [List.flatMap_nil, List.append_nil]
    exact ⟨files, fun _ _ => rfl⟩
  | cons move moves inductionHypothesis =>
    obtain ⟨next, turn⟩ := @Traffic.Filing.next σ surroundings context requests _ files move
    obtain ⟨last, rest⟩ := inductionHypothesis next
    rw [List.append_assoc, ← List.flatMap_cons] at last rest
    refine ⟨last, fun slot other => (rest slot other).trans (turn.kept fun request member => ?_)⟩
    exact other request (List.mem_append_left _ member)

/-- **Shared caches.** Whatever characters URLs hold, no two of them have one key for their progress records, no two
URLs or types of analysis have one key for their results, and no key is of both kinds. So runs and requests look into
and change nothing but their own slots, provided that what they are told is the progress record of a URL names that URL.
In whatever order requests and runs advance, the cache tells only such records if it does at the beginning; each turn
changes slots of one request at most, and a slot that no request is about holds what it held. -/
theorem sharing_account {σ : Type} (surroundings : Surroundings σ) (context : Option Context) (world : World σ) :
    ((∀ url other, progressKey url = progressKey other -> url = other) ∧
        (∀ url other (kind otherKind : AnalysisType),
          resultKey url kind.name = resultKey other otherKind.name -> url = other ∧ kind = otherKind) ∧
        ∀ url other (kind : AnalysisType), progressKey url ≠ resultKey other kind.name) ∧
      (∀ (runs : Context) (listening : Listening) (request : Analysis.Request) way outcome,
        (runRequest runs listening request).run.Goes way outcome ->
          (∀ exchange ∈ way, exchange.request.TellsFiled exchange.answer) ->
            ∀ exchange ∈ way, exchange.request.KeepsTo request.slots) ∧
      (∀ (request : Request) way outcome, (respond context request).run.Goes way outcome ->
        (∀ exchange ∈ way, exchange.request.TellsFiled exchange.answer) ->
          ∀ exchange ∈ way, exchange.request.KeepsTo request.slots) ∧
      (Filed world.cache -> ∀ moves, let traffic := (Traffic.start world).after surroundings context moves
        Filed traffic.state.world.cache ∧
          (∀ slot : Slot, (∀ request ∈ moves.flatMap Move.requests, slot ∉ request.slots) -> ∀ moment,
            (traffic.state.world.cache.get slot.key moment).1 = (world.cache.get slot.key moment).1) ∧
          ∀ move, IsTurnOf (moves.flatMap Move.requests) traffic.state.world.cache
            (traffic.next surroundings context move).state.world.cache) := by
  refine ⟨⟨Analysis.progressKey_injective, fun _ _ _ _ => Analysis.eq_of_resultKey, fun url other kind same =>
    Analysis.resultKey_ne_progressKey other kind.name url same.symm⟩, ?_, ?_, fun filed moves => ?_⟩
  · intro runs listening request way outcome goes told exchange member
    exact ((Analysis.abides_filing runs listening request).asks goes told exchange member).1
  · intro request way outcome goes told exchange member
    exact ((abides_sharing context request).asks goes told exchange member).1
  · have begins : (Traffic.start world).Filing [] := ⟨⟨filed, nofun⟩, nofun⟩
    obtain ⟨files, kept⟩ := @Traffic.Filing.after σ surroundings context [] _ begins moves
    refine ⟨files.state.cache, fun slot other moment => ?_, fun move => (files.next move).2⟩
    rw [Cache.get_fst, Cache.get_fst]
    exact congrArg (Cache.found moment) (kept slot other)

set_option maxRecDepth 100000 in
/-- Two requests for the repository of one URL cross. They share its progress record, and leave alone what belongs to a
URL that goes on with a colon. -/
theorem crossingRequests_share : Filed (World.untouched ([] : List String)).cache ∧
    (crossingTraffic.state.world.cache.held? (Slot.progress "u").key).isSome = true ∧
    ∀ moment, (crossingTraffic.state.world.cache.get (Slot.result "u:full" .full).key moment).1 = .ok none := by
  have filed : Filed (World.untouched ([] : List String)).cache := nofun
  obtain ⟨-, -, -, orders⟩ :=
    sharing_account (.reciting fun _ => none) (some Analysis.emptyContext) (World.untouched [])
  refine ⟨filed, by decide +kernel, (orders filed crossingMoves).2.1 (.result "u:full" .full) fun request member => ?_⟩
  obtain rfl : request = emptyPost := by simpa [crossingMoves, Move.requests] using member
  decide +kernel

end RepoSurvey.Service

import RepoSurvey.Proofs.Activity.Turns
import RepoSurvey.Proofs.Analysis.Runs

/-!
# Recited replies

Surroundings that recite answer the inquiries of agents with given texts in their order, refuse the calls
that they are to refuse, and let no time pass. A run among them can be followed to its end, and with a single
writer its tasks go one after another: `writeAll_one`.
-/

namespace RepoSurvey.Analysis

open Activity (Answered Exchange inTurn)

/-- Surroundings that recite the replies of agents and refuse some calls. -/
def Surroundings.reciting (refuses : Call -> Option String) : Surroundings (List String) where
  agent
    | .chat _, reply :: replies => (.answered ⟨reply, []⟩ false, replies)
    | .chat _, [] => (.cutOff, [])
    | .work _ _, replies => (.cutOff, replies)
    | .judge _, replies | .pause, replies => (false, replies)
  refusal call replies := (refuses call, replies)
  choose _ replies := (0, replies)
  elapsed replies := (0, replies)

/-- A world in which nothing has happened, with an empty cache in memory and replies to be recited. -/
def World.untouched (replies : List String) : World (List String) where
  clock := ⟨0⟩
  identifiers := 0
  keys := ⟨"key", [], 0⟩
  cache := .memory .empty
  documents := []
  sessions := .empty 1 1
  calls := []
  ended := []
  outside := replies

/-- A cache in which nothing is kept is orderly. -/
theorem orderly_untouched (owned : String -> Prop) (url : String) (replies : List String) :
    Orderly owned url (World.untouched replies).cache := by
  intro value held
  nomatch held

/-- A run finds no result when the cache finds nothing. -/
theorem findsNoResult_of_get {σ : Type} {surroundings : Surroundings σ} {world : World σ} {context : Context}
    {request : Request} (nothing : (world.cache.get
      (resultKey request.repositoryUrl request.analysisType.name) (world.next surroundings)).1 = .ok none) :
    FindsNoResult surroundings context request world := by
  intro value found
  obtain ⟨way, goes, answered⟩ := Activity.run_eq_iff.mp (Prod.ext found rfl)
  unfold lookUp at goes
  split at goes
  · obtain ⟨kept, rfl, isKept⟩ := goes_readCache_ok.mp goes
    obtain ⟨isAnswer, -⟩ := Activity.answered_cons.mp answered
    rw [World.cache_get_of_served isAnswer.symm] at nothing
    obtain rfl := Except.ok.inj nothing
    nomatch isKept
  · nomatch (Activity.goes_problem.mp goes).2
  · nomatch (Activity.goes_problem.mp goes).2

/-- With a single writer, tasks are written one after another. -/
theorem writeAll_one {context : Context} (one : context.concurrency = 1) (batch : Batch)
    (tell : Nat -> Nat -> Attempt Unit) (tasks : List DocumentTask) :
    writeAll context batch tell tasks = Activity.bind
      (inTurn (settleDocument tell tasks.length) 1
        ((tasks.zip (assignNames (tasks.map (·.title)))).map fun (task, docName) =>
          attemptDocument context batch task docName))
      fun outcomes => .done (.ofOutcomes (tasks.zip outcomes)) := by
  unfold writeAll
  dsimp only
  rw [one, Activity.sideBySide_one]
  rfl

/-! ## An empty repository -/

/-- A context with a single writer and an empty repository in it. -/
def emptyContext : Context where
  working := [("repo", .directory [])]
  operatingSystem := "os"
  processDirectory := "/"
  registry := []
  continuation := .outside
  maxIterations := 1
  prompts := ["overview", "dependencies", "core_features", "planner", "scheduler", "writer",
    "translator"].map fun name => (name, ⟨"role", "action"⟩)
  concurrency := 1
  primaryLanguage := "en"
  secondaryLanguage := "zh"
  resultLifetime := .ofSeconds 10
  progressLifetime := .ofSeconds 10

/-- A request for an analysis of the empty repository. -/
def emptyRequest (analysisType : AnalysisType) : Request := ⟨"u", "repo", analysisType, []⟩

/-- Replies for an analysis that comes to one document. -/
def emptyReplies : List String :=
  ["{}", "{}", "{}", "plan", "\x7b\"document_tasks\":[]\x7d", "\x7b\"document\":\"text\"\x7d",
    "\x7b\"document\":\"other\"\x7d"]

/-- The repository is a directory with nothing in it. -/
theorem emptyContext_checkout : emptyContext.checkout "repo" =
    ⟨⟨false, ["repo"]⟩, .ok (.directory ⟨[], [[("repo", .directory [])]], Files.linkLimit⟩)⟩ := by
  cbv

/-- The repository declares nothing. -/
theorem ofCheckout_empty : Survey.Dependencies.ofCheckout
    ⟨⟨false, ["repo"]⟩, .ok (.directory ⟨[], [[("repo", .directory [])]], Files.linkLimit⟩)⟩ = .ok .empty := by
  cbv

/-- Progress records are not over before the next call, as no time passes. -/
theorem emptyContext_swift (replies : List String) : emptyContext.progressLifetime.isOver
    ((Surroundings.reciting fun _ => none).elapsed replies).1 = .ok false :=
  Store.Lifetime.isOver_ofSeconds 10 0

/-- The run that the repository is analyzed in, among surroundings that refuse nothing. -/
def emptyRun : Doing (Except Problem Result) := (runRequest emptyContext ⟨true⟩ (emptyRequest .full)).run

/-- What the run exchanges with an untouched world in which some replies are recited. -/
def emptyExchanges (replies : List String) : List (Exchange Call Answer) :=
  runExchanges (.reciting fun _ => none) emptyContext ⟨true⟩ (emptyRequest .full) (.untouched replies)

set_option maxRecDepth 100000 in
/-- All calls of the run are served, and it returns a result with one document. -/
theorem emptyRun_returns : AllServed (emptyExchanges emptyReplies) ∧ ∃ result,
    (World.run (.reciting fun _ => none) emptyRun (.untouched emptyReplies)).1 = .ok result ∧
      result.documents.map (·.docName) = ["Overview"] ∧ result.failedDocuments = [] := by
  have computed : AllServed (emptyExchanges emptyReplies) ∧
      ((World.run (.reciting fun _ => none) emptyRun (.untouched emptyReplies)).1.toOption.map fun result =>
        (result.documents.map (·.docName), result.failedDocuments)) = some (["Overview"], []) := by
    -- The files are looked at beforehand: the kernel is slow at paths.
    simp only [emptyRun, emptyExchanges, runExchanges, runRequest, startRun, Running.outcome, Running.course,
      Running.advance, Running.inspect, Running.declaredDependencies, Running.writingStage,
      @writeAll_one emptyContext rfl, emptyRequest, emptyContext_checkout, ofCheckout_empty]
    decide +kernel
  obtain ⟨served, isResult⟩ := computed
  obtain ⟨result, returned, names⟩ := Option.map_eq_some_iff.mp isResult
  obtain ⟨documents, failures⟩ := Prod.mk.inj names
  exact ⟨served, result, ok_of_toOption returned, documents, failures⟩

set_option maxRecDepth 100000 in
/-- When nothing is replied, all calls of the run are served, and it fails. -/
theorem emptyRun_fails : AllServed (emptyExchanges []) ∧ ∃ problem,
    (World.run (.reciting fun _ => none) emptyRun (.untouched [])).1 = .error problem := by
  have computed : AllServed (emptyExchanges []) ∧
      (World.run (.reciting fun _ => none) emptyRun (.untouched [])).1.toOption = none := by
    simp only [emptyRun, emptyExchanges, runExchanges, runRequest, startRun, Running.outcome, Running.course,
      Running.advance, Running.inspect, Running.declaredDependencies, emptyRequest, emptyContext_checkout,
      ofCheckout_empty]
    decide +kernel
  obtain ⟨served, noResult⟩ := computed
  exact ⟨served, error_of_toOption noResult⟩

/-- Surroundings that refuse to hear of the end of a run. -/
def refusesEnd : Call -> Option String
  | .report event => if event.progress = 100 then some "sink" else none
  | _ => none

/-- What the run exchanges among surroundings that refuse to hear of its end. -/
def unheardExchanges : List (Exchange Call Answer) :=
  runExchanges (.reciting refusesEnd) emptyContext ⟨true⟩ (emptyRequest .full) (.untouched emptyReplies)

set_option maxRecDepth 100000 in
/-- When only its end is refused to be heard of, the run fails, but its documents are published. -/
theorem emptyRun_unheard : (∃ problem,
      (World.run (.reciting refusesEnd) emptyRun (.untouched emptyReplies)).1 = .error problem) ∧
    (unheardExchanges.filter fun exchange => !decide (exchange.request.Served exchange.answer)).length = 1 ∧
    ((World.run (.reciting refusesEnd) emptyRun (.untouched emptyReplies)).2.documents.variants
      (projectKey "u") .published).map (·.name) = ["Overview", "Overview", "_sidebar", "_sidebar"] := by
  have computed : (World.run (.reciting refusesEnd) emptyRun (.untouched emptyReplies)).1.toOption = none ∧
      (unheardExchanges.filter fun exchange => !decide (exchange.request.Served exchange.answer)).length = 1 ∧
      ((World.run (.reciting refusesEnd) emptyRun (.untouched emptyReplies)).2.documents.variants
        (projectKey "u") .published).map (·.name) = ["Overview", "Overview", "_sidebar", "_sidebar"] := by
    simp only [emptyRun, unheardExchanges, runExchanges, runRequest, startRun, Running.outcome, Running.course,
      Running.advance, Running.inspect, Running.declaredDependencies, Running.writingStage,
      @writeAll_one emptyContext rfl, emptyRequest, emptyContext_checkout, ofCheckout_empty]
    decide +kernel
  exact ⟨error_of_toOption computed.1, computed.2⟩

end RepoSurvey.Analysis

import RepoSurvey.Proofs.Analysis.Recording
import RepoSurvey.Proofs.Analysis.Stages

/-!
# Courses of runs

A course passes through its stages in order and stops in the stage that fails. `commence_cases` says that a
run begins in an orderly cache or not at all, whatever the cache held before; `fares_advance` says what it
comes to from there, and that nothing fails any more once there is a document to publish.
-/

namespace RepoSurvey.Analysis

open Activity (Answered Exchange Fares Terms)
open Clock (Moment)

variable {α : Type} {way : List (Exchange Call Answer)} {stage : Stage} {attempt : Attempt α}

/-! ## Single stages -/

/-- What is done during a stage goes as it would otherwise. -/
theorem run_during (stage : Stage) (attempt : Attempt α) :
    (during stage attempt).run = Activity.bind attempt.run fun
      | .ok value => .done (.ok value)
      | .error problem => .done (.error ⟨stage, problem⟩) := rfl

/-- What is done during a stage comes to the same, and a problem is a stop in the stage. -/
theorem goes_during {outcome : Except Stop α} :
    (during stage attempt).run.Goes way outcome ↔
      ∃ found, attempt.run.Goes way found ∧ outcome = found.mapError (Stop.mk stage) := by
  rw [run_during]
  exact Activity.goes_bind_done fun found => by cases found <;> rfl

/-- What succeeds during a stage succeeds. -/
theorem goes_during_ok {value : α} :
    (during stage attempt).run.Goes way (.ok value) ↔ attempt.run.Goes way (.ok value) := by
  rw [goes_during]
  constructor
  · rintro ⟨found, goes, same⟩
    exact mapError_eq_ok.mp same.symm ▸ goes
  · exact fun goes => ⟨.ok value, goes, rfl⟩

/-- What fails during a stage stops in the stage. -/
theorem goes_during_error {stop : Stop} :
    (during stage attempt).run.Goes way (.error stop) ↔
      ∃ problem, attempt.run.Goes way (.error problem) ∧ stop = ⟨stage, problem⟩ := by
  rw [goes_during]
  constructor
  · rintro ⟨found, goes, same⟩
    obtain ⟨problem, rfl, isStop⟩ := mapError_eq_error.mp same.symm
    exact ⟨problem, goes, isStop.symm⟩
  · rintro ⟨problem, goes, rfl⟩
    exact ⟨.error problem, goes, rfl⟩

variable {conditions : Terms Call Answer} {stops : Stop -> Prop} {succeeds : α -> Prop}

/-- What is done during a stage fares as it would otherwise. -/
theorem fares_during
    (fares : Fares conditions succeeds (fun problem => stops ⟨stage, problem⟩) attempt) :
    Fares conditions succeeds stops (during stage attempt) := by
  unfold Fares
  rw [run_during]
  refine Activity.keeps_bind.mpr (Activity.Keeps.mono fares fun outcome ending => ?_)
  cases outcome <;> exact ending

namespace Running

variable {run : Running} {context : Context}

/-- The call that notes a stage. -/
def entry (run : Running) (stage : Stage) : Call :=
  .session (.updateContext run.session [("stage", .str stage.name)])

/-- A stage is noted, and then its work is done. -/
theorem goes_entering_iff {outcome : Except Stop α} :
    (run.entering stage attempt).run.Goes way outcome ↔
      ∃ answer rest, way = ⟨run.entry stage, answer⟩ :: rest ∧
        (during stage attempt).run.Goes rest outcome := Activity.goes_call

/-- A stage fares as its work does. -/
theorem fares_entering (suits : run.Suits context conditions stops)
    (fares : Fares conditions succeeds (fun problem => stops ⟨stage, problem⟩) attempt) :
    Fares conditions succeeds stops (run.entering stage attempt) :=
  fares_during ((fares_enter suits stage).andThen fun _ => fares)

/-! ## Parts of courses -/

/-- Whether what was prepared was read from replies. -/
structure Preparation.IsReplied (preparation : Preparation) : Prop where
  overview : Replied Overview.codec preparation.overview
  graph : Replied Graph.codec preparation.graph
  features : Replied Features.codec preparation.features

/-- Whether a result is one that a run makes of its request, of what it found and was told, at a moment that is as
`timely` says. -/
structure Makes (run : Running) (timely : Moment -> Prop) (result : Result) : Prop where
  repositoryUrl : result.repositoryUrl = run.request.repositoryUrl
  analysisType : result.analysisType = run.request.analysisType
  metadata : result.metadata = run.request.metadata
  layout : result.layout = Survey.Structure.ofCheckout run.checkout
  dependencies : Survey.Dependencies.ofCheckout run.checkout = .ok result.dependencies
  quality : result.codeQuality = Survey.Quality.ofCheckout run.checkout
  overview : Replied Overview.codec result.overview
  graph : Replied Graph.codec result.dependencyGraph
  features : Replied Features.codec result.coreFeatures
  completedAt : ∃ now, timely now ∧ result.completedAt = .ofMoment now

/-- The stages before the writing of documents ask agents. -/
theorem fares_prepare (suits : run.Suits context conditions stops)
    (proper : ∀ stop, stop.IsProper -> stops stop) (findings : Findings) :
    Fares conditions Preparation.IsReplied stops (run.prepare context findings) := by
  refine (fares_entering suits (fares_overviewStage suits proper findings)).bind
    fun overview isOverview => ?_
  refine (fares_entering suits (fares_dependencyStage suits proper findings overview)).bind
    fun graph isGraph => ?_
  refine (fares_entering suits (fares_featureStage suits proper overview graph)).bind
    fun features areFeatures => ?_
  refine (fares_entering suits (fares_planningStage suits proper overview features)).andThen
    fun plan => ?_
  refine (fares_entering suits (fares_schedulingStage suits proper plan features)).andThen
    fun tasks => ?_
  exact Activity.fares_pure ⟨isOverview, isGraph, areFeatures⟩

/-- Whether terms serve a run: they suit it, they allow it to write drafts, and what comes of publishing
them and of keeping a result is one of the stops if it fails. The present moment is as `timely` says. -/
structure Serves (run : Running) (context : Context) (conditions : Terms Call Answer)
    (stops : Stop -> Prop) (timely : Moment -> Prop) : Prop
    extends run.Suits context conditions stops where
  drafts : ∀ call, call.Drafts run.projectKey -> conditions.asks call
  saves : ∀ name content language, Fares conditions (fun _ => True)
    (fun problem => stops ⟨.assembling, problem⟩) (saveDocument run.projectKey name content language)
  publishes : Fares conditions (fun _ => True) (fun problem => stops ⟨.assembling, problem⟩)
    (publishDrafts run.projectKey)
  presents : Fares conditions timely (fun problem => stops ⟨.assembling, problem⟩) present
  keeps : ∀ result, Fares conditions (fun _ => True) (fun problem => stops ⟨.assembling, problem⟩)
    (run.keep context result)

/-- Terms on which all calls are served serve a run, and the clock shows a date of the calendar. -/
theorem serves_terms {owned : String -> Prop} {allowed : Call -> Prop}
    (isOwned : owned run.request.repositoryUrl)
    (tentative : ∀ call, call.Tentative run.projectKey -> allowed call)
    (mayPromote : allowed (.promoteDrafts run.projectKey)) (mayKeep : ∀ value, allowed (.writeCache
      (resultKey run.request.repositoryUrl run.request.analysisType.name) value context.resultLifetime)) :
    run.Serves context (terms owned run.request.repositoryUrl allowed) stops Moment.InCalendar where
  toSuits := suits_terms (fun call common => tentative call (common.tentative _)) isOwned
    fun _ => tentative _ ⟨trivial, trivial⟩
  drafts call isDrafts := ⟨tentative call isDrafts.tentative, by cases call <;> trivial⟩
  saves _ _ _ := fares_saveDocument (tentative _ ⟨rfl, trivial⟩)
  publishes := fares_publishDrafts (tentative _ ⟨trivial, trivial⟩) mayPromote
  presents := fares_present (tentative _ ⟨trivial, trivial⟩)
  keeps _ := fares_writeCache (mayKeep _) fun same => absurd same (resultKey_ne_progressKey _ _ _)

/-- Terms that allow the calls of a run serve it, whatever is answered, if anything may stop it. -/
theorem serves_anything (hosts : ∀ withTools, Hosts context conditions withTools (some run.session))
    (tentative : ∀ call, call.Tentative run.projectKey -> call.StaysIn (some run.session) ->
      (∀ asked, call ≠ .agent asked) -> conditions.asks call)
    (mayPromote : conditions.asks (.promoteDrafts run.projectKey)) (mayKeep : ∀ value, conditions.asks (.writeCache
      (resultKey run.request.repositoryUrl run.request.analysisType.name) value context.resultLifetime)) :
    run.Serves context conditions (fun _ => True) fun _ => True where
  toSuits := suits_anything hosts
    (fun call notes => tentative call (Call.IsCommon.tentative (.inr notes) _) (notes.staysIn _) notes.not_agent)
    fun _ => tentative _ ⟨trivial, trivial⟩ ⟨_, rfl, rfl⟩ nofun
  drafts call isDrafts := tentative call isDrafts.tentative (isDrafts.staysIn _) isDrafts.not_agent
  saves _ _ _ := abides_accepted ⟨tentative _ ⟨rfl, trivial⟩ trivial nofun, fun _ _ => trivial⟩
  publishes := abides_publishDrafts (tentative _ ⟨trivial, trivial⟩ trivial nofun) mayPromote
  presents := fares_anyPresent (tentative _ ⟨trivial, trivial⟩ trivial nofun)
  keeps _ := abides_accepted ⟨mayKeep _, fun _ _ => trivial⟩

/-- Terms on which nothing is known about what is answered serve a run, if anything may stop it. -/
theorem serves_asking {allowed : Call -> Prop}
    (tentative : ∀ call, call.Tentative run.projectKey -> allowed call)
    (mayPromote : allowed (.promoteDrafts run.projectKey)) (mayKeep : ∀ value, allowed (.writeCache
      (resultKey run.request.repositoryUrl run.request.analysisType.name) value context.resultLifetime)) :
    run.Serves context (Activity.asking Answer allowed) (fun _ => True) fun _ => True := by
  refine serves_anything (hosts_of_outside fun call isOutside => ?_)
    (fun call isTentative _ _ => tentative call isTentative) mayPromote mayKeep
  have common : call.IsCommon (fun _ => True) run.request.repositoryUrl := .inl isOutside
  exact tentative call (common.tentative _)

section Served

variable {timely : Moment -> Prop} (serves : run.Serves context conditions stops timely)
  (proper : ∀ stop, stop.IsProper -> stops stop)

include serves

/-- What was written is published and kept as a result of the findings and of what was prepared. -/
theorem fares_publish {findings : Findings} {preparation : Preparation} {written : WriteReport}
    (areFindings : findings.AreOf run.checkout) (isReplied : preparation.IsReplied)
    (some : written.written ≠ []) : Fares conditions (run.Makes timely) stops
      (run.publish context findings preparation written) := by
  refine (fares_entering serves.toSuits (fares_assemblingStage serves.toSuits some serves.saves
    serves.publishes)).andThen fun _ => ?_
  have result : Fares conditions (run.Makes timely) (fun problem => stops ⟨.assembling, problem⟩)
      (run.result findings preparation written) :=
    serves.presents.bind fun now isTimely => Activity.fares_pure
      ⟨rfl, rfl, rfl, areFindings.layout, areFindings.dependencies, areFindings.quality, isReplied.overview,
        isReplied.graph, isReplied.features, now, isTimely, rfl⟩
  refine (fares_during result).bind fun result makes => ?_
  refine (fares_during (serves.keeps result)).andThen fun _ => ?_
  refine (fares_entering serves.toSuits (serves.emits _ _ _ (by decide))).andThen fun _ => ?_
  exact Activity.fares_pure makes

include proper

/-- What a run does once it has begun makes a result or stops. -/
theorem fares_advance : Fares conditions (run.Makes timely) stops (run.advance context) := by
  refine (fares_during (fares_inspect serves.toSuits proper)).bind fun findings areFindings => ?_
  refine (fares_prepare serves.toSuits proper findings).bind fun preparation isReplied => ?_
  refine (fares_entering serves.toSuits (fares_writingStage serves.toSuits proper preparation
    serves.drafts)).bind fun written some => ?_
  exact fares_publish serves areFindings isReplied some

/-- A course makes a result or stops. -/
theorem fares_course (discards : Fares conditions (fun _ => True)
      (fun problem => stops ⟨.notStarted, problem⟩) (discardDrafts run.projectKey none)) :
    Fares conditions (run.Makes timely) stops (run.course context) := by
  refine (fares_during (discards.andThen fun _ => serves.emits .notStarted _ _ (by decide))).andThen fun _ => ?_
  exact fares_advance serves proper

end Served

/-! ## The beginning -/

variable {σ : Type} {surroundings : Surroundings σ} {world after : World σ}

/-- A run begins by discarding all drafts and reporting that it begins. -/
theorem goes_commence {outcome : Except Problem Unit}
    (goes : (run.commence context).run.Goes way outcome) : ∃ answer beginning,
      way = ⟨.discardDrafts run.projectKey none, answer⟩ :: beginning ∧
        ((∃ count, answer = .ok count) ∧
            (run.emit context "Starting analysis" 5).run.Goes beginning outcome ∨
          (∃ obstacle, answer = .error obstacle) ∧ beginning = [] ∧
            ∃ problem, outcome = .error problem) := by
  unfold commence at goes
  rw [Activity.run_then] at goes
  obtain ⟨discarding, beginning, discarded, rfl, discard, onward⟩ := Activity.goes_bind.mp goes
  obtain ⟨answer, rfl, isAnswer⟩ := goes_discardDrafts discard
  refine ⟨answer, beginning, rfl, ?_⟩
  cases discarded with
  | ok count => exact .inl ⟨⟨count, (isAnswer count).mp rfl⟩, onward⟩
  | error problem =>
    obtain ⟨rfl, rfl⟩ := Activity.goes_done.mp onward
    refine .inr ⟨?_, rfl, problem, rfl⟩
    cases answer with
    | ok count => nomatch (isAnswer count).mpr rfl
    | error obstacle => exact ⟨obstacle, rfl⟩

/-- A run that begins without a refusal finds the cache orderly, or what was held in place of the progress
record does not read as one. -/
theorem commence_cases {outcome : Except Problem Unit}
    (goes : (run.commence context).run.Goes way outcome)
    (answered : Answered (World.answer surroundings) world way after) (served : AllServed way) :
    ∃ count beginning, way = ⟨.discardDrafts run.projectKey none, .ok count⟩ :: beginning ∧
      (run.emit context "Starting analysis" 5).run.Goes beginning outcome ∧
        ((outcome = .ok () ∧ Orderly (fun _ => True) run.request.repositoryUrl after.cache) ∨
          ∃ report, outcome = .error (.record report)) := by
  obtain ⟨answer, beginning, rfl, ⟨⟨count, rfl⟩, emitted⟩ | ⟨⟨obstacle, rfl⟩, -⟩⟩ := goes_commence goes
  · obtain ⟨-, beginningAnswered⟩ := Activity.answered_cons.mp answered
    refine ⟨count, beginning, rfl, emitted, ?_⟩
    rcases emit_cases (by decide) emitted beginningAnswered
      (fun exchange member => served exchange (.tail _ member)) with ⟨rfl, orderly, -⟩ | failed
    · exact .inl ⟨rfl, orderly⟩
    · exact .inr failed
  · nomatch (served _ (.head _)).choose_spec

end Running

end RepoSurvey.Analysis

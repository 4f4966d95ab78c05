import RepoSurvey.Proofs.Analysis.Batches

/-!
# What stages come to

Every stage of a run makes calls of a few kinds and fails for reasons of its own, or because progress could
not be reported. `Running.Suits` says what terms have to allow for that: terms on which all calls are served
suit a run, and so do terms on which nothing is known about what is answered. What is asked of agents was
read from sound values, and what the survey finds is what the checkout holds, in either case.
-/

namespace RepoSurvey.Analysis

open Activity (Abides Exchange Fares Terms)
open Schema (Codec)

/-- Whether a record was read from a sound value. -/
def Replied {α : Type} (codec : Codec α) (found : α) : Prop :=
  ∃ value, value.Sound ∧ codec.read value = .valid found

/-- Whether findings are what a checkout holds. -/
structure Running.Findings.AreOf (findings : Running.Findings) (checkout : Files.Checkout) : Prop where
  layout : findings.layout = Survey.Structure.ofCheckout checkout
  dependencies : Survey.Dependencies.ofCheckout checkout = .ok findings.dependencies
  quality : findings.quality = Survey.Quality.ofCheckout checkout

/-- Whether a call is one of those that every stage may make. -/
def Call.IsCommon (owned : String -> Prop) (url : String) (call : Call) : Prop :=
  call.IsOutside ∨ call.Notes owned url

/-- Calls that every stage may make are quiet. -/
theorem Call.IsCommon.quiet {owned : String -> Prop} {url : String} {call : Call}
    (common : call.IsCommon owned url) : call.IsQuiet := by
  rcases common with outside | records | ⟨event, rfl⟩
  · exact outside.quiet
  · cases call <;> trivial
  · trivial

/-- Calls that every stage may make publish nothing and keep no result. -/
theorem Call.IsCommon.tentative {owned : String -> Prop} {url : String} {call : Call}
    (common : call.IsCommon owned url) (project : String) : call.Tentative project := by
  refine ⟨common.quiet.onlyDrafts project, ?_⟩
  rcases common with outside | records | ⟨event, rfl⟩
  · cases call <;> first | exact outside.elim | trivial
  · cases call <;> first | exact records.elim | exact ⟨_, records.choose_spec.2⟩ | trivial
  · trivial

/-- A call that reports progress or writes it down is none of an agent. -/
theorem Call.Notes.not_agent {owned : String -> Prop} {url : String} {call : Call} (notes : call.Notes owned url)
    (asked : Agent.Call) : call ≠ .agent asked := by
  rintro rfl
  rcases notes with records | ⟨event, same⟩
  · exact records
  · nomatch same

/-- A call that reports progress or writes it down is none to the sessions. -/
theorem Call.Notes.staysIn {owned : String -> Prop} {url : String} {call : Call} (notes : call.Notes owned url)
    (session : Option String) : call.StaysIn session := by
  rcases notes with records | ⟨event, rfl⟩
  · cases call <;> first | exact records.elim | trivial
  · trivial

/-- A call to the drafts of a run is none to the sessions. -/
theorem Call.Drafts.staysIn {project : String} {call : Call} (drafts : call.Drafts project) (session : Option String) :
    call.StaysIn session := by
  cases call <;> first | exact drafts.elim | trivial

/-- Whether a stop is a problem of the stage that was reached. -/
def Stop.IsProper (stop : Stop) : Prop := stop.problem.Within stop.reached

namespace Running

variable {conditions : Terms Call Answer} {run : Running} {context : Context} {stops : Stop -> Prop}

/-- Whether terms suit a run: they allow the calls of its stages, and what a report of progress fails with
is one of the stops. -/
structure Suits (run : Running) (context : Context) (conditions : Terms Call Answer)
    (stops : Stop -> Prop) : Prop where
  hosts : ∀ withTools, Hosts context conditions withTools (some run.session)
  updates : ∀ updates, conditions.asks (.session (.updateContext run.session updates))
  emits : ∀ reached stage progress, 0 ≤ progress ∧ progress ≤ 100 -> Fares conditions (fun _ => True)
    (fun problem => stops ⟨reached, problem⟩) (run.emit context stage progress)

/-- Terms on which all calls are served suit a run. -/
theorem suits_terms {owned : String -> Prop} {allowed : Call -> Prop}
    (common : ∀ call, call.IsCommon owned run.request.repositoryUrl -> allowed call)
    (isOwned : owned run.request.repositoryUrl)
    (updates : ∀ updates, allowed (.session (.updateContext run.session updates))) :
    run.Suits context (terms owned run.request.repositoryUrl allowed) stops where
  hosts := hosts_of_outside fun _ => asks_of_outside fun call outside => common call (.inl outside)
  updates changes := ⟨updates changes, trivial⟩
  emits _ stage _ inRange := fares_emit (fun call notes => common call (.inr notes)) isOwned stage inRange

/-- Terms that allow the calls of a run suit it, whatever is answered, if anything may stop it. -/
theorem suits_anything (hosts : ∀ withTools, Hosts context conditions withTools (some run.session))
    (notes : ∀ call, call.Notes (fun _ => True) run.request.repositoryUrl -> conditions.asks call)
    (updates : ∀ updates, conditions.asks (.session (.updateContext run.session updates))) :
    run.Suits context conditions fun _ => True where
  hosts := hosts
  updates := updates
  emits _ stage progress _ := abides_emit notes stage progress

/-- Terms on which nothing is known about what is answered suit a run, if anything may stop it. -/
theorem suits_asking {allowed : Call -> Prop}
    (common : ∀ call, call.IsCommon (fun _ => True) run.request.repositoryUrl -> allowed call)
    (updates : ∀ updates, allowed (.session (.updateContext run.session updates))) :
    run.Suits context (Activity.asking Answer allowed) fun _ => True :=
  suits_anything (hosts_of_outside fun call outside => common call (.inl outside))
    (fun call notes => common call (.inr notes)) updates

/-- Calls that are tentative suit a run. -/
theorem suits_tentative (run : Running) (context : Context) :
    run.Suits context (Activity.asking Answer (Call.Tentative run.projectKey)) fun _ => True :=
  suits_asking (fun _ common => common.tentative _) fun _ => ⟨trivial, trivial⟩

/-- The share of progress during writing is from 80 to 95. -/
theorem writingProgress_bounds {count total : Nat} (low : count ≤ total) :
    80 ≤ writingProgress count total ∧ writingProgress count total ≤ 95 := by
  have share : count * 15 / total ≤ 15 := Nat.div_le_of_le_mul (Nat.mul_le_mul_right 15 low)
  unfold writingProgress
  generalize count * 15 / total = part at share ⊢
  omega

/-- The share of progress during writing is within the range of progress. -/
theorem writingProgress_inRange {count total : Nat} (low : count ≤ total) :
    0 ≤ writingProgress count total ∧ writingProgress count total ≤ 100 := by
  have bounds := writingProgress_bounds low
  omega

/-! ## Stages -/

section Suited

variable (suits : run.Suits context conditions stops) (proper : ∀ stop, stop.IsProper -> stops stop)

include suits

/-- Entering a stage is noted in the session. -/
theorem fares_enter {fails : Problem -> Prop} (stage : Stage) :
    Fares conditions (fun _ => True) fails (run.enter stage) :=
  (fares_session (suits.updates _)).andThen fun _ => Activity.fares_pure trivial

include proper

/-- The survey finds what the checkout holds, or it cannot be made. -/
theorem fares_inspect : Fares conditions (fun findings => findings.AreOf run.checkout)
    (fun problem => stops ⟨.notStarted, problem⟩) (run.inspect context) := by
  have layout : Fares conditions (fun found => found = Survey.Structure.ofCheckout run.checkout)
      (fun problem => stops ⟨.notStarted, problem⟩) (layoutOf run.checkout) := by
    unfold layoutOf
    split
    · exact Activity.fares_throw (proper _ trivial)
    · exact Activity.fares_pure rfl
  have dependencies : Fares conditions
      (fun found => Survey.Dependencies.ofCheckout run.checkout = .ok found)
      (fun problem => stops ⟨.notStarted, problem⟩) (declaredDependencies run.checkout) := by
    unfold declaredDependencies
    split
    · next found isFound => exact Activity.fares_pure isFound
    · exact Activity.fares_throw (proper _ trivial)
  refine layout.bind fun layout isLayout => ?_
  refine (suits.emits _ _ _ (by decide)).andThen fun _ => ?_
  refine dependencies.bind fun dependencies areDependencies => ?_
  refine (suits.emits _ _ _ (by decide)).andThen fun _ => ?_
  refine (suits.emits _ _ _ (by decide)).andThen fun _ => ?_
  exact Activity.fares_pure ⟨isLayout, areDependencies, rfl⟩

/-- The overview was read from a reply. -/
theorem fares_overviewStage (findings : Findings) : Fares conditions (Replied Overview.codec)
    (fun problem => stops ⟨.overview, problem⟩) (run.overviewStage context findings) := by
  refine Fares.bind ((fares_askForRecord (suits.hosts true) _ _).mono (fun _ replied => replied)
    fun problem within => proper ⟨_, problem⟩ within) fun overview replied => ?_
  exact (suits.emits _ _ _ (by decide)).andThen fun _ => Activity.fares_pure replied

/-- The dependency graph was read from a reply. -/
theorem fares_dependencyStage (findings : Findings) (overview : Overview) :
    Fares conditions (Replied Graph.codec) (fun problem => stops ⟨.dependencies, problem⟩)
      (run.dependencyStage context findings overview) := by
  refine Fares.bind ((fares_askForRecord (suits.hosts true) _ _).mono (fun _ replied => replied)
    fun problem within => proper ⟨_, problem⟩ within) fun graph replied => ?_
  exact (suits.emits _ _ _ (by decide)).andThen fun _ => Activity.fares_pure replied

/-- The features were read from a reply. -/
theorem fares_featureStage (overview : Overview) (graph : Graph) :
    Fares conditions (Replied Features.codec) (fun problem => stops ⟨.coreFeatures, problem⟩)
      (run.featureStage context overview graph) := by
  refine Fares.bind ((fares_askForRecord (suits.hosts true) _ _).mono (fun _ replied => replied)
    fun problem within => proper ⟨_, problem⟩ within) fun features replied => ?_
  exact (suits.emits _ _ _ (by decide)).andThen fun _ => Activity.fares_pure replied

/-- Planning fails in the planning stage. -/
theorem fares_planningStage (overview : Overview) (features : Features) :
    Fares conditions (fun _ => True) (fun problem => stops ⟨.planning, problem⟩)
      (run.planningStage context overview features) := by
  refine Fares.andThen ((fares_askForPlan (suits.hosts true) _).mono (fun _ _ => trivial)
    fun problem within => proper ⟨_, problem⟩ within) fun plan => ?_
  exact (suits.emits _ _ _ (by decide)).andThen fun _ => Activity.fares_pure trivial

/-- Scheduling fails in the scheduling stage. -/
theorem fares_schedulingStage (plan : String) (features : Features) :
    Fares conditions (fun _ => True) (fun problem => stops ⟨.scheduling, problem⟩)
      (run.schedulingStage context plan features) := by
  refine Fares.andThen ((fares_askForTasks (suits.hosts false) _ _).mono (fun _ _ => trivial)
    fun problem within => proper ⟨_, problem⟩ within) fun planned => ?_
  refine (fares_session (suits.updates _)).andThen fun _ => ?_
  exact (suits.emits _ _ _ (by decide)).andThen fun _ => Activity.fares_pure trivial

/-- Writing comes to at least one document or fails in the writing stage. -/
theorem fares_writingStage (preparation : Preparation)
    (drafts : ∀ call, call.Drafts run.projectKey -> conditions.asks call) :
    Fares conditions (fun report => report.written ≠ []) (fun problem => stops ⟨.writing, problem⟩)
      (run.writingStage context preparation) := by
  have tells : ∀ count ≤ preparation.tasks.length, Abides conditions
      (run.tellWritten context count preparation.tasks.length) :=
    fun count low => (suits.emits .writing _ _ (writingProgress_inRange low)).abides
  have settled : (writeAll context (run.batch preparation.overview) (run.tellWritten context)
      preparation.tasks).Keeps conditions fun _ => True := by
    refine keeps_writeAll (fun withTools => (suits.hosts withTools).unrecorded) ?_ tells
    exact drafts
  refine (suits.emits _ _ _ (by decide)).andThen fun _ => ?_
  refine (fares_certain settled).andThen fun report => ?_
  split
  · exact Activity.fares_throw (proper ⟨.writing, _⟩ rfl)
  · next some =>
    refine Activity.fares_pure fun none => some ?_
    rw [none]
    rfl

omit proper

/-- At least one document is assembled if the calls for that are served. -/
theorem fares_assemblingStage {written : WriteReport} (some : written.written ≠ [])
    (saves : ∀ name content language, Fares conditions (fun _ => True)
      (fun problem => stops ⟨.assembling, problem⟩)
      (saveDocument run.projectKey name content language))
    (publishes : Fares conditions (fun _ => True) (fun problem => stops ⟨.assembling, problem⟩)
      (publishDrafts run.projectKey)) :
    Fares conditions (fun _ => True) (fun problem => stops ⟨.assembling, problem⟩)
      (run.assemblingStage context written) := by
  have sidebars : Fares conditions (fun _ => True) (fun problem => stops ⟨.assembling, problem⟩)
      (saveSidebars context run.projectKey written.written) := by
    unfold saveSidebars
    split
    · next none => exact absurd (List.isEmpty_iff.mp none) some
    · exact (saves _ _ _).andThen fun _ => saves _ _ _
  refine sidebars.andThen fun _ => ?_
  refine (suits.emits _ _ _ (by decide)).andThen fun _ => ?_
  exact publishes.andThen fun _ => Activity.fares_pure trivial

end Suited

end Running

end RepoSurvey.Analysis

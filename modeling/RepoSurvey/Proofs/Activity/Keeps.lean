import RepoSurvey.Proofs.Activity.Goes

/-!
# Activities that keep to terms

Terms say what an activity is told and what it may ask in return. `Activity.Keeps` says that an activity
asks only what it may, as long as it is told what it should be, and that its value then is as promised.
Terms take the place of invariants where activities are interleaved: each of them keeps to the terms on
its own, whatever the others do. `Keeps.goes` and `Keeps.answered` say what that means for ways and for
runs.
-/

namespace RepoSurvey.Activity

variable {Call Other : Type} {Answer : Call -> Type} {Reply : Other -> Type} {α β σ : Type}

/-- What an activity is told by answers, and what it may ask. -/
structure Terms (Call : Type) (Answer : Call -> Type) where
  told : (request : Call) -> Answer request -> Prop
  asks : Call -> Prop

/-- Whether an activity keeps to terms, its value being as `ends` says. -/
def Keeps (terms : Terms Call Answer) (ends : α -> Prop) : Activity Call Answer α -> Prop
  | .done value => ends value
  | .call request next =>
    terms.asks request ∧ ∀ answer, terms.told request answer -> Keeps terms ends (next answer)

/-- The terms of what asks nothing but what is allowed, whatever it is told. -/
def asking (Answer : Call -> Type) (allowed : Call -> Prop) : Terms Call Answer :=
  ⟨fun _ _ => True, allowed⟩

variable {terms : Terms Call Answer}

/-- A finished activity has its value. -/
@[simp] theorem keeps_done {ends : α -> Prop} {value : α} :
    Keeps terms ends (.done value : Activity Call Answer α) ↔ ends value := Iff.rfl

/-- A call has to be one that may be asked. -/
theorem keeps_call {ends : α -> Prop} {request : Call}
    {next : Answer request -> Activity Call Answer α} :
    Keeps terms ends (.call request next) ↔
      terms.asks request ∧ ∀ answer, terms.told request answer -> Keeps terms ends (next answer) :=
  Iff.rfl

/-- A single call ends with what is told. -/
@[simp] theorem keeps_ask {request : Call} {ends : Answer request -> Prop} :
    Keeps terms ends (ask request) ↔
      terms.asks request ∧ ∀ answer, terms.told request answer -> ends answer := Iff.rfl

/-- A sequence keeps to terms when its second part does after every value of the first. -/
theorem keeps_bind {ends : β -> Prop} {activity : Activity Call Answer α}
    {next : α -> Activity Call Answer β} :
    Keeps terms ends (bind activity next) ↔
      Keeps terms (fun value => Keeps terms ends (next value)) activity := by
  induction activity with
  | done value => exact Iff.rfl
  | call request onward inductionHypothesis =>
    simp only [bind, keeps_call]
    constructor
    · rintro ⟨asks, later⟩
      exact ⟨asks, fun answer told => (inductionHypothesis answer).mp (later answer told)⟩
    · rintro ⟨asks, later⟩
      exact ⟨asks, fun answer told => (inductionHypothesis answer).mpr (later answer told)⟩

/-- What is promised about the value can be weakened. -/
theorem Keeps.mono {ends further : α -> Prop} {activity : Activity Call Answer α}
    (keeps : Keeps terms ends activity) (weaker : ∀ value, ends value -> further value) :
    Keeps terms further activity := by
  induction activity with
  | done value => exact weaker value keeps
  | call request next inductionHypothesis =>
    exact ⟨keeps.1, fun answer told => inductionHypothesis answer (keeps.2 answer told)⟩

/-- An activity that keeps to terms keeps to terms that tell more and allow more. -/
theorem Keeps.relax {others : Terms Call Answer} {ends : α -> Prop}
    {activity : Activity Call Answer α} (keeps : Keeps terms ends activity)
    (tellsMore : ∀ request answer, others.told request answer -> terms.told request answer)
    (allowsMore : ∀ request, terms.asks request -> others.asks request) :
    Keeps others ends activity := by
  induction activity with
  | done value => exact keeps
  | call request next inductionHypothesis =>
    exact ⟨allowsMore request keeps.1, fun answer told =>
      inductionHypothesis answer (keeps.2 answer (tellsMore request answer told))⟩

/-- An embedded activity keeps to terms when its outward calls may be asked, whatever is told. -/
theorem keeps_embed {outer : Terms Other Reply} {outward : Call -> Other}
    {inward : (request : Call) -> Reply (outward request) -> Answer request}
    (allowed : ∀ request, outer.asks (outward request)) (activity : Activity Call Answer α) :
    Keeps outer (fun _ => True) (embed outward inward activity) := by
  induction activity with
  | done value => trivial
  | call request next inductionHypothesis =>
    exact ⟨allowed request, fun answer _ => inductionHypothesis (inward request answer)⟩

/-- An embedded activity keeps to terms that allow what the activity may ask and tell what it should be told. -/
theorem Keeps.embed {outer : Terms Other Reply} {outward : Call -> Other}
    {inward : (request : Call) -> Reply (outward request) -> Answer request} {ends : α -> Prop}
    {activity : Activity Call Answer α} (keeps : Keeps terms ends activity)
    (allows : ∀ request, terms.asks request -> outer.asks (outward request))
    (tells : ∀ request reply, outer.told (outward request) reply -> terms.told request (inward request reply)) :
    Keeps outer ends (embed outward inward activity) := by
  induction activity with
  | done value => exact keeps
  | call request next inductionHypothesis =>
    exact ⟨allows request keeps.1, fun reply told =>
      inductionHypothesis (inward request reply) (keeps.2 _ (tells request reply told))⟩

/-! ## Ways and runs -/

/-- An activity that was told what it should be so far asks what it may next. -/
theorem Keeps.asks_next {ends : α -> Prop} {activity : Activity Call Answer α}
    {earlier later : List (Exchange Call Answer)} {exchange : Exchange Call Answer} {value : α}
    (keeps : Keeps terms ends activity) (goes : activity.Goes (earlier ++ exchange :: later) value)
    (told : ∀ other ∈ earlier, terms.told other.request other.answer) : terms.asks exchange.request := by
  induction earlier generalizing activity with
  | nil =>
    cases goes with
    | call answer onward => exact keeps.1
  | cons first earlier inductionHypothesis =>
    cases goes with
    | call answer onward =>
      exact inductionHypothesis (keeps.2 answer (told _ (.head _))) onward
        fun other member => told other (.tail _ member)

/-- On a way on which it is told what it should be, an activity asks what it may and ends as promised. -/
theorem Keeps.goes {ends : α -> Prop} {activity : Activity Call Answer α}
    {way : List (Exchange Call Answer)} {value : α} (keeps : Keeps terms ends activity)
    (goes : activity.Goes way value)
    (told : ∀ exchange ∈ way, terms.told exchange.request exchange.answer) :
    (∀ exchange ∈ way, terms.asks exchange.request) ∧ ends value := by
  induction goes with
  | done value => exact ⟨fun _ member => (nomatch member), keeps⟩
  | call answer onward inductionHypothesis =>
    obtain ⟨asks, later⟩ := keeps
    obtain ⟨onwardAsks, ending⟩ := inductionHypothesis (later answer (told _ (.head _)))
      fun exchange member => told exchange (.tail _ member)
    refine ⟨fun exchange member => ?_, ending⟩
    rcases List.mem_cons.mp member with rfl | member
    · exact asks
    · exact onwardAsks exchange member

/-- An activity that may ask anything keeps to terms when it ends as promised on all ways on which it is told what it
should be. -/
theorem keeps_of_goes {ends : α -> Prop} {activity : Activity Call Answer α} (asks : ∀ request, terms.asks request)
    (goes : ∀ way value, activity.Goes way value ->
      (∀ exchange ∈ way, terms.told exchange.request exchange.answer) -> ends value) : Keeps terms ends activity := by
  induction activity with
  | done value => exact goes [] value (.done value) fun _ member => nomatch member
  | call request next inductionHypothesis =>
    refine ⟨asks request, fun answer told => inductionHypothesis answer fun way value onward toldThen => ?_⟩
    exact goes (⟨request, answer⟩ :: way) value (.call answer onward) (List.forall_mem_cons.mpr ⟨told, toldThen⟩)

/-- States that uphold terms: from a state of the invariant, a call that may be asked and is accepted is
answered as it should be, and the invariant holds again. -/
def Upholds (answer : (request : Call) -> σ -> Answer request × σ)
    (accepted : (request : Call) -> Answer request -> Prop) (terms : Terms Call Answer)
    (invariant : σ -> Prop) : Prop :=
  ∀ request state, invariant state -> terms.asks request ->
    accepted request (answer request state).1 ->
      terms.told request (answer request state).1 ∧ invariant (answer request state).2

/-- An activity that keeps to terms which the states uphold is told what it should be, asks what it may,
ends as promised and leaves the invariant in place, as long as its calls are accepted. -/
theorem Keeps.answered {answer : (request : Call) -> σ -> Answer request × σ}
    {accepted : (request : Call) -> Answer request -> Prop} {invariant : σ -> Prop}
    {ends : α -> Prop} {activity : Activity Call Answer α} {way : List (Exchange Call Answer)}
    {value : α} {state final : σ} (upholds : Upholds answer accepted terms invariant)
    (keeps : Keeps terms ends activity) (goes : activity.Goes way value)
    (followed : Answered answer state way final) (start : invariant state)
    (allAccepted : ∀ exchange ∈ way, accepted exchange.request exchange.answer) :
    (∀ exchange ∈ way, terms.told exchange.request exchange.answer ∧ terms.asks exchange.request) ∧
      ends value ∧ invariant final := by
  induction goes generalizing state with
  | done value =>
    rw [answered_nil] at followed
    subst followed
    exact ⟨fun _ member => (nomatch member), keeps, start⟩
  | @call request next exchanges value given onward inductionHypothesis =>
    obtain ⟨asks, later⟩ := keeps
    obtain ⟨same, rest⟩ := answered_cons.mp followed
    dsimp only at same rest
    have taken : accepted request (answer request state).1 := same ▸ allAccepted _ (.head _)
    obtain ⟨told, next⟩ := upholds request state start asks taken
    rw [← same] at told
    obtain ⟨onwardKept, ending, final⟩ := inductionHypothesis (later given told) rest next
      fun exchange member => allAccepted exchange (.tail _ member)
    refine ⟨fun exchange member => ?_, ending, final⟩
    rcases List.mem_cons.mp member with rfl | member
    · exact ⟨told, asks⟩
    · exact onwardKept exchange member

end RepoSurvey.Activity

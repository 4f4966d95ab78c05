import RepoSurvey.Proofs.Activity.Keeps

/-!
# Activities that may be stopped

An activity that may be stopped ends with a value or with what stopped it. `Activity.Fares` tells the two
endings apart in what an activity keeps to; `goes_then_ok` and `goes_then_error` do so for its ways: it
succeeds only if every part does, and fails in exactly one of them.
-/

namespace RepoSurvey.Activity

variable {Call : Type} {Answer : Call -> Type} {ε α β : Type}

/-- Activities that may be stopped. -/
abbrev Stoppable (Call : Type) (Answer : Call -> Type) (ε α : Type) : Type :=
  ExceptT ε (Activity Call Answer) α

section Ways

variable {first : Stoppable Call Answer ε α} {next : α -> Stoppable Call Answer ε β}
  {way : List (Exchange Call Answer)}

/-- A sequence goes on from a value and stops at a problem. -/
theorem run_then (first : Stoppable Call Answer ε α) (next : α -> Stoppable Call Answer ε β) :
    (first >>= next).run = bind first.run fun
      | .ok value => (next value).run
      | .error problem => .done (.error problem) := by
  refine congrArg (bind first.run) (funext fun outcome => ?_)
  cases outcome <;> rfl

/-- A sequence succeeds when both parts do. -/
theorem goes_then_ok {value : β} : (first >>= next).run.Goes way (.ok value) ↔
    ∃ before after found, way = before ++ after ∧ first.run.Goes before (.ok found) ∧
      (next found).run.Goes after (.ok value) := by
  rw [run_then, goes_bind]
  constructor
  · rintro ⟨before, after, outcome, rfl, start, finish⟩
    cases outcome with
    | ok found => exact ⟨before, after, found, rfl, start, finish⟩
    | error problem => nomatch (goes_done.mp finish).2
  · rintro ⟨before, after, found, rfl, start, finish⟩
    exact ⟨before, after, .ok found, rfl, start, finish⟩

/-- A sequence fails in its first part or, after that, in its second. -/
theorem goes_then_error {problem : ε} : (first >>= next).run.Goes way (.error problem) ↔
    first.run.Goes way (.error problem) ∨
      ∃ before after found, way = before ++ after ∧ first.run.Goes before (.ok found) ∧
        (next found).run.Goes after (.error problem) := by
  rw [run_then, goes_bind]
  constructor
  · rintro ⟨before, after, outcome, rfl, start, finish⟩
    cases outcome with
    | ok found => exact .inr ⟨before, after, found, rfl, start, finish⟩
    | error other =>
      obtain ⟨rfl, same⟩ := goes_done.mp finish
      rw [List.append_nil, Except.error.inj same]
      exact .inl start
  · rintro (stopped | ⟨before, after, found, rfl, start, finish⟩)
    · exact ⟨way, [], .error problem, (List.append_nil way).symm, stopped, .done _⟩
    · exact ⟨before, after, .ok found, rfl, start, finish⟩

/-- A sequence stops in its first part, or it goes on with its second. -/
theorem goes_then_cases {outcome : Except ε β} (goes : (first >>= next).run.Goes way outcome) :
    (∃ problem, first.run.Goes way (.error problem)) ∨
      ∃ before after found, way = before ++ after ∧ first.run.Goes before (.ok found) ∧
        (next found).run.Goes after outcome := by
  cases outcome with
  | ok value => exact .inr (goes_then_ok.mp goes)
  | error problem => exact (goes_then_error.mp goes).imp_left fun stopped => ⟨problem, stopped⟩

/-- A sequence whose second part asks nothing goes as its first part does. -/
theorem goes_then_done {ending : α -> Except ε β} {outcome : Except ε β}
    (ends : ∀ value, (next value).run = .done (ending value)) :
    (first >>= next).run.Goes way outcome ↔ ∃ found, first.run.Goes way found ∧ outcome = found.bind ending := by
  rw [run_then]
  refine goes_bind_done fun found => ?_
  cases found with
  | ok value => exact ends value
  | error problem => rfl

/-- A sequence that only makes a value of what its first part finds succeeds when that part does. -/
theorem goes_then_value_ok {view : α -> β} {value : β} (views : ∀ found, next found = pure (view found)) :
    (first >>= next).run.Goes way (.ok value) ↔ ∃ found, first.run.Goes way (.ok found) ∧ value = view found := by
  rw [goes_then_done fun found => congrArg ExceptT.run (views found)]
  constructor
  · rintro ⟨outcome, goes, same⟩
    cases outcome with
    | ok found => exact ⟨found, goes, Except.ok.inj same⟩
    | error problem => nomatch same
  · rintro ⟨found, goes, rfl⟩
    exact ⟨.ok found, goes, rfl⟩

/-- A sequence that only makes a value of what its first part finds fails when that part does. -/
theorem goes_then_value_error {view : α -> β} {problem : ε} (views : ∀ found, next found = pure (view found)) :
    (first >>= next).run.Goes way (.error problem) ↔ first.run.Goes way (.error problem) := by
  rw [goes_then_done fun found => congrArg ExceptT.run (views found)]
  constructor
  · rintro ⟨outcome, goes, same⟩
    cases outcome with
    | ok found => nomatch same
    | error other => exact Except.error.inj same ▸ goes
  · exact fun goes => ⟨.error problem, goes, rfl⟩

/-- A value is there without an exchange. -/
theorem goes_value {value : α} {outcome : Except ε α} :
    (pure value : Stoppable Call Answer ε α).run.Goes way outcome ↔ way = [] ∧ outcome = .ok value :=
  goes_done

/-- A problem is there without an exchange. -/
theorem goes_problem {problem : ε} {outcome : Except ε α} :
    (throw problem : Stoppable Call Answer ε α).run.Goes way outcome ↔
      way = [] ∧ outcome = .error problem := goes_done

end Ways

/-! ## Terms -/

/-- What is promised of the two endings. -/
def Ends (succeeds : α -> Prop) (fails : ε -> Prop) : Except ε α -> Prop
  | .ok value => succeeds value
  | .error problem => fails problem

/-- Whether an activity that may be stopped keeps to terms, with what is promised of its endings. -/
def Fares (terms : Terms Call Answer) (succeeds : α -> Prop) (fails : ε -> Prop)
    (attempt : Stoppable Call Answer ε α) : Prop :=
  attempt.run.Keeps terms (Ends succeeds fails)

/-- Whether an activity that may be stopped keeps to terms, whatever comes of it. -/
abbrev Abides (terms : Terms Call Answer) (attempt : Stoppable Call Answer ε α) : Prop :=
  Fares terms (fun _ => True) (fun _ => True) attempt

variable {terms : Terms Call Answer} {succeeds : α -> Prop} {fails : ε -> Prop}
  {attempt : Stoppable Call Answer ε α}

/-- A value is as promised. -/
theorem fares_pure {value : α} (promised : succeeds value) :
    Fares terms succeeds fails (pure value : Stoppable Call Answer ε α) := promised

/-- A problem is as promised. -/
theorem fares_throw {problem : ε} (promised : fails problem) :
    Fares terms succeeds fails (throw problem : Stoppable Call Answer ε α) := promised

/-- A sequence fares as its second part does after every value of the first. -/
theorem Fares.bind {next : α -> Stoppable Call Answer ε β} {further : β -> Prop}
    (start : Fares terms succeeds fails attempt)
    (finish : ∀ value, succeeds value -> Fares terms further fails (next value)) :
    Fares terms further fails (attempt >>= next) := by
  unfold Fares
  rw [run_then, keeps_bind]
  refine start.mono fun outcome ending => ?_
  cases outcome with
  | ok value => exact finish value ending
  | error problem => exact ending

/-- A sequence fares as its second part does when nothing is made of the value of the first. -/
theorem Fares.andThen {next : α -> Stoppable Call Answer ε β} {further : β -> Prop}
    (start : Fares terms (fun _ => True) fails attempt)
    (finish : ∀ value, Fares terms further fails (next value)) :
    Fares terms further fails (attempt >>= next) := start.bind fun value _ => finish value

/-- A value is there without asking. -/
theorem abides_pure (value : α) : Abides terms (pure value : Stoppable Call Answer ε α) := trivial

/-- A problem is there without asking. -/
theorem abides_throw (problem : ε) : Abides terms (throw problem : Stoppable Call Answer ε α) := trivial

/-- What is promised of the endings can be weakened. -/
theorem Fares.mono {more : α -> Prop} {worse : ε -> Prop}
    (fares : Fares terms succeeds fails attempt) (weaker : ∀ value, succeeds value -> more value)
    (worsens : ∀ problem, fails problem -> worse problem) : Fares terms more worse attempt := by
  refine Keeps.mono fares fun outcome ending => ?_
  cases outcome with
  | ok value => exact weaker value ending
  | error problem => exact worsens problem ending

/-- What is promised of the endings can be left out. -/
theorem Fares.abides (fares : Fares terms succeeds fails attempt) : Abides terms attempt :=
  fares.mono (fun _ _ => trivial) fun _ _ => trivial

/-- On a way on which it is told what it should be, an attempt asks what it may. -/
theorem Fares.asks {way : List (Exchange Call Answer)} {outcome : Except ε α}
    (fares : Fares terms succeeds fails attempt) (goes : attempt.run.Goes way outcome)
    (told : ∀ exchange ∈ way, terms.told exchange.request exchange.answer) :
    ∀ exchange ∈ way, terms.asks exchange.request := (Keeps.goes fares goes told).1

/-- An attempt that asks nothing but what is allowed does so on every way. -/
theorem Fares.confined {allowed : Call -> Prop} {way : List (Exchange Call Answer)}
    {outcome : Except ε α} (fares : Fares (asking Answer allowed) succeeds fails attempt)
    (goes : attempt.run.Goes way outcome) : ∀ exchange ∈ way, allowed exchange.request :=
  fares.asks goes fun _ _ => trivial

/-- What an attempt that asks nothing but what is allowed comes to is as promised on every way. -/
theorem Fares.ends {allowed : Call -> Prop} {way : List (Exchange Call Answer)}
    {outcome : Except ε α} (fares : Fares (asking Answer allowed) succeeds fails attempt)
    (goes : attempt.run.Goes way outcome) : Ends succeeds fails outcome :=
  (Keeps.goes fares goes fun _ _ => trivial).2

/-- On a way on which it is told what it should be, an attempt that fails does as promised. -/
theorem Fares.failed {way : List (Exchange Call Answer)} {problem : ε}
    (fares : Fares terms succeeds fails attempt) (goes : attempt.run.Goes way (.error problem))
    (told : ∀ exchange ∈ way, terms.told exchange.request exchange.answer) : fails problem :=
  (Keeps.goes fares goes told).2

end RepoSurvey.Activity

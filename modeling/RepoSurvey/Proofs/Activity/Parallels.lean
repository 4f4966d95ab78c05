import RepoSurvey.Proofs.Activity.Attempts
import RepoSurvey.Proofs.Activity.Interleaving

/-!
# Activities that run parallel

Two activities run parallel when, told what they may be told, they have the same effects in the same order and
come to values that are related: whichever ways they go, which need not be the same. The rules follow the
activities from call to call, each with whatever it is told; that both make the same call is not asked for, so
that activities can run parallel which draw different keys or look at different times. What is an effect is
said by `view`, which may look at the answer to a call.
-/

namespace RepoSurvey.Activity

variable {Call Other Effect : Type} {Answer : Call -> Type} {Reply : Other -> Type} {α β γ δ ε : Type}

/-- Whether two activities have the same effects and come to related values on all ways on which they are told
what they may be told. -/
def Parallel (told : (request : Call) -> Answer request -> Prop)
    (view : Exchange Call Answer -> Option Effect) (ends : α -> β -> Prop)
    (first : Activity Call Answer α) (second : Activity Call Answer β) : Prop :=
  ∀ ⦃way other value result⦄, first.Goes way value -> second.Goes other result ->
    (∀ exchange ∈ way, told exchange.request exchange.answer) ->
    (∀ exchange ∈ other, told exchange.request exchange.answer) ->
      way.filterMap view = other.filterMap view ∧ ends value result

variable {told : (request : Call) -> Answer request -> Prop} {view : Exchange Call Answer -> Option Effect}
  {ends : α -> β -> Prop} {first : Activity Call Answer α} {second : Activity Call Answer β}

/-- Finished activities run parallel when their values are related. -/
theorem parallel_done {value : α} {result : β} (related : ends value result) :
    Parallel told view ends (.done value) (.done result) := by
  intro way other found outcome goes follows _ _
  obtain ⟨rfl, rfl⟩ := goes_done.mp goes
  obtain ⟨rfl, rfl⟩ := goes_done.mp follows
  exact ⟨rfl, related⟩

/-- Activities that make a call run parallel when the calls have the same effect and the activities run parallel
from there. -/
theorem parallel_call {request asked : Call} {next : Answer request -> Activity Call Answer α}
    {onward : Answer asked -> Activity Call Answer β}
    (steps : ∀ answer reply, told request answer -> told asked reply ->
      view ⟨request, answer⟩ = view ⟨asked, reply⟩ ∧ Parallel told view ends (next answer) (onward reply)) :
    Parallel told view ends (.call request next) (.call asked onward) := by
  intro way other value result goes follows toldFirst toldSecond
  obtain ⟨answer, rest, rfl, goesOn⟩ := goes_call.mp goes
  obtain ⟨reply, others, rfl, followsOn⟩ := goes_call.mp follows
  rw [List.forall_mem_cons] at toldFirst toldSecond
  obtain ⟨sameEffect, parallel⟩ := steps answer reply toldFirst.1 toldSecond.1
  obtain ⟨sameRest, related⟩ := parallel goesOn followsOn toldFirst.2 toldSecond.2
  exact ⟨by simp only [List.filterMap_cons, sameEffect, sameRest], related⟩

/-- Sequences run parallel when both of their parts do. -/
theorem Parallel.bind {next : α -> Activity Call Answer γ} {onward : β -> Activity Call Answer δ}
    {further : γ -> δ -> Prop} (start : Parallel told view ends first second)
    (finish : ∀ value result, ends value result -> Parallel told view further (next value) (onward result)) :
    Parallel told view further (Activity.bind first next) (Activity.bind second onward) := by
  intro way other value result goes follows toldFirst toldSecond
  obtain ⟨before, after, found, rfl, goes, goesOn⟩ := goes_bind.mp goes
  obtain ⟨earlier, later, outcome, rfl, follows, followsOn⟩ := goes_bind.mp follows
  rw [List.forall_mem_append] at toldFirst toldSecond
  obtain ⟨sameStart, related⟩ := start goes follows toldFirst.1 toldSecond.1
  obtain ⟨sameFinish, ended⟩ := finish found outcome related goesOn followsOn toldFirst.2 toldSecond.2
  exact ⟨by rw [List.filterMap_append, List.filterMap_append, sameStart, sameFinish], ended⟩

/-- What is said of the values can be weakened. -/
theorem Parallel.mono {weaker : α -> β -> Prop} (parallel : Parallel told view ends first second)
    (implied : ∀ value result, ends value result -> weaker value result) :
    Parallel told view weaker first second := by
  intro way other value result goes follows toldFirst toldSecond
  exact (parallel goes follows toldFirst toldSecond).imp_right (implied value result)

/-- An activity runs parallel to itself when no call can be told two answers. -/
theorem parallel_self (activity : Activity Call Answer α)
    (single : ∀ request answer reply, told request answer -> told request reply -> answer = reply) :
    Parallel told view (· = ·) activity activity := by
  induction activity with
  | done value => exact parallel_done rfl
  | call request next inductionHypothesis =>
    refine parallel_call fun answer reply isTold alsoTold => ?_
    obtain rfl := single request answer reply isTold alsoTold
    exact ⟨rfl, inductionHypothesis answer⟩

/-- Activities run parallel that have no effect and always come to one value. -/
theorem Keeps.parallel {terms : Terms Call Answer} {activity another : Activity Call Answer α} {outcome : α}
    (keeps : activity.Keeps terms (· = outcome)) (alsoKeeps : another.Keeps terms (· = outcome))
    (noEffect : ∀ way value, activity.Goes way value -> way.filterMap view = [])
    (alsoNone : ∀ way value, another.Goes way value -> way.filterMap view = []) :
    Parallel terms.told view (· = ·) activity another := by
  intro way other value result goes follows toldFirst toldSecond
  have sameValue : value = outcome := (keeps.goes goes toldFirst).2
  have sameResult : result = outcome := (alsoKeeps.goes follows toldSecond).2
  exact ⟨(noEffect way value goes).trans (alsoNone other result follows).symm, sameValue.trans sameResult.symm⟩

/-- A way of an embedded activity is a way of the activity, as far as it is told what it may be told there. -/
theorem goes_of_embed {outward : Call -> Other} {inward : (request : Call) -> Reply (outward request) -> Answer request}
    {told : (request : Other) -> Reply request -> Prop} {activity : Activity Call Answer α}
    {way : List (Exchange Other Reply)} {value : α} (goes : (Activity.embed outward inward activity).Goes way value)
    (isTold : ∀ exchange ∈ way, told exchange.request exchange.answer) :
    (∀ exchange ∈ way, ∃ request reply, exchange = ⟨outward request, reply⟩) ∧
      ∃ own, activity.Goes own value ∧ ∀ exchange ∈ own, ∃ reply,
        inward exchange.request reply = exchange.answer ∧ told (outward exchange.request) reply := by
  induction activity generalizing way with
  | done result =>
    obtain ⟨rfl, rfl⟩ := goes_done.mp goes
    exact ⟨List.forall_mem_nil _, [], .done value, List.forall_mem_nil _⟩
  | call request next inductionHypothesis =>
    obtain ⟨reply, rest, rfl, goesOn⟩ := goes_call.mp goes
    rw [List.forall_mem_cons] at isTold
    obtain ⟨outside, own, goesOwn, toldOwn⟩ := inductionHypothesis (inward request reply) goesOn isTold.2
    exact ⟨List.forall_mem_cons.mpr ⟨⟨request, reply, rfl⟩, outside⟩, _, .call _ goesOwn,
      List.forall_mem_cons.mpr ⟨⟨reply, rfl, isTold.1⟩, toldOwn⟩⟩

/-- Activities run parallel as parts of larger ones when their calls have no effect there. -/
theorem Parallel.embed {outward : Call -> Other}
    {inward : (request : Call) -> Reply (outward request) -> Answer request}
    {toldOutside : (request : Other) -> Reply request -> Prop} {viewOutside : Exchange Other Reply -> Option Effect}
    (parallel : Parallel (fun request answer => ∃ reply, inward request reply = answer ∧
      toldOutside (outward request) reply) view ends first second)
    (noEffect : ∀ request reply, viewOutside ⟨outward request, reply⟩ = none) :
    Parallel toldOutside viewOutside ends (Activity.embed outward inward first)
      (Activity.embed outward inward second) := by
  have nothing : ∀ {way : List (Exchange Other Reply)},
      (∀ exchange ∈ way, ∃ request reply, exchange = ⟨outward request, reply⟩) -> way.filterMap viewOutside = [] := by
    intro way outside
    refine List.filterMap_eq_nil_iff.mpr fun exchange member => ?_
    obtain ⟨request, reply, rfl⟩ := outside exchange member
    exact noEffect request reply
  intro way other value result goes follows toldFirst toldSecond
  obtain ⟨outside, own, goesOwn, toldOwn⟩ := goes_of_embed goes toldFirst
  obtain ⟨alsoOutside, another, followsOwn, toldAnother⟩ := goes_of_embed follows toldSecond
  exact ⟨(nothing outside).trans (nothing alsoOutside).symm, (parallel goesOwn followsOwn toldOwn toldAnother).2⟩

/-! ## Activities that may be stopped -/

/-- Whether two endings are alike: values that are related, or the same problem. -/
def AlikeUpTo (ends : α -> β -> Prop) : Except ε α -> Except ε β -> Prop
  | .ok value, .ok result => ends value result
  | .error problem, .error other => problem = other
  | _, _ => False

/-- Endings that are alike up to equality are equal. -/
theorem eq_of_alike {left right : Except ε α} (alike : AlikeUpTo (· = ·) left right) : left = right := by
  cases left with
  | ok value =>
    cases right with
    | ok result => exact congrArg Except.ok alike
    | error problem => exact alike.elim
  | error problem =>
    cases right with
    | ok result => exact alike.elim
    | error other => exact congrArg Except.error alike

/-- Endings that are equal are alike. -/
theorem alike_refl (outcome : Except ε α) : AlikeUpTo (· = ·) outcome outcome := by
  cases outcome <;> exact rfl

/-- Attempts run parallel in sequence when both of their parts do. -/
theorem Parallel.andThen {attempt : Stoppable Call Answer ε α} {another : Stoppable Call Answer ε β}
    {next : α -> Stoppable Call Answer ε γ} {onward : β -> Stoppable Call Answer ε δ} {further : γ -> δ -> Prop}
    (start : Parallel told view (AlikeUpTo ends) attempt.run another.run)
    (finish : ∀ value result, ends value result ->
      Parallel told view (AlikeUpTo further) (next value).run (onward result).run) :
    Parallel told view (AlikeUpTo further) (attempt >>= next).run (another >>= onward).run := by
  rw [run_then, run_then]
  refine start.bind fun outcome ending alike => ?_
  cases outcome with
  | ok value =>
    cases ending with
    | ok result => exact finish value result alike
    | error problem => exact alike.elim
  | error problem =>
    cases ending with
    | ok result => exact alike.elim
    | error other => exact parallel_done alike

/-! ## Activities side by side -/

/-- The effects of what is shuffled are shuffled. -/
theorem Shuffle.filterMap {left right whole : List ε} (effect : ε -> Option Effect)
    (shuffle : Shuffle left right whole) :
    Shuffle (left.filterMap effect) (right.filterMap effect) (whole.filterMap effect) := by
  induction shuffle with
  | nil => exact .nil
  | @left item left right whole shuffle inductionHypothesis =>
    cases found : effect item with
    | none => simpa only [List.filterMap_cons_none found] using inductionHypothesis
    | some value => simpa only [List.filterMap_cons_some found] using inductionHypothesis.left
  | @right item left right whole shuffle inductionHypothesis =>
    cases found : effect item with
    | none => simpa only [List.filterMap_cons_none found] using inductionHypothesis
    | some value => simpa only [List.filterMap_cons_some found] using inductionHypothesis.right

/-- When at most one of several parts has effects, the whole has those of the parts in their order. -/
theorem Merges.filterMap_eq_flatten {parts : List (List ε)} {whole : List ε} {effect : ε -> Option Effect}
    (merges : Merges parts whole)
    (alone : parts.Pairwise fun part other => part.filterMap effect = [] ∨ other.filterMap effect = []) :
    whole.filterMap effect = (parts.map (List.filterMap effect)).flatten := by
  induction merges with
  | nil => rfl
  | @cons parts part rest whole merges shuffle inductionHypothesis =>
    obtain ⟨first, alone⟩ := List.pairwise_cons.mp alone
    have effects := shuffle.filterMap effect
    rw [inductionHypothesis alone] at effects
    rw [List.map_cons, List.flatten_cons]
    by_cases nothing : part.filterMap effect = []
    · rw [nothing] at effects ⊢
      exact effects.eq_of_nil_left
    · have others : (parts.map (List.filterMap effect)).flatten = [] := by
        simp only [List.flatten_eq_nil_iff, List.forall_mem_map]
        exact fun other member => (first other member).resolve_left nothing
      rw [others] at effects ⊢
      rw [effects.eq_of_nil_right, List.append_nil]

/-- Tasks that run parallel have the same effects, each on its own, and come to the same results. -/
theorem TasksGo.parallel {settle : Nat -> α -> Activity Call Answer β} {total : Nat}
    {activities : List (Activity Call Answer α)} {ways others : List (List (Exchange Call Answer))}
    {results endings : List β}
    (works : ∀ activity ∈ activities, Parallel told view (· = ·) activity activity)
    (settles : ∀ value, ∀ number ≤ total, ∀ other ≤ total,
      Parallel told view (· = ·) (settle number value) (settle other value))
    (go : TasksGo settle total (activities.map .working) ways results)
    (goElse : TasksGo settle total (activities.map .working) others endings)
    (toldFirst : ∀ way ∈ ways, ∀ exchange ∈ way, told exchange.request exchange.answer)
    (toldSecond : ∀ way ∈ others, ∀ exchange ∈ way, told exchange.request exchange.answer) :
    ways.map (List.filterMap view) = others.map (List.filterMap view) ∧ results = endings := by
  induction activities generalizing ways others results endings with
  | nil =>
    cases go
    cases goElse
    exact ⟨rfl, rfl⟩
  | cons activity activities inductionHypothesis =>
    obtain ⟨worksFirst, works⟩ := List.forall_mem_cons.mp works
    cases go with
    | @cons _ way result _ ways results goes rest =>
      cases goElse with
      | @cons _ other ending _ others endings follows restElse =>
        rw [List.forall_mem_cons] at toldFirst toldSecond
        obtain ⟨first, second, value, number, low, rfl, worked, settled⟩ := goes
        obtain ⟨earlier, later, found, place, alsoLow, rfl, alsoWorked, alsoSettled⟩ := follows
        rw [List.forall_mem_append] at toldFirst toldSecond
        obtain ⟨sameWork, rfl⟩ := worksFirst worked alsoWorked toldFirst.1.1 toldSecond.1.1
        obtain ⟨sameSettling, rfl⟩ :=
          settles value number low place alsoLow settled alsoSettled toldFirst.1.2 toldSecond.1.2
        obtain ⟨sameRest, rfl⟩ := inductionHypothesis works rest restElse toldFirst.2 toldSecond.2
        refine ⟨?_, rfl⟩
        rw [List.map_cons, List.map_cons, sameRest, List.filterMap_append, List.filterMap_append, sameWork,
          sameSettling]

end RepoSurvey.Activity

import RepoSurvey.Proofs.Activity.Goes

/-!
# Two activities that overlap

Two activities overlap when they make their calls in one state, in turns that nobody agrees on. `turns` lets
them take turns as they are told; `goes_turns` says that each of them then goes a way of its own, of which the
turns show the beginning. Every order of turns is one of those that can be told, so that what holds of `turns`
holds of every interleaving at every moment.
-/

namespace RepoSurvey.Activity

variable {Call : Type} {Answer : Call -> Type} {α β σ : Type}

/-- An exchange of one of two activities, the first if it is marked as true. -/
abbrev Turn (Call : Type) (Answer : Call -> Type) : Type := Bool × Exchange Call Answer

/-- The exchanges of two activities that take turns as they are told, and the state they lead to. Turns of an
activity that is finished are passed over. -/
def turns (answer : (request : Call) -> σ -> Answer request × σ) :
    List Bool -> Activity Call Answer α -> Activity Call Answer β -> σ -> List (Turn Call Answer) × σ
  | [], _, _, state => ([], state)
  | true :: told, first, second, state =>
    match first with
    | .done value => turns answer told (.done value) second state
    | .call request next =>
      let rest := turns answer told (next (answer request state).1) second (answer request state).2
      ((true, ⟨request, (answer request state).1⟩) :: rest.1, rest.2)
  | false :: told, first, second, state =>
    match second with
    | .done value => turns answer told first (.done value) state
    | .call request next =>
      let rest := turns answer told first (next (answer request state).1) (answer request state).2
      ((false, ⟨request, (answer request state).1⟩) :: rest.1, rest.2)

/-- The exchanges of one of two activities. -/
def side (whose : Bool) (turns : List (Turn Call Answer)) : List (Exchange Call Answer) :=
  turns.filterMap fun turn => if turn.1 = whose then some turn.2 else none

/-- The exchanges of one of two activities in two parts. -/
@[simp] theorem side_append (whose : Bool) (former latter : List (Turn Call Answer)) :
    side whose (former ++ latter) = side whose former ++ side whose latter := List.filterMap_append

/-- An exchange is one of the activity that has the turn. -/
@[simp] theorem side_cons_self (whose : Bool) (exchange : Exchange Call Answer)
    (turns : List (Turn Call Answer)) : side whose ((whose, exchange) :: turns) = exchange :: side whose turns := by
  simp [side]

/-- An exchange is none of the activity that does not have the turn. -/
@[simp] theorem side_cons_other (whose : Bool) (exchange : Exchange Call Answer)
    (turns : List (Turn Call Answer)) : side whose ((!whose, exchange) :: turns) = side whose turns := by
  simp [side]

/-- What is exchanged in a turn is exchanged by the activity that has the turn. -/
theorem mem_side {turn : Turn Call Answer} {turns : List (Turn Call Answer)} (member : turn ∈ turns) :
    turn.2 ∈ side turn.1 turns :=
  List.mem_filterMap.mpr ⟨turn, member, if_pos rfl⟩

/-- In turns that none is of one activity, all exchanges are those of the other. -/
theorem mem_side_of_others {whose : Bool} {exchange : Exchange Call Answer} {turns : List (Turn Call Answer)}
    (others : side whose turns = []) (member : exchange ∈ turns.map Prod.snd) : exchange ∈ side (!whose) turns := by
  obtain ⟨⟨other, _⟩, isTurn, rfl⟩ := List.mem_map.mp member
  by_cases isOwn : other = whose
  · subst isOwn
    exact absurd (mem_side isTurn) (others ▸ List.not_mem_nil)
  · rw [← Bool.eq_not.mpr isOwn]
    exact mem_side isTurn

/-- Turns can be parted where the exchanges of one of two activities are parted. -/
theorem exists_of_side_eq {whose : Bool} {exchange : Exchange Call Answer} {turns : List (Turn Call Answer)}
    {before after : List (Exchange Call Answer)} (isSide : side whose turns = before ++ exchange :: after) :
    ∃ former latter, turns = former ++ (whose, exchange) :: latter ∧ side whose former = before ∧
      side whose latter = after := by
  obtain ⟨former, rest, rfl, isFormer, isRest⟩ := List.filterMap_eq_append_iff.mp isSide
  obtain ⟨skipped, ⟨other, found⟩, latter, rfl, none, isTurn, isLatter⟩ := List.filterMap_eq_cons_iff.mp isRest
  split at isTurn
  · next isOwn =>
    obtain rfl : other = whose := isOwn
    obtain rfl := Option.some.inj isTurn
    refine ⟨former ++ skipped, latter, (List.append_assoc ..).symm, ?_, isLatter⟩
    rw [side_append, show side other former = before from isFormer,
      show side other skipped = [] from List.filterMap_eq_nil_iff.mpr none, List.append_nil]
  · nomatch isTurn

/-- Activities that take turns go ways of their own, and the state answers them in turn. -/
theorem goes_turns (answer : (request : Call) -> σ -> Answer request × σ) (told : List Bool)
    (first : Activity Call Answer α) (second : Activity Call Answer β) (state : σ) :
    (∃ rest value, first.Goes (side true (turns answer told first second state).1 ++ rest) value) ∧
      (∃ rest value, second.Goes (side false (turns answer told first second state).1 ++ rest) value) ∧
      Answered answer state ((turns answer told first second state).1.map Prod.snd)
        (turns answer told first second state).2 := by
  induction told generalizing first second state with
  | nil =>
    exact ⟨⟨_, _, @goes_run _ _ _ _ answer first state⟩, ⟨_, _, @goes_run _ _ _ _ answer second state⟩,
      .nil state⟩
  | cons whose told inductionHypothesis =>
    cases whose with
    | true =>
      cases first with
      | done value => exact inductionHypothesis (.done value) second state
      | call request next =>
        obtain ⟨⟨rest, value, goes⟩, others, answered⟩ :=
          inductionHypothesis (next (answer request state).1) second (answer request state).2
        exact ⟨⟨rest, value, .call _ goes⟩, others, .cons request answered⟩
    | false =>
      cases second with
      | done value => exact inductionHypothesis first (.done value) state
      | call request next =>
        obtain ⟨others, ⟨rest, value, goes⟩, answered⟩ :=
          inductionHypothesis first (next (answer request state).1) (answer request state).2
        exact ⟨others, ⟨rest, value, .call _ goes⟩, .cons request answered⟩

end RepoSurvey.Activity

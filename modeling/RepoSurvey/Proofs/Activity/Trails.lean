import RepoSurvey.Proofs.Activity.Attempts
import RepoSurvey.Proofs.Activity.Interleaving

/-!
# Trails

Some calls leave marks. The marks of a way, in their order, are its trail. `Activity.Leaves` says what marks
there are after an activity that is told what it should be, given those before it, and `Trails` says so of
activities that may be stopped. Activities side by side that leave marks only when they begin to settle leave
them in the order of their numbers, in whatever order they take turns: `leaves_sideBySide`.
-/

namespace RepoSurvey.Activity

variable {Call Mark : Type} {Answer : Call -> Type} {α β ε : Type}

/-- The marks that the calls of a way leave. -/
def trail (mark : Call -> Option Mark) (way : List (Exchange Call Answer)) : List Mark :=
  way.filterMap fun exchange => mark exchange.request

/-- The terms on which no call that leaves a mark may be asked. -/
def Terms.unmarked (terms : Terms Call Answer) (mark : Call -> Option Mark) : Terms Call Answer :=
  ⟨terms.told, fun request => terms.asks request ∧ mark request = none⟩

/-- Whether an activity keeps to terms and, after earlier marks, leaves marks and has a value as `ends`
says. -/
def Leaves (mark : Call -> Option Mark) (terms : Terms Call Answer) (ends : List Mark -> α -> Prop) :
    List Mark -> Activity Call Answer α -> Prop
  | earlier, .done value => ends earlier value
  | earlier, .call request next => terms.asks request ∧ ∀ answer, terms.told request answer ->
    Leaves mark terms ends (earlier ++ (mark request).toList) (next answer)

variable {mark : Call -> Option Mark} {terms : Terms Call Answer} {earlier : List Mark}
  {ends : List Mark -> α -> Prop} {activity : Activity Call Answer α}

/-- Ways in a row leave one trail after the other. -/
@[simp] theorem trail_append (first second : List (Exchange Call Answer)) :
    trail mark (first ++ second) = trail mark first ++ trail mark second := List.filterMap_append

/-- Nothing leaves no trail. -/
@[simp] theorem trail_nil : trail mark ([] : List (Exchange Call Answer)) = [] := rfl

/-- A call leaves its mark, and then the others follow. -/
theorem trail_cons (exchange : Exchange Call Answer) (way : List (Exchange Call Answer)) :
    trail mark (exchange :: way) = (mark exchange.request).toList ++ trail mark way := by
  unfold trail
  rw [List.filterMap_cons]
  cases mark exchange.request <;> rfl

/-- A sequence leaves the marks of its second part after those of its first. -/
theorem leaves_bind {ends : List Mark -> β -> Prop} {next : α -> Activity Call Answer β} :
    Leaves mark terms ends earlier (bind activity next) ↔
      Leaves mark terms (fun marks value => Leaves mark terms ends marks (next value)) earlier activity := by
  induction activity generalizing earlier with
  | done value => exact Iff.rfl
  | call request onward inductionHypothesis =>
    refine and_congr_right fun _ => forall_congr' fun answer => forall_congr' fun _ => ?_
    exact inductionHypothesis answer

/-- What holds on all ways holds beside what is said of marks and values. -/
theorem Leaves.also {fact : α -> Prop} (leaves : Leaves mark terms ends earlier activity)
    (holds : ∀ way value, activity.Goes way value -> fact value) :
    Leaves mark terms (fun marks value => ends marks value ∧ fact value) earlier activity := by
  induction activity generalizing earlier with
  | done value => exact ⟨leaves, holds [] value (.done value)⟩
  | call request next inductionHypothesis =>
    exact ⟨leaves.1, fun answer told => inductionHypothesis answer (leaves.2 answer told)
      fun way value goes => holds _ value (.call answer goes)⟩

/-- What is said of marks and values can be weakened. -/
theorem Leaves.mono {further : List Mark -> α -> Prop} (leaves : Leaves mark terms ends earlier activity)
    (weaker : ∀ marks value, ends marks value -> further marks value) :
    Leaves mark terms further earlier activity := by
  induction activity generalizing earlier with
  | done value => exact weaker earlier value leaves
  | call request next inductionHypothesis =>
    exact ⟨leaves.1, fun answer told => inductionHypothesis answer (leaves.2 answer told)⟩

/-- An activity that asks nothing that leaves a mark leaves no mark. -/
theorem Keeps.leaves {ends : α -> Prop} (keeps : activity.Keeps (terms.unmarked mark) ends) :
    Leaves mark terms (fun marks value => marks = earlier ∧ ends value) earlier activity := by
  induction activity with
  | done value => exact ⟨rfl, keeps⟩
  | call request next inductionHypothesis =>
    refine ⟨keeps.1.1, fun answer told => ?_⟩
    rw [keeps.1.2, Option.toList_none, List.append_nil]
    exact inductionHypothesis answer (keeps.2 answer told)

/-- On a way on which it is told what it should be, an activity leaves the trail that it leaves. -/
theorem Leaves.goes {way : List (Exchange Call Answer)} {value : α}
    (leaves : Leaves mark terms ends earlier activity) (goes : activity.Goes way value)
    (told : ∀ exchange ∈ way, terms.told exchange.request exchange.answer) :
    ends (earlier ++ trail mark way) value := by
  induction goes generalizing earlier with
  | done value => exact (List.append_nil earlier).symm ▸ leaves
  | @call request next exchanges value answer _ inductionHypothesis =>
    rw [trail_cons, ← List.append_assoc]
    exact inductionHypothesis (leaves.2 answer (told _ (.head _)))
      fun exchange member => told exchange (.tail _ member)

/-! ## Activities that may be stopped -/

/-- What trail an activity leaves that may be stopped, in its two endings. -/
def Trails (mark : Call -> Option Mark) (terms : Terms Call Answer) (succeeds : List Mark -> α -> Prop)
    (fails : List Mark -> ε -> Prop) (earlier : List Mark) (attempt : Stoppable Call Answer ε α) : Prop :=
  Leaves mark terms (fun marks => Ends (succeeds marks) (fails marks)) earlier attempt.run

section Stoppable

variable {succeeds : List Mark -> α -> Prop} {fails : List Mark -> ε -> Prop}
  {attempt : Stoppable Call Answer ε α}

/-- A value is there without a mark. -/
theorem trails_pure {value : α} (promised : succeeds earlier value) :
    Trails mark terms succeeds fails earlier (pure value : Stoppable Call Answer ε α) := promised

/-- A problem is there without a mark. -/
theorem trails_throw {problem : ε} (promised : fails earlier problem) :
    Trails mark terms succeeds fails earlier (throw problem : Stoppable Call Answer ε α) := promised

/-- A sequence leaves the marks of its second part after those of its first. -/
theorem Trails.bind {next : α -> Stoppable Call Answer ε β} {further : List Mark -> β -> Prop}
    (start : Trails mark terms succeeds fails earlier attempt)
    (finish : ∀ marks value, succeeds marks value -> Trails mark terms further fails marks (next value)) :
    Trails mark terms further fails earlier (attempt >>= next) := by
  unfold Trails
  rw [run_then, leaves_bind]
  refine start.mono fun marks outcome ending => ?_
  cases outcome with
  | ok value => exact finish marks value ending
  | error problem => exact ending

/-- What is said of the trails and endings can be weakened. -/
theorem Trails.mono {more : List Mark -> α -> Prop} {worse : List Mark -> ε -> Prop}
    (trails : Trails mark terms succeeds fails earlier attempt)
    (weaker : ∀ marks value, succeeds marks value -> more marks value)
    (worsens : ∀ marks problem, fails marks problem -> worse marks problem) :
    Trails mark terms more worse earlier attempt := by
  refine Leaves.mono trails fun marks outcome ending => ?_
  cases outcome with
  | ok value => exact weaker marks value ending
  | error problem => exact worsens marks problem ending

/-- An attempt that asks nothing that leaves a mark leaves no mark. -/
theorem Fares.trails {succeeds : α -> Prop} {fails : ε -> Prop}
    (fares : Fares (terms.unmarked mark) succeeds fails attempt) :
    Trails mark terms (fun marks value => marks = earlier ∧ succeeds value)
      (fun marks problem => marks = earlier ∧ fails problem) earlier attempt := by
  refine (Keeps.leaves fares).mono fun marks outcome ending => ?_
  cases outcome <;> exact ending

end Stoppable

/-! ## Activities side by side -/

/-- Whether an activity begins with a call that leaves a mark, and then leaves none. -/
def Announced (mark : Call -> Option Mark) (terms : Terms Call Answer) (first : Mark)
    (activity : Activity Call Answer α) : Prop :=
  ∃ request next, activity = .call request next ∧ terms.asks request ∧ mark request = some first ∧
    ∀ answer, terms.told request answer -> (next answer).Keeps (terms.unmarked mark) fun _ => True

/-- A sequence begins with the mark with which its first part does, if its second leaves none. -/
theorem Announced.bind {first : Mark} {next : α -> Activity Call Answer β}
    (announced : Announced mark terms first activity)
    (onward : ∀ value, (next value).Keeps (terms.unmarked mark) fun _ => True) :
    Announced mark terms first (bind activity next) := by
  obtain ⟨request, later, rfl, asks, isMark, keeps⟩ := announced
  exact ⟨request, fun answer => Activity.bind (later answer) next, rfl, asks, isMark, fun answer told =>
    keeps_bind.mpr ((keeps answer told).mono fun value _ => onward value)⟩

/-- Whether a task leaves no mark but that of its number when it begins to settle. -/
def Task.Announces (mark : Call -> Option Mark) (terms : Terms Call Answer)
    (settle : Nat -> α -> Activity Call Answer β) (announced : Nat -> Mark) (total : Nat) :
    Task Call Answer α β -> Prop
  | .working activity => activity.Keeps (terms.unmarked mark) fun value =>
    ∀ number, number ≤ total -> Announced mark terms (announced number) (settle number value)
  | .settling activity => activity.Keeps (terms.unmarked mark) fun _ => True

variable {settle : Nat -> α -> Activity Call Answer β} {announced : Nat -> Mark} {number total limit : Nat}

/-- A call of a task leaves no mark, or the task begins to settle and leaves that of its number. -/
theorem Task.Announces.calls {task : Task Call Answer α β} {request : Call}
    {resume : Answer request -> Task Call Answer α β}
    (announces : task.Announces mark terms settle announced total)
    (calls : task.Calls settle number request resume) (fits : task.Fits number total) :
    terms.asks request ∧
      (∀ answer, terms.told request answer ->
        (resume answer).Announces mark terms settle announced total) ∧
      (mark request = none ∧ (∀ answer, (resume answer).isSettling = task.isSettling) ∨
        mark request = some (announced number) ∧ task.isSettling = false ∧
          ∀ answer, (resume answer).isSettling = true) := by
  cases calls with
  | works request next => exact ⟨announces.1.1, announces.2, .inl ⟨announces.1.2, fun _ => rfl⟩⟩
  | begins settles =>
    obtain ⟨_, _, same, asks, isMark, onward⟩ := announces number (fits rfl)
    obtain ⟨rfl, same⟩ := Activity.call.inj (settles.symm.trans same)
    obtain rfl := eq_of_heq same
    exact ⟨asks, onward, .inr ⟨isMark, rfl, fun _ => rfl⟩⟩
  | settles request next => exact ⟨announces.1.1, announces.2, .inl ⟨announces.1.2, fun _ => rfl⟩⟩

/-- A task that announces its number does not settle without a call. -/
theorem Task.Announces.not_turns {task later : Task Call Answer α β}
    (announces : task.Announces mark terms settle announced total) (fits : task.Fits number total) :
    ¬ task.Turns settle number later := by
  rintro (⟨settles⟩)
  obtain ⟨_, _, same, -⟩ := announces number (fits rfl)
  nomatch settles.symm.trans same

/-- The marks of the numbers after one up to another. -/
def announcements (announced : Nat -> Mark) (settled total : Nat) : List Mark :=
  (List.range' (settled + 1) (total - settled)).map announced

/-- Of the marks of further numbers that of the next one is the first. -/
theorem announcements_cons {settled : Nat} (less : settled < total) :
    announcements announced settled total =
      announced (settled + 1) :: announcements announced (settled + 1) total := by
  unfold announcements
  obtain ⟨rest, isRest⟩ := Nat.exists_eq_add_of_lt less
  have first : total - settled = rest + 1 := by omega
  have second : total - (settled + 1) = rest := by omega
  rw [first, second, List.range'_succ, List.map_cons]

/-- Tasks all of which are finished have settled. -/
theorem countP_isSettling_of_finished {tasks : List (Task Call Answer α β)}
    (finished : ∀ task ∈ tasks, task.isFinished = true) : tasks.countP Task.isSettling = tasks.length := by
  refine List.countP_eq_length.mpr fun task member => ?_
  have isFinished := finished task member
  cases task with
  | working activity => nomatch isFinished
  | settling activity => rfl

/-- What a call of a task adds to the marks are the announcements that are not to come any more. -/
theorem announcements_of_calls {before after : List (Task Call Answer α β)} {task later : Task Call Answer α β}
    {request : Call} (fits : task.Fits ((before ++ task :: after).countP Task.isSettling + 1) total)
    (moves : mark request = none ∧ later.isSettling = task.isSettling ∨
      mark request = some (announced ((before ++ task :: after).countP Task.isSettling + 1)) ∧
        task.isSettling = false ∧ later.isSettling = true) :
    (mark request).toList ++ announcements announced ((before ++ later :: after).countP Task.isSettling) total =
      announcements announced ((before ++ task :: after).countP Task.isSettling) total := by
  rcases moves with ⟨noMark, sameState⟩ | ⟨isMark, working, settling⟩
  · rw [noMark, Option.toList_none, List.nil_append, List.countP_append, List.countP_append, List.countP_cons,
      List.countP_cons, sameState]
  · have more : (before ++ later :: after).countP Task.isSettling =
        (before ++ task :: after).countP Task.isSettling + 1 := by
      simp [List.countP_append, working, settling]
      omega
    rw [isMark, more, announcements_cons (fits working), Option.toList_some, List.singleton_append]

/-- Interleaved tasks that announce their numbers leave the marks of the numbers to come, in order. -/
theorem leaves_interleave {order : Nat -> Activity Call Answer Nat} {tasks : List (Task Call Answer α β)}
    (orders : ∀ count, (order count).Keeps (terms.unmarked mark) fun _ => True)
    (all : tasks.length = total)
    (announces : ∀ task ∈ tasks, task.Announces mark terms settle announced total) :
    Leaves mark terms (fun marks _ => marks = earlier ++
      announcements announced (tasks.countP Task.isSettling) total) earlier
        (interleave limit order settle tasks) := by
  refine interleave_induction (motive := fun tasks activity => tasks.length = total ->
    (∀ task ∈ tasks, task.Announces mark terms settle announced total) -> ∀ earlier,
      Leaves mark terms (fun marks _ => marks = earlier ++
        announcements announced (tasks.countP Task.isSettling) total) earlier activity)
    ?finished ?calls ?turns ?ordered (Nat.le_of_eq all) all announces earlier
  case finished =>
    intro tasks finished all _ earlier
    show earlier = earlier ++ announcements announced (tasks.countP Task.isSettling) total
    rw [countP_isSettling_of_finished finished, all]
    simp [announcements]
  case calls =>
    rintro before after task request later next number rfl calls fits inductionHypothesis all announces earlier
    obtain ⟨asks, onward, moves⟩ := (announces task (by simp)).calls calls fits
    refine ⟨asks, fun answer told => ?_⟩
    have ending := inductionHypothesis answer (by simpa using all)
      (forall_mem_replace announces (onward answer told)) (earlier ++ (mark request).toList)
    refine ending.mono fun marks _ same => ?_
    rw [same, List.append_assoc, announcements_of_calls fits (moves.imp ?_ ?_)]
    · exact fun ⟨noMark, sameState⟩ => ⟨noMark, sameState answer⟩
    · exact fun ⟨isMark, working, settling⟩ => ⟨isMark, working, settling answer⟩
  case turns =>
    intro before after task later next number turns fits _ _ announces
    exact absurd turns ((announces task (by simp)).not_turns fits)
  case ordered =>
    intro tasks count next inductionHypothesis all announces earlier
    refine leaves_bind.mpr ((orders count).leaves.mono fun marks index ends => ?_)
    obtain ⟨rfl, _⟩ := ends
    exact inductionHypothesis index all announces _

/-- Activities side by side that announce their numbers leave the marks of all numbers, in order. -/
theorem leaves_sideBySide (announced : Nat -> Mark) {order : Nat -> Activity Call Answer Nat}
    {activities : List (Activity Call Answer α)}
    (orders : ∀ count, (order count).Keeps (terms.unmarked mark) fun _ => True)
    (announces : ∀ activity ∈ activities, activity.Keeps (terms.unmarked mark) fun value =>
      ∀ number, number ≤ activities.length ->
        Announced mark terms (announced number) (settle number value)) :
    Leaves mark terms (fun marks _ => marks = earlier ++ announcements announced 0 activities.length) earlier
      (sideBySide limit order settle activities) := by
  have noneSettled : (activities.map .working : List (Task Call Answer α β)).countP Task.isSettling = 0 := by
    rw [List.countP_eq_zero]
    intro task member
    obtain ⟨activity, -, rfl⟩ := List.mem_map.mp member
    exact Bool.false_ne_true
  have each : ∀ task ∈ (activities.map .working : List (Task Call Answer α β)),
      task.Announces mark terms settle announced activities.length := by
    intro task member
    obtain ⟨activity, isActivity, rfl⟩ := List.mem_map.mp member
    exact announces activity isActivity
  have leaves : Leaves mark terms _ earlier
    (interleave limit order settle (activities.map .working)) :=
      leaves_interleave orders (List.length_map _) each
  rwa [noneSettled] at leaves

end RepoSurvey.Activity

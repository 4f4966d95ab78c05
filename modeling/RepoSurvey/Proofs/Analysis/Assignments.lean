import Mathlib
import RepoSurvey.Analysis.Schedule

/-!
# What becomes of planned tasks

Whatever was planned, the tasks of a schedule are about features that there are, and there is a task about each of
them. A planned task stays in its place with nothing changed but the feature it is about: its own if there is such a
feature, or else the last one with the name that it has as its title, and in either case only if no earlier task is
about it (`becomes_of_assignFeatures`). `prepareTasks_account` puts the schedule together from that. No two planned
tasks are about one feature, but tasks are added for all features that no planned one is about: features that share an
identifier get one each (`nodup_featureIds_iff`).
-/

/-! ## Features and their tasks -/

namespace RepoSurvey.Analysis

variable {features : List Feature} {covered : List String} {tasks : List DocumentTask}
  {task : DocumentTask} {id : String}

/-- A task resolves to a feature that there is. -/
theorem mem_of_resolve (resolved : task.resolve features = some id) :
    ∃ feature ∈ features, feature.id = id := by
  unfold DocumentTask.resolve at resolved
  split at resolved
  · next named isNamed =>
    obtain rfl := Option.some.inj resolved
    obtain ⟨-, known⟩ := Option.filter_eq_some_iff.mp isNamed
    obtain ⟨feature, member, same⟩ := List.any_eq_true.mp known
    exact ⟨feature, member, beq_iff_eq.mp same⟩
  · obtain ⟨feature, found, rfl⟩ := Option.map_eq_some_iff.mp resolved
    exact ⟨feature, List.mem_reverse.mp (List.mem_of_find?_eq_some found), rfl⟩

/-- Features are assigned to tasks from those that there are. -/
theorem mem_of_assignFeatures (member : task ∈ assignFeatures features covered tasks)
    (about : task.featureId = some id) : ∃ feature ∈ features, feature.id = id := by
  induction tasks generalizing covered with
  | nil => nomatch member
  | cons first tasks inductionHypothesis =>
    rcases List.mem_cons.mp member with rfl | member
    · exact mem_of_resolve (Option.filter_eq_some_iff.mp about).1
    · exact inductionHypothesis member

/-- The tasks of a schedule are about features that there are. -/
theorem feature_of_task {planned : List DocumentTask} {features : Features}
    (member : task ∈ prepareTasks planned features) (about : task.featureId = some id) :
    ∃ feature ∈ features.features, feature.id = id := by
  rcases List.mem_cons.mp member with rfl | member
  · nomatch about
  · rcases List.mem_append.mp member with kept | left
    · exact mem_of_assignFeatures kept about
    · obtain ⟨feature, isLeft, rfl⟩ := List.mem_map.mp left
      exact ⟨feature, (List.mem_filter.mp isLeft).1, Option.some.inj about⟩

/-- There is a task about every feature. -/
theorem task_of_feature (planned : List DocumentTask) {features : Features} {feature : Feature}
    (member : feature ∈ features.features) :
    ∃ task ∈ prepareTasks planned features, task.featureId = some feature.id := by
  unfold prepareTasks
  dsimp only
  generalize assignFeatures features.features [] (planned.filter fun task => !task.isOverview) = kept
  by_cases isCovered : feature.id ∈ kept.filterMap (·.featureId)
  · obtain ⟨task, isKept, about⟩ := List.mem_filterMap.mp isCovered
    exact ⟨task, .tail _ (List.mem_append_left _ isKept), about⟩
  · refine ⟨feature.task, .tail _ (List.mem_append_right _ (List.mem_map.mpr ⟨feature, ?_, rfl⟩)), rfl⟩
    exact List.mem_filter.mpr ⟨member, by simpa using isCovered⟩

end RepoSurvey.Analysis

namespace RepoSurvey.Analysis

variable {features : List Feature} {covered : List String} {tasks : List DocumentTask}
  {task kept : DocumentTask} {id : String}

/-! ## Features of tasks -/

namespace DocumentTask

/-- Whether a task has the name of a feature as its title, and an identifier is that of the last such feature. -/
def Names (features : List Feature) (task : DocumentTask) (id : String) : Prop :=
  ∃ earlier feature later, features = earlier ++ feature :: later ∧ feature.id = id ∧
    comparedName feature.name = comparedName task.title ∧
      ∀ other ∈ later, comparedName other.name ≠ comparedName task.title

/-- What becomes of a planned task when some features are taken by earlier ones. -/
structure Becomes (features : List Feature) (taken : String -> Prop) (task kept : DocumentTask) : Prop where
  /-- Nothing changes but the feature. -/
  unchanged : kept = { task with featureId := kept.featureId }
  /-- A task about a feature that there is stays with it if it is not taken, and is about none if it is. -/
  own : ∀ own, task.featureId = some own -> own ∈ features.map (·.id) ->
    ∀ id, kept.featureId = some id ↔ id = own ∧ ¬taken id
  /-- Any other task is about the feature that it has the name of, if that is not taken. -/
  named : (∀ own, task.featureId = some own -> own ∉ features.map (·.id)) ->
    ∀ id, kept.featureId = some id ↔ task.Names features id ∧ ¬taken id

/-- A task about a feature that there is resolves to it. -/
theorem resolve_own (isOwn : task.featureId = some id) (known : id ∈ features.map (·.id)) :
    task.resolve features = some id := by
  have isKnown : (features.any fun feature => feature.id == id) = true := by
    obtain ⟨feature, member, rfl⟩ := List.mem_map.mp known
    exact List.any_eq_true.mpr ⟨feature, member, beq_self_eq_true _⟩
  rw [resolve, isOwn, Option.filter_some, if_pos isKnown]

/-- Any other task resolves to the last feature that it has the name of. -/
theorem resolve_named (noOwn : ∀ own, task.featureId = some own -> own ∉ features.map (·.id)) :
    task.resolve features = some id ↔ task.Names features id := by
  have nothing : (task.featureId.filter fun id => features.any (·.id == id)) = none := by
    refine Option.filter_eq_none_iff.mpr fun own isOwn known => ?_
    obtain ⟨feature, member, same⟩ := List.any_eq_true.mp known
    exact noOwn own isOwn (List.mem_map.mpr ⟨feature, member, beq_iff_eq.mp same⟩)
  rw [resolve, nothing]
  simp only [Option.map_eq_some_iff, List.find?_eq_some_iff_append]
  constructor
  · rintro ⟨feature, ⟨isNamed, later, earlier, split, others⟩, rfl⟩
    refine ⟨earlier.reverse, feature, later.reverse, ?_, rfl, beq_iff_eq.mp isNamed, fun other member => ?_⟩
    · rw [← List.reverse_reverse features, split]
      simp
    · simpa using others other (List.mem_reverse.mp member)
  · rintro ⟨earlier, feature, later, rfl, rfl, isNamed, others⟩
    refine ⟨feature, ⟨beq_iff_eq.mpr isNamed, later.reverse, earlier.reverse, by simp, fun other member => ?_⟩, rfl⟩
    simpa using others other (List.mem_reverse.mp member)

/-- A task is about what it resolves to unless that is covered. -/
theorem becomes_resolve (features : List Feature) (covered : List String) (task : DocumentTask) :
    task.Becomes features (· ∈ covered)
      { task with featureId := (task.resolve features).filter fun id => !covered.contains id } := by
  have about : ∀ id, ((task.resolve features).filter fun id => !covered.contains id) = some id ↔
      task.resolve features = some id ∧ id ∉ covered := by
    simp [Option.filter_eq_some_iff]
  refine ⟨rfl, fun own isOwn known id => ?_, fun noOwn id => ?_⟩
  · rw [about, resolve_own isOwn known, Option.some.injEq, eq_comm]
  · rw [about, resolve_named noOwn]

end DocumentTask

/-! ## Planned tasks -/

/-- Every planned task is kept. -/
@[simp] theorem length_assignFeatures (features : List Feature) (covered : List String) (tasks : List DocumentTask) :
    (assignFeatures features covered tasks).length = tasks.length := by
  induction tasks generalizing covered with
  | nil => rfl
  | cons task tasks inductionHypothesis => simp [assignFeatures, inductionHypothesis]

/-- What becomes of a planned task depends on the features that are covered or that earlier tasks are about. -/
theorem becomes_of_assignFeatures {place : Nat} (isTask : tasks[place]? = some task)
    (isKept : (assignFeatures features covered tasks)[place]? = some kept) :
    task.Becomes features (fun id => id ∈ covered ∨
      ∃ earlier ∈ (assignFeatures features covered tasks).take place, earlier.featureId = some id) kept := by
  induction tasks generalizing covered place with
  | nil => nomatch isTask
  | cons first tasks inductionHypothesis =>
    cases place with
    | zero =>
      obtain rfl := Option.some.inj isTask
      obtain rfl := Option.some.inj isKept
      simpa using DocumentTask.becomes_resolve features covered first
    | succ place =>
      rw [assignFeatures, List.getElem?_cons_succ] at isKept
      -- What the first task is about is covered for the others.
      have becomes := inductionHypothesis isTask isKept
      simp only [List.mem_append, Option.mem_toList] at becomes
      simp only [assignFeatures, List.take_succ_cons, List.exists_mem_cons_iff]
      simpa only [or_assoc, or_left_comm] using becomes

/-- No two planned tasks are about one feature, nor is any about one that is covered. -/
theorem nodup_assignFeatures (features : List Feature) (covered : List String) (tasks : List DocumentTask) :
    ((assignFeatures features covered tasks).filterMap (·.featureId)).Nodup ∧
      ∀ id ∈ (assignFeatures features covered tasks).filterMap (·.featureId), id ∉ covered := by
  induction tasks generalizing covered with
  | nil => exact ⟨List.nodup_nil, nofun⟩
  | cons task tasks inductionHypothesis =>
    rw [assignFeatures, List.filterMap_cons]
    dsimp only
    cases about : (task.resolve features).filter fun id => !covered.contains id with
    | none => exact inductionHypothesis covered
    | some id =>
      obtain ⟨distinct, others⟩ := inductionHypothesis ((some id).toList ++ covered)
      have uncovered : id ∉ covered := by simpa using (Option.filter_eq_some_iff.mp about).2
      refine ⟨List.nodup_cons.mpr ⟨fun member => ?_, distinct⟩, List.forall_mem_cons.mpr ⟨uncovered, ?_⟩⟩
      · exact others id member (.head _)
      · exact fun other member isCovered => others other member (.tail _ isCovered)

/-! ## Schedules -/

/-- A task is not the overview when its title is not, compared without regard to case and surrounding white space. -/
theorem not_isOverview (task : DocumentTask) :
    (!task.isOverview) = decide (comparedName task.title ≠ "overview") := by
  have isTitle : comparedName overviewTask.title = "overview" := by decide +kernel
  rw [DocumentTask.isOverview, isTitle, Bool.eq_iff_iff]
  simp

/-- The planned tasks of a schedule, with the features that they are about. -/
def keptTasks (planned : List DocumentTask) (features : Features) : List DocumentTask :=
  assignFeatures features.features [] (planned.filter fun task => !task.isOverview)

/-- The features that no planned task of a schedule is about. -/
def leftFeatures (planned : List DocumentTask) (features : Features) : List Feature :=
  features.features.filter fun feature =>
    !((keptTasks planned features).filterMap (·.featureId)).contains feature.id

variable {planned : List DocumentTask} {features : Features}

/-- A schedule is the overview, the planned tasks and the tasks of the features left. -/
theorem prepareTasks_eq (planned : List DocumentTask) (features : Features) : prepareTasks planned features =
    overviewTask :: (keptTasks planned features ++ (leftFeatures planned features).map Feature.task) := rfl

/-- The features left are those that no planned task is about. -/
theorem mem_leftFeatures {feature : Feature} : feature ∈ leftFeatures planned features ↔
    feature ∈ features.features ∧ ∀ task ∈ keptTasks planned features, task.featureId ≠ some feature.id := by
  simp [leftFeatures, List.mem_filter]

/-- **Schedules.** A schedule is the overview, then the planned tasks that are not the overview under its own title, in
their order and with nothing changed but the features that they are about, then tasks of features that no planned task
is about. Its tasks are about features that there are, and there is one about each of them. -/
theorem prepareTasks_account (planned : List DocumentTask) (features : Features) :
    let titled := planned.filter fun task => comparedName task.title ≠ "overview"
    ∃ (kept : List DocumentTask) (left : List Feature),
      prepareTasks planned features = overviewTask :: (kept ++ left.map Feature.task) ∧
      kept.length = titled.length ∧
      (∀ (place : Nat) (task after : DocumentTask), titled[place]? = some task -> kept[place]? = some after ->
        task.Becomes features.features (fun id => ∃ earlier ∈ kept.take place, earlier.featureId = some id) after) ∧
      left.Sublist features.features ∧
      (∀ feature, feature ∈ left ↔ feature ∈ features.features ∧ ∀ task ∈ kept, task.featureId ≠ some feature.id) ∧
      (∀ task ∈ prepareTasks planned features, ∀ id, task.featureId = some id ->
        ∃ feature ∈ features.features, feature.id = id) ∧
      ∀ feature ∈ features.features, ∃ task ∈ prepareTasks planned features, task.featureId = some feature.id := by
  intro titled
  have sameTitled : (planned.filter fun task => !task.isOverview) = titled :=
    List.filter_congr fun task _ => not_isOverview task
  refine ⟨keptTasks planned features, leftFeatures planned features, prepareTasks_eq planned features, ?_, ?_,
    List.filter_sublist, fun feature => mem_leftFeatures, fun task member id => feature_of_task member,
    fun feature => task_of_feature planned⟩
  · rw [keptTasks, length_assignFeatures, sameTitled]
  · intro place task after isTask isAfter
    rw [← sameTitled] at isTask
    simpa [keptTasks] using becomes_of_assignFeatures isTask isAfter

/-- Features of which the first two have one name but for case and white space. -/
def billingFeatures : Features :=
  ⟨[⟨"F1", "Billing", "", none, [], [], [], []⟩, ⟨"F2", "BILLING ", "", none, [], [], [], []⟩,
    ⟨"F3", "Intake", "", none, [], [], [], []⟩], ""⟩

/-- Tasks of which the first is an overview, the second is about a feature that there is not, and the last is about the
one that the second has the name of. -/
def billingTasks : List DocumentTask :=
  [⟨"OVERVIEW", "", "", "", some "F1"⟩, ⟨"Billing", "", "", "", some "F9"⟩, ⟨"More", "", "", "", some "F1"⟩,
    ⟨" billing ", "", "", "", some "F2"⟩]

/-- The last feature with its name goes to the first task that is kept, so that the last task is about none, and a task
is added for the third feature. -/
theorem billingTasks_accounted :
    (prepareTasks billingTasks billingFeatures).map (·.featureId) =
        [none, some "F2", some "F1", none, some "F3"] ∧
      ∃ (kept : List DocumentTask) (left : List Feature),
        prepareTasks billingTasks billingFeatures = overviewTask :: (kept ++ left.map Feature.task) ∧
          kept.length = 3 ∧ (∀ first, kept[0]? = some first -> first.featureId = some "F2") ∧
            ∀ feature ∈ left, ∀ task ∈ kept, task.featureId ≠ some feature.id := by
  refine ⟨by decide +kernel, ?_⟩
  obtain ⟨kept, left, isSchedule, size, becomes, -, isLeft, -, -⟩ := prepareTasks_account billingTasks billingFeatures
  refine ⟨kept, left, isSchedule, size.trans (by decide +kernel), fun first isFirst => ?_,
    fun feature member => ((isLeft feature).mp member).2⟩
  have named := (becomes 0 ⟨"Billing", "", "", "", some "F9"⟩ first (by decide +kernel) isFirst).named
    (by simp [billingFeatures])
  refine (named "F2").mpr ⟨⟨[_], _, [_], rfl, rfl, by decide +kernel, ?_⟩, by simp⟩
  simp only [List.forall_mem_singleton]
  decide +kernel

/-! ## Tasks about one feature -/

/-- How many tasks of a schedule are about a feature: one if a planned task is, or else one for each feature that has
this identifier. -/
theorem count_featureIds (planned : List DocumentTask) (features : Features) (id : String) :
    ((prepareTasks planned features).filterMap (·.featureId)).count id =
      if id ∈ (keptTasks planned features).filterMap (·.featureId) then 1
      else (features.features.map (·.id)).count id := by
  generalize isTaken : (keptTasks planned features).filterMap (·.featureId) = taken
  have distinct : taken.Nodup := isTaken ▸ (nodup_assignFeatures _ _ _).1
  have ofLeft : ((leftFeatures planned features).map Feature.task).filterMap (·.featureId) =
      (features.features.map (·.id)).filter fun id => !taken.contains id := by
    rw [List.filterMap_map, leftFeatures, isTaken, List.filter_map, ← List.filterMap_eq_map]
    rfl
  rw [prepareTasks_eq, List.filterMap_cons_none rfl, List.filterMap_append, isTaken, ofLeft, List.count_append]
  by_cases known : id ∈ taken
  · have none : id ∉ (features.features.map (·.id)).filter fun id => !taken.contains id := by
      simp [known]
    rw [if_pos known, List.count_eq_one_of_mem distinct known, List.count_eq_zero_of_not_mem none]
  · rw [if_neg known, List.count_eq_zero_of_not_mem known, Nat.zero_add, List.count_filter (by simpa using known)]

/-- **Tasks of features.** No two planned tasks of a schedule are about one feature. No two tasks at all are exactly
when a planned task is about every identifier that features share. -/
theorem nodup_featureIds_iff (planned : List DocumentTask) (features : Features) :
    ((keptTasks planned features).filterMap (·.featureId)).Nodup ∧
      (((prepareTasks planned features).filterMap (·.featureId)).Nodup ↔
        ∀ id, 1 < (features.features.map (·.id)).count id ->
          ∃ task ∈ keptTasks planned features, task.featureId = some id) := by
  refine ⟨(nodup_assignFeatures _ _ _).1, ?_⟩
  rw [List.nodup_iff_count_le_one]
  refine forall_congr' fun id => ?_
  rw [count_featureIds, ← List.mem_filterMap]
  split
  · next isKept => simp [isKept]
  · next isLeft => simp only [isLeft, imp_false, Nat.not_lt]

/-- Two features that have one identifier. -/
def twinFeatures : Features :=
  ⟨[⟨"F1", "Billing", "", none, [], [], [], []⟩, ⟨"F1", "Intake", "", none, [], [], [], []⟩], ""⟩

/-- Without a planned task there are two about what twins share, and with one that is about it there is no other. -/
theorem twinFeatures_repeated :
    ¬((prepareTasks [] twinFeatures).filterMap (·.featureId)).Nodup ∧
      ((prepareTasks [⟨"Intake", "", "", "", none⟩] twinFeatures).filterMap (·.featureId)).Nodup := by
  refine ⟨fun distinct => ?_, ?_⟩
  · obtain ⟨task, member, -⟩ := (nodup_featureIds_iff [] twinFeatures).2.mp distinct "F1" (by decide)
    nomatch member
  · refine (nodup_featureIds_iff [⟨"Intake", "", "", "", none⟩] twinFeatures).2.mpr fun id shared => ?_
    obtain rfl : id = "F1" := by
      by_contra other
      rw [List.count_eq_zero_of_not_mem (by simpa [twinFeatures] using other)] at shared
      nomatch shared
    exact ⟨⟨"Intake", "", "", "", some "F1"⟩, by decide +kernel, rfl⟩

end RepoSurvey.Analysis

import Mathlib

/-!
# Outcomes

Facts about outcomes that are either a value or a fault: when a sequence of steps comes to a value, and
what became of a value on the way.
-/

namespace RepoSurvey

variable {ε δ α β : Type}

/-- Going on from a value. -/
theorem ok_bind (value : α) (next : α -> Except ε β) : (Except.ok value >>= next) = next value := rfl

/-- What goes on to a value went on from one. -/
theorem bind_eq_ok {first : Except ε α} {next : α -> Except ε β} {value : β} :
    (first >>= next) = .ok value ↔ ∃ found, first = .ok found ∧ next found = .ok value := by
  cases first with
  | error fault =>
    constructor
    · intro same
      nomatch same
    · rintro ⟨_, same, _⟩
      nomatch same
  | ok found =>
    constructor
    · intro same
      exact ⟨found, rfl, same⟩
    · rintro ⟨_, same, later⟩
      cases same
      exact later

/-- What was made of a value was made of one. -/
theorem map_eq_ok {outcome : Except ε α} {change : α -> β} {value : β} :
    outcome.map change = .ok value ↔ ∃ found, outcome = .ok found ∧ change found = value := by
  cases outcome <;> simp [Except.map]

/-- Making something of a value leaves it a value. -/
theorem exists_map_eq_ok {outcome : Except ε α} {change : α -> β} :
    (∃ value, outcome.map change = .ok value) ↔ ∃ value, outcome = .ok value := by
  cases outcome <;> simp [Except.map]

/-- Telling a fault in other words leaves values alone. -/
theorem mapError_eq_ok {outcome : Except ε α} {change : ε -> δ} {value : α} :
    outcome.mapError change = .ok value ↔ outcome = .ok value := by
  cases outcome <;> simp [Except.mapError]

/-- A fault told in other words was a fault. -/
theorem mapError_eq_error {outcome : Except ε α} {change : ε -> δ} {fault : δ} :
    outcome.mapError change = .error fault ↔ ∃ found, outcome = .error found ∧ change found = fault := by
  cases outcome <;> simp [Except.mapError]

/-- What is kept of an outcome was a value. -/
theorem ok_of_toOption {outcome : Except ε α} {value : α} (kept : outcome.toOption = some value) :
    outcome = .ok value := by
  cases outcome with
  | error fault => nomatch kept
  | ok found => exact congrArg Except.ok (Option.some.inj kept)

/-- Nothing is kept of an outcome that was a fault. -/
theorem error_of_toOption {outcome : Except ε α} (nothing : outcome.toOption = none) :
    ∃ fault, outcome = .error fault := by
  cases outcome with
  | error fault => exact ⟨fault, rfl⟩
  | ok found => nomatch nothing

/-! ## Items one after another -/

variable {σ : Type}

/-- Items that are noted one after another can be read first, all of them, and then put on top of what there is. -/
theorem noteAll_eq (noteAll : List α -> σ -> Except ε σ) (read : α -> Except ε β) (put : σ -> β -> σ)
    (nothing : ∀ found, noteAll [] found = .ok found)
    (onward : ∀ item items found, noteAll (item :: items) found =
      (read item).map (put found) >>= noteAll items) (items : List α) (found : σ) :
    noteAll items found = (items.mapM read).map fun parts => parts.foldl put found := by
  induction items generalizing found with
  | nil => exact nothing found
  | cons item items inductionHypothesis =>
    rw [onward, List.mapM_cons]
    cases read item with
    | error problem => rfl
    | ok part =>
      rw [ok_bind, Except.map, ok_bind, inductionHypothesis]
      cases items.mapM read <;> rfl

/-- Items of which some are passed over can be read first as well. -/
theorem noteSome_eq (noteAll : List α -> σ -> Except ε σ) (read : α -> Except ε (Option β)) (put : σ -> β -> σ)
    (nothing : ∀ found, noteAll [] found = .ok found)
    (onward : ∀ item items found, noteAll (item :: items) found =
      (read item).map (fun part => part.elim found (put found)) >>= noteAll items) (items : List α) (found : σ) :
    noteAll items found = (items.filterMapM read).map fun parts => parts.foldl put found := by
  induction items generalizing found with
  | nil => exact nothing found
  | cons item items inductionHypothesis =>
    rw [onward, List.filterMapM_cons]
    rcases read item with problem | - | part
    · rfl
    · exact inductionHypothesis found
    · rw [ok_bind, Except.map, ok_bind, inductionHypothesis]
      dsimp only [Option.elim]
      cases items.filterMapM read <;> rfl

/-- Items are read when each of them is. -/
theorem mapM_eq_ok {read : α -> Except ε β} {items : List α} :
    (∃ parts, items.mapM read = .ok parts) ↔ ∀ item ∈ items, ∃ part, read item = .ok part := by
  induction items with
  | nil => exact iff_of_true ⟨[], rfl⟩ (List.forall_mem_nil _)
  | cons item items inductionHypothesis =>
    rw [List.mapM_cons, List.forall_mem_cons, ← inductionHypothesis]
    rcases read item with problem | part
    · simp [bind, Except.bind]
    · rcases items.mapM read with problem | parts <;> simp [bind, Except.bind, pure, Except.pure]

/-- Items that are made of others are read as they are made. -/
theorem filterMapM_map {γ : Type} (read : α -> Except ε (Option β)) (make : γ -> α) (sources : List γ) :
    (sources.map make).filterMapM read = sources.filterMapM fun source => read (make source) := by
  induction sources with
  | nil => rfl
  | cons source sources inductionHypothesis =>
    rw [List.map_cons, List.filterMapM_cons, List.filterMapM_cons, inductionHypothesis]

/-- Items are read in two parts. -/
theorem filterMapM_append (read : α -> Except ε (Option β)) (earlier later : List α) :
    (earlier ++ later).filterMapM read = (earlier.filterMapM read >>= fun before =>
      (later.filterMapM read).map (before ++ ·)) := by
  induction earlier with
  | nil => cases filtered : later.filterMapM read <;> rw [List.nil_append, filtered] <;> rfl
  | cons item items inductionHypothesis =>
    rw [List.cons_append, List.filterMapM_cons, List.filterMapM_cons]
    rcases read item with problem | - | part
    · rfl
    · exact inductionHypothesis
    · rw [ok_bind, ok_bind]
      dsimp only
      rw [inductionHypothesis]
      cases items.filterMapM read with
      | error problem => rfl
      | ok before => cases later.filterMapM read <;> rfl

/-- Items of which some are passed over are read when each of them is, and come to what the others come to. -/
theorem filterMapM_eq_ok {read : α -> Except ε (Option β)} {items : List α} {parts : List β} :
    items.filterMapM read = .ok parts ↔
      (∀ item ∈ items, ∃ part, read item = .ok part) ∧
        parts = items.filterMap fun item => (read item).toOption.join := by
  induction items generalizing parts with
  | nil => simp [pure, Except.pure, eq_comm]
  | cons item items inductionHypothesis =>
    rw [List.filterMapM_cons, List.forall_mem_cons, List.filterMap_cons]
    rcases read item with problem | - | part
    · simp [bind, Except.bind]
    · simpa [ok_bind, Except.toOption] using inductionHypothesis
    · rw [ok_bind]
      constructor
      · intro same
        obtain ⟨later, reads, same⟩ := bind_eq_ok.mp same
        obtain ⟨each, rfl⟩ := inductionHypothesis.mp reads
        exact ⟨⟨⟨_, rfl⟩, each⟩, (Except.ok.inj same).symm⟩
      · rintro ⟨⟨-, each⟩, rfl⟩
        exact bind_eq_ok.mpr ⟨_, inductionHypothesis.mpr ⟨each, rfl⟩, rfl⟩

end RepoSurvey

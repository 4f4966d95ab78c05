import RepoSurvey.Proofs.Json.RoundTrip
import RepoSurvey.Proofs.Outcomes
import RepoSurvey.Store.Cache

/-!
# What caches keep

`Cache.kept?` is what a cache of either kind keeps under a key: a value, and when its time is over. Looking
for a value, keeping one and dropping one are told in these terms, so that nothing further depends on the
kind of cache. A text in a table that does not read is kept, but holds no value.
-/

namespace RepoSurvey.Store

open Clock (Moment)
open Json (Amount ShapeFault)

/-- What is kept under a key: a value, if it can be read, and whether its time is over at a moment. -/
structure Kept where
  value : Option Json
  isOver : Moment -> Except ShapeFault Bool

namespace Cache

variable {cache : Cache} {key other : String} {now later : Moment}

/-- What a cache keeps under a key. -/
def kept? (key : String) : Cache -> Option Kept
  | .memory store => (store.entries.get? key).map fun held => ⟨some held.value, held.isOver⟩
  | .table shelf => (shelf.rows.get? key).map fun stored =>
    ⟨(Json.readAll stored.text).toOption, fun now => .ok (stored.isOver now)⟩

/-- The value under a key, whether or not its time is over. -/
def held? (key : String) (cache : Cache) : Option Json := (cache.kept? key).bind Kept.value

/-- What comes of looking for what is kept. -/
def found (now : Moment) : Option Kept -> Except CacheFault (Option Json)
  | none => .ok none
  | some kept =>
    match kept.isOver now with
    | .error fault => .error (.lifetime fault)
    | .ok true => .ok none
    | .ok false => .ok kept.value

/-- Looking for a value finds what is kept under its key. -/
theorem get_fst (cache : Cache) (key : String) (now : Moment) :
    (cache.get key now).1 = found now (cache.kept? key) := by
  cases cache with
  | memory store =>
    simp only [get, Memory.get, kept?]
    cases store.entries.get? key with
    | none => rfl
    | some held =>
      simp only [Option.map_some, found]
      split <;> simp_all
  | table shelf =>
    simp only [get, Table.get, kept?]
    cases shelf.rows.get? key with
    | none => rfl
    | some stored =>
      simp only [Option.map_some, found]
      split <;> simp_all

/-- Looking for a value leaves the others alone. -/
theorem kept?_get_of_ne (different : other ≠ key) :
    (cache.get key now).2.kept? other = cache.kept? other := by
  cases cache with
  | memory store =>
    simp only [get, Memory.get]
    split
    · rfl
    · split
      · rfl
      · simp only [kept?, Shelf.get?_remove_of_ne different]
      · rfl
  | table shelf =>
    simp only [get, Table.get]
    split
    · rfl
    · split
      · simp only [kept?, Shelf.get?_remove_of_ne different]
      · rfl

/-- Looking for a value drops it when its time is over, and otherwise leaves it alone. -/
theorem kept?_get_self (cache : Cache) (key : String) (now : Moment) :
    (cache.get key now).2.kept? key = cache.kept? key ∨
      (cache.get key now).2.kept? key = none ∧
        ∃ kept, cache.kept? key = some kept ∧ kept.isOver now = .ok true := by
  cases cache with
  | memory store =>
    simp only [get, Memory.get]
    cases isHeld : store.entries.get? key with
    | none => exact .inl rfl
    | some held =>
      dsimp only
      split
      · exact .inl rfl
      · next past =>
        refine .inr ⟨by simp [kept?], ⟨some held.value, held.isOver⟩, ?_, past⟩
        simp [kept?, isHeld]
      · exact .inl rfl
  | table shelf =>
    simp only [get, Table.get]
    cases isStored : shelf.rows.get? key with
    | none => exact .inl rfl
    | some stored =>
      dsimp only
      split
      · next past =>
        refine .inr ⟨by simp [kept?], ⟨(Json.readAll stored.text).toOption,
          fun now => .ok (stored.isOver now)⟩, ?_, congrArg Except.ok past⟩
        simp [kept?, isStored]
      · exact .inl rfl

/-- A look that comes to a fault changes nothing. -/
theorem get_snd_of_fault (fault : ∀ found, (cache.get key now).1 ≠ .ok found) :
    (cache.get key now).2 = cache := by
  cases cache with
  | memory store =>
    simp only [get, Memory.get] at fault ⊢
    split
    · rfl
    · split <;> simp_all
  | table shelf => exact absurd rfl (fault _)

/-- What a table keeps a value as: its text and the end of its time. -/
theorem table_set_ok {shelf changed : Table} {value : Json} {lifetime : Lifetime}
    (kept : shelf.set key value lifetime now = .ok changed) :
    value.integersFit = true ∧ ∃ ends, lifetime.endFrom now = .ok ends ∧ ends ≠ .undefined ∧
      changed = ⟨shelf.rows.put key ⟨Json.write .compact 0 value, ends⟩⟩ := by
  unfold Table.set at kept
  split at kept
  · nomatch kept
  · next fits =>
    obtain ⟨ends, ended, kept⟩ := bind_eq_ok.mp kept
    split at kept
    · nomatch kept
    · next known =>
      obtain rfl := Except.ok.inj kept
      exact ⟨by simpa using fits, ends, mapError_eq_ok.mp ended, known, rfl⟩

/-- Keeping a value leaves the others alone, whatever comes of it. -/
theorem kept?_set_of_ne (different : other ≠ key) (value : Json) (lifetime : Lifetime) :
    (cache.set key value lifetime now).2.kept? other = cache.kept? other := by
  cases cache with
  | memory store => simp only [set, Memory.set, kept?, Shelf.get?_put_of_ne different]
  | table shelf =>
    simp only [set]
    split
    · next rows changed =>
      obtain ⟨-, ends, -, -, rfl⟩ := table_set_ok changed
      simp only [kept?, Shelf.get?_put_of_ne different]
    · rfl

/-- A value that cannot be kept changes nothing. -/
theorem set_snd_of_fault {value : Json} {lifetime : Lifetime}
    (fault : (cache.set key value lifetime now).1 ≠ .ok ()) :
    (cache.set key value lifetime now).2 = cache := by
  cases cache with
  | memory store => exact absurd rfl fault
  | table shelf =>
    simp only [set] at fault ⊢
    split
    · simp_all
    · rfl

/-- Dropping a value leaves the others alone. -/
theorem kept?_delete_of_ne (different : other ≠ key) : (cache.delete key).kept? other = cache.kept? other := by
  cases cache with
  | memory store => simp only [delete, Memory.delete, kept?, Shelf.get?_remove_of_ne different]
  | table shelf => simp only [delete, Table.delete, kept?, Shelf.get?_remove_of_ne different]

/-- A value that was dropped is not kept. -/
@[simp] theorem kept?_delete_self (cache : Cache) (key : String) : (cache.delete key).kept? key = none := by
  cases cache with
  | memory store => simp only [delete, Memory.delete, kept?, Shelf.get?_remove_self, Option.map_none]
  | table shelf => simp only [delete, Table.delete, kept?, Shelf.get?_remove_self, Option.map_none]

/-- Later times are longer after an earlier one. -/
theorem inSeconds_since (later now : Moment) : Lifetime.inSeconds (later.since now) =
    Lifetime.inSeconds later.microseconds - Lifetime.inSeconds now.microseconds := by
  simp only [Lifetime.inSeconds, Moment.since, Rat.intCast_sub]
  ring

/-- More microseconds are more seconds. -/
theorem inSeconds_le {fewer more : Int} (le : fewer ≤ more) :
    Lifetime.inSeconds fewer ≤ Lifetime.inSeconds more := by
  have cast : (fewer : ℚ) ≤ more := by exact_mod_cast le
  exact div_le_div_of_nonneg_right cast (by decide)

/-- An end is passed when more time has gone by than there was until it. -/
theorem isOver_endFrom {lifetime : Lifetime} {ends : Amount} (text : List Char)
    (ended : lifetime.endFrom now = .ok ends) (known : ends ≠ .undefined) (later : Moment) :
    lifetime.isOver (later.since now) = .ok (Stored.isOver ⟨text, ends⟩ later) := by
  cases lifetime with
  | strange kind => nomatch ended
  | seconds amount =>
    cases amount with
    | undefined =>
      obtain rfl := Except.ok.inj ended
      exact absurd rfl known
    | infinite negative =>
      obtain rfl := Except.ok.inj ended
      cases negative <;> rfl
    | exact amount =>
      obtain rfl := Except.ok.inj ended
      simp only [Lifetime.isOver, Stored.isOver, Amount.exact_exceeds_exact, inSeconds_since,
        Except.ok.injEq, decide_eq_decide]
      constructor <;> intro less <;> linarith

/-- A value that was kept is kept as it is, for its lifetime. -/
theorem kept?_set_self {value : Json} {lifetime : Lifetime} {changed : Cache} (sound : value.Sound)
    (kept : cache.set key value lifetime now = (.ok (), changed)) :
    changed.kept? key = some ⟨some value, fun later => lifetime.isOver (later.since now)⟩ := by
  cases cache with
  | memory store =>
    obtain ⟨-, rfl⟩ := Prod.mk.inj kept
    simp only [Memory.set, kept?, Shelf.get?_put_self, Option.map_some]
    rfl
  | table shelf =>
    simp only [set] at kept
    split at kept
    · next rows isSet =>
      obtain ⟨-, rfl⟩ := Prod.mk.inj kept
      obtain ⟨fits, ends, ended, known, rfl⟩ := table_set_ok isSet
      have same := isOver_endFrom (Json.write .compact 0 value) ended known
      simp only [kept?, Shelf.get?_put_self, Option.map_some, Json.readAll_write sound fits,
        ← funext same]
      rfl
    · cases kept

/-- A later time exceeds what an earlier one does. -/
theorem exceeds_mono {earlier later : ℚ} {amount : Amount} (le : earlier ≤ later)
    (exceeds : (Amount.exact earlier).exceeds amount = true) :
    (Amount.exact later).exceeds amount = true := by
  cases amount with
  | exact value =>
    simp only [Amount.exact_exceeds_exact, decide_eq_true_eq] at exceeds ⊢
    exact lt_of_lt_of_le exceeds le
  | infinite negative => cases negative <;> exact exceeds
  | undefined => nomatch exceeds

/-- What is over stays over. -/
theorem isOver_mono {kept : Kept} (isKept : cache.kept? key = some kept) (le : now.microseconds ≤
    later.microseconds) (past : kept.isOver now = .ok true) : kept.isOver later = .ok true := by
  cases cache with
  | memory store =>
    obtain ⟨⟨value, since, lifetime⟩, -, rfl⟩ := Option.map_eq_some_iff.mp isKept
    cases lifetime with
    | strange kind => nomatch past
    | seconds amount =>
      refine congrArg Except.ok (exceeds_mono (inSeconds_le ?_) (Except.ok.inj past))
      unfold Moment.since
      omega
  | table shelf =>
    obtain ⟨stored, -, rfl⟩ := Option.map_eq_some_iff.mp isKept
    exact congrArg Except.ok (exceeds_mono (inSeconds_le le) (Except.ok.inj past))

/-! ## Values and lookups -/

/-- A value that is found is held. -/
theorem held?_of_get {value : Json} (isFound : (cache.get key now).1 = .ok (some value)) :
    cache.held? key = some value := by
  rw [get_fst] at isFound
  unfold held?
  cases isKept : cache.kept? key with
  | none => simp [isKept, found] at isFound
  | some kept =>
    simp only [isKept, found] at isFound
    split at isFound
    · nomatch isFound
    · nomatch isFound
    · exact Except.ok.inj isFound

/-- After looking for values no others are held than before. -/
theorem held?_get {value : Json} (isHeld : (cache.get key now).2.held? other = some value) :
    cache.held? other = some value := by
  unfold held? at *
  by_cases same : other = key
  · subst same
    rcases kept?_get_self cache other now with kept | ⟨dropped, -⟩
    · rwa [kept] at isHeld
    · simp [dropped] at isHeld
  · rwa [kept?_get_of_ne same] at isHeld

/-- After looking for a value in vain none is held. -/
theorem held?_get_of_none (nothing : (cache.get key now).1 = .ok none) :
    (cache.get key now).2.held? key = none := by
  cases cache with
  | memory store =>
    simp only [get, Memory.get] at nothing ⊢
    cases isHeld : store.entries.get? key with
    | none => simp [held?, kept?, isHeld]
    | some held =>
      simp only [isHeld] at nothing ⊢
      cases past : held.isOver now with
      | error fault => simp [past] at nothing
      | ok isOver =>
        cases isOver with
        | false => simp [past] at nothing
        | true => simp [held?, kept?]
  | table shelf =>
    simp only [get, Table.get] at nothing ⊢
    cases isStored : shelf.rows.get? key with
    | none => simp [held?, kept?, isStored]
    | some stored =>
      simp only [isStored] at nothing ⊢
      by_cases past : stored.isOver now = true
      · simp [past, held?, kept?]
      · simp only [if_neg past, Except.ok.injEq] at nothing ⊢
        simp [held?, kept?, isStored, nothing]

/-- After dropping a value no others are held than before. -/
theorem held?_delete {value : Json} (isHeld : (cache.delete key).held? other = some value) :
    cache.held? other = some value := by
  unfold held? at *
  by_cases same : other = key
  · subst same
    rw [kept?_delete_self] at isHeld
    nomatch isHeld
  · rwa [kept?_delete_of_ne same] at isHeld

/-- Looking for a value does not change what is found under any key later on. -/
theorem found_get (le : now.microseconds ≤ later.microseconds) :
    found later ((cache.get key now).2.kept? other) = found later (cache.kept? other) := by
  by_cases same : other = key
  · subst same
    rcases kept?_get_self cache other now with kept | ⟨dropped, kept, isKept, past⟩
    · rw [kept]
    · simp only [dropped, isKept, found, isOver_mono isKept le past]
  · rw [kept?_get_of_ne same]

end Cache

end RepoSurvey.Store

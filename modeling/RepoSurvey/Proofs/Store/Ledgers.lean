import RepoSurvey.Proofs.Store.Caches

/-!
# What caches are asked, and what they answer

A ledger says of every key which value was kept under it last and until when. Caches of both kinds reflect
it: every dealing with a cache, with whatever time between, leaves it reflecting the ledger of that dealing
(`Reflects.carryOut`), and a sweep changes nothing that the ledger says. So the two kinds of cache give the
same answers to everything they are asked (`memory_agrees_with_table`). Values are sound and their integers
can be written; lifetimes are whole seconds, which may be none or fewer. How many values a sweep drops is
not told.
-/

namespace RepoSurvey.Store

open Clock (Moment)

/-- Something done with a cache, or a wait. -/
inductive Dealing where
  /-- Keep a value for some seconds. -/
  | keep (key : String) (value : Json) (seconds : Int)
  /-- Look for a value. -/
  | look (key : String)
  /-- Drop a value. -/
  | drop (key : String)
  /-- Let some microseconds pass. -/
  | wait (microseconds : Nat)
  /-- Drop all values in memory whose time is over. -/
  | sweep
  deriving DecidableEq

/-- What a cache says to a dealing. -/
inductive CacheReply where
  | kept (outcome : Except CacheFault Unit)
  | found (outcome : Except CacheFault (Option Json))
  deriving DecidableEq

namespace Dealing

/-- Whether a dealing keeps only values that any cache can keep. -/
def IsFit : Dealing -> Prop
  | .keep _ value _ => value.Sound ∧ value.integersFit = true
  | _ => True

/-- The moment after a dealing. -/
def later (now : Moment) : Dealing -> Moment
  | .wait microseconds => now.after microseconds
  | _ => now

/-- Deal with a cache. -/
def carryOut (now : Moment) (cache : Cache) : Dealing -> Option CacheReply × Cache
  | .keep key value seconds =>
    let (outcome, cache) := cache.set key value (.ofSeconds seconds) now
    (some (.kept outcome), cache)
  | .look key =>
    let (outcome, cache) := cache.get key now
    (some (.found outcome), cache)
  | .drop key => (none, cache.delete key)
  | .wait _ => (none, cache)
  | .sweep => (none, (cache.purge now).2)

/-- Deal with a cache again and again. -/
def carryOutAll (now : Moment) (cache : Cache) : List Dealing -> List CacheReply
  | [] => []
  | dealing :: dealings =>
    let (reply, cache) := dealing.carryOut now cache
    reply.toList ++ carryOutAll (dealing.later now) cache dealings

end Dealing

/-! ## Ledgers -/

/-- Under each key the value that was kept last, and the last microsecond at which it is found. -/
abbrev Ledger := String -> Option (Json × Int)

namespace Ledger

variable {ledger : Ledger} {key : String} {now : Moment}

/-- A ledger without values. -/
def empty : Ledger := fun _ => none

/-- The value that is found under a key. -/
def find (ledger : Ledger) (key : String) (now : Moment) : Option Json :=
  (ledger key).bind fun (value, last) => if now.microseconds ≤ last then some value else none

/-- A ledger in which something else stands under a key. -/
def write (key : String) (entry : Option (Json × Int)) (ledger : Ledger) : Ledger := fun other =>
  if other = key then entry else ledger other

/-- What a dealing makes of a ledger. -/
def after (now : Moment) (ledger : Ledger) : Dealing -> Ledger
  | .keep key value seconds => ledger.write key (some (value, now.microseconds + seconds * Moment.perSecond))
  | .drop key => ledger.write key none
  | .look _ | .wait _ | .sweep => ledger

/-- What there is to say to a dealing. -/
def reply (now : Moment) (ledger : Ledger) : Dealing -> Option CacheReply
  | .keep _ _ _ => some (.kept (.ok ()))
  | .look key => some (.found (.ok (ledger.find key now)))
  | .drop _ | .wait _ | .sweep => none

/-- What there is to say to one dealing after the other. -/
def replies (now : Moment) (ledger : Ledger) : List Dealing -> List CacheReply
  | [] => []
  | dealing :: dealings =>
    (ledger.reply now dealing).toList ++ replies (dealing.later now) (ledger.after now dealing) dealings

/-- What was just written is found. -/
@[simp] theorem find_write_self (entry : Option (Json × Int)) :
    (ledger.write key entry).find key now =
      entry.bind fun (value, last) => if now.microseconds ≤ last then some value else none := by
  simp [find, write]

/-- What stands under other keys is found as before. -/
theorem find_write_of_ne {other : String} (different : other ≠ key) (entry : Option (Json × Int)) :
    (ledger.write key entry).find other now = ledger.find other now := by
  simp [find, write, different]

/-- Sweeps can be left out. -/
theorem replies_filter_sweep (dealings : List Dealing) : ledger.replies now (dealings.filter (· ≠ .sweep)) =
    ledger.replies now dealings := by
  induction dealings generalizing ledger now with
  | nil => rfl
  | cons dealing dealings inductionHypothesis =>
    by_cases isSweep : dealing = .sweep
    · subst isSweep
      simpa [replies, reply, after, Dealing.later] using inductionHypothesis
    · simp only [List.filter_cons, decide_eq_true isSweep, if_true, replies, inductionHypothesis]

end Ledger

/-! ## Shelves with one value under each name -/

namespace Shelf

variable {α : Type} {shelf : Shelf α} {name : String}

/-- Whether no name stands on a shelf twice. -/
def IsDistinct (shelf : Shelf α) : Prop := (shelf.map Prod.fst).Nodup

/-- Nothing is found under a name that does not stand on the shelf. -/
theorem get?_of_notMem (absent : name ∉ shelf.map Prod.fst) : shelf.get? name = none := by
  induction shelf with
  | nil => rfl
  | cons entry rest inductionHypothesis =>
    obtain ⟨other, value⟩ := entry
    simp only [List.map_cons, List.mem_cons, not_or] at absent
    rw [get?, if_neg (Ne.symm absent.1), inductionHypothesis absent.2]

/-- The names on a shelf after a value was put there. -/
theorem mem_names_put {other : String} {value : α} (stands : other ∈ (shelf.put name value).map Prod.fst) :
    other = name ∨ other ∈ shelf.map Prod.fst := by
  induction shelf with
  | nil => exact .inl (List.mem_singleton.mp stands)
  | cons entry rest inductionHypothesis =>
    obtain ⟨held, old⟩ := entry
    by_cases same : held = name
    · rw [put, if_pos same] at stands
      exact (List.mem_cons.mp stands).imp_right (List.mem_cons_of_mem _)
    · rw [put, if_neg same] at stands
      rcases List.mem_cons.mp stands with rfl | later
      · exact .inr (.head _)
      · exact (inductionHypothesis later).imp_right (List.mem_cons_of_mem _)

/-- A value put under a name takes the place of the one that was there. -/
theorem IsDistinct.put (distinct : shelf.IsDistinct) (name : String) (value : α) :
    (shelf.put name value).IsDistinct := by
  induction shelf with
  | nil => exact List.nodup_singleton name
  | cons entry rest inductionHypothesis =>
    obtain ⟨held, old⟩ := entry
    obtain ⟨new, distinct⟩ := List.nodup_cons.mp distinct
    by_cases same : held = name
    · rw [Shelf.put, if_pos same]
      subst same
      exact List.nodup_cons.mpr ⟨new, distinct⟩
    · rw [Shelf.put, if_neg same]
      refine List.nodup_cons.mpr ⟨fun stands => ?_, inductionHypothesis distinct⟩
      exact (mem_names_put stands).elim same new

/-- Leaving entries out keeps names distinct. -/
theorem IsDistinct.filter (distinct : shelf.IsDistinct) (keeps : String × α -> Bool) :
    IsDistinct (List.filter keeps shelf) :=
  distinct.sublist (List.filter_sublist.map Prod.fst)

/-- What is found when entries were left out. -/
theorem IsDistinct.get?_filter (distinct : shelf.IsDistinct) (keeps : String × α -> Bool) :
    get? name (List.filter keeps shelf) = (shelf.get? name).filter fun value => keeps (name, value) := by
  induction shelf with
  | nil => rfl
  | cons entry rest inductionHypothesis =>
    obtain ⟨held, old⟩ := entry
    obtain ⟨new, distinct⟩ := List.nodup_cons.mp distinct
    have inRest := inductionHypothesis distinct
    by_cases same : held = name
    · subst same
      rw [get?, if_pos rfl]
      by_cases isKept : keeps (held, old) = true
      · simp only [List.filter_cons_of_pos isKept, get?, if_pos, Option.filter_some, isKept]
      · simp only [List.filter_cons_of_neg isKept, inRest, get?_of_notMem new, Option.filter_none,
          Option.filter_some, isKept, if_neg, Bool.false_eq_true, not_false_eq_true]
    · rw [get?, if_neg same, ← inRest]
      by_cases isKept : keeps (held, old) = true
      · rw [List.filter_cons_of_pos isKept, get?, if_neg same]
      · rw [List.filter_cons_of_neg isKept]

end Shelf

/-! ## Sweeps -/

namespace Memory

variable {now : Moment} {entries kept : Shelf Held} {count : Nat}

/-- A sweep keeps the entries whose time is not over. -/
theorem sweep_ok (swept : sweep now entries = .ok (count, kept)) :
    kept = entries.filter fun entry => entry.2.isOver now ≠ .ok true := by
  induction entries generalizing count kept with
  | nil =>
    cases swept
    rfl
  | cons entry entries inductionHypothesis =>
    obtain ⟨key, held⟩ := entry
    obtain ⟨expired, isExpired, swept⟩ := bind_eq_ok.mp swept
    obtain ⟨⟨rest, others⟩, sweptRest, swept⟩ := bind_eq_ok.mp swept
    have same := inductionHypothesis sweptRest
    cases expired with
    | true =>
      obtain ⟨-, rfl⟩ := Prod.mk.inj (Except.ok.inj swept)
      simp [isExpired, same]
    | false =>
      obtain ⟨-, rfl⟩ := Prod.mk.inj (Except.ok.inj swept)
      simp [isExpired, same]

end Memory

/-! ## Caches that reflect a ledger -/

namespace Cache

variable {cache : Cache} {ledger : Ledger} {key : String} {now later : Moment}

/-- Whether nothing is kept twice under one key in memory. -/
def IsDistinct : Cache -> Prop
  | .memory store => store.entries.IsDistinct
  | .table _ => True

/-- What whole seconds lead to when they are counted from a moment. -/
theorem isOver_since (seconds : Int) (now later : Moment) :
    (Lifetime.ofSeconds seconds).isOver (later.since now) =
      .ok (decide (now.microseconds + seconds * Moment.perSecond < later.microseconds)) := by
  rw [Lifetime.isOver_ofSeconds, Moment.since]
  congr 2
  exact propext (by omega)

/-- A value that any cache can keep is kept for whole seconds. -/
theorem set_fst {value : Json} (fits : value.integersFit = true) (seconds : Int) :
    (cache.set key value (.ofSeconds seconds) now).1 = .ok () := by
  cases cache with
  | memory store => rfl
  | table shelf =>
    have isSet : shelf.set key value (.ofSeconds seconds) now =
        .ok ⟨shelf.rows.put key ⟨Json.write .compact 0 value,
          .exact (Lifetime.inSeconds now.microseconds + seconds)⟩⟩ := by
      unfold Table.set
      rw [fits]
      rfl
    simp only [set, isSet]

/-- Nothing is found when the time of what is kept is over. -/
theorem found_of_over {kept : Kept} (past : kept.isOver now = .ok true) : found now (some kept) = .ok none := by
  simp only [found, past]

/-- A sweep changes nothing that is found from then on. -/
theorem found_purge (distinct : cache.IsDistinct) (le : now.microseconds ≤ later.microseconds) :
    found later ((cache.purge now).2.kept? key) = found later (cache.kept? key) := by
  cases cache with
  | table shelf => rfl
  | memory store =>
    simp only [purge, Memory.purge]
    split
    · next count kept swept =>
      have left : kept.get? key =
          (store.entries.get? key).filter fun held => held.isOver now ≠ .ok true := by
        rw [Memory.sweep_ok swept]
        exact Shelf.IsDistinct.get?_filter distinct _
      cases isHeld : store.entries.get? key with
      | none => simp [kept?, left, isHeld]
      | some held =>
        have isKept : (Cache.memory store).kept? key = some ⟨some held.value, held.isOver⟩ := by
          simp [kept?, isHeld]
        by_cases past : held.isOver now = .ok true
        · have gone : kept.get? key = none := by simp [left, isHeld, Option.filter_some, past]
          have still := isOver_mono isKept le past
          have nothing : (Cache.memory ⟨kept⟩).kept? key = none := by simp [kept?, gone]
          rw [nothing, isKept, found_of_over still]
          rfl
        · have stays : kept.get? key = some held := by simp [left, isHeld, Option.filter_some, past]
          simp only [kept?, stays, isHeld]
    · rfl

/-- Whether a cache finds what a ledger says, from a moment on. -/
structure Reflects (now : Moment) (cache : Cache) (ledger : Ledger) : Prop where
  distinct : cache.IsDistinct
  found : ∀ key later, now.microseconds ≤ later.microseconds ->
    found later (cache.kept? key) = .ok (ledger.find key later)

namespace Reflects

/-- A cache in memory without values reflects a ledger without values. -/
theorem memory_empty (now : Moment) : Reflects now (.memory .empty) .empty where
  distinct := List.nodup_nil
  found _ _ _ := rfl

/-- A table without rows reflects a ledger without values. -/
theorem table_empty (now : Moment) : Reflects now (.table .empty) .empty where
  distinct := trivial
  found _ _ _ := rfl

/-- A cache that reflects a ledger goes on to do so. -/
theorem mono (reflects : Reflects now cache ledger) (le : now.microseconds ≤ later.microseconds) :
    Reflects later cache ledger where
  distinct := reflects.distinct
  found key last after := reflects.found key last (le.trans after)

/-- Looking for a value finds what the ledger says, and changes nothing that it says. -/
theorem get (reflects : Reflects now cache ledger) (key : String) :
    (cache.get key now).1 = .ok (ledger.find key now) ∧ Reflects now (cache.get key now).2 ledger := by
  refine ⟨?_, ⟨?_, fun other later le => ?_⟩⟩
  · rw [get_fst, reflects.found key now le_rfl]
  · cases cache with
    | table shelf => exact trivial
    | memory store =>
      simp only [Cache.get, Memory.get]
      split
      · exact reflects.distinct
      · split
        · exact reflects.distinct
        · exact Shelf.IsDistinct.filter reflects.distinct _
        · exact reflects.distinct
  · rw [found_get le, reflects.found other later le]

/-- Keeping a value is noted in the ledger. -/
theorem set (reflects : Reflects now cache ledger) (key : String) {value : Json} (sound : value.Sound)
    (fits : value.integersFit = true) (seconds : Int) :
    (cache.set key value (.ofSeconds seconds) now).1 = .ok () ∧
      Reflects now (cache.set key value (.ofSeconds seconds) now).2
        (ledger.write key (some (value, now.microseconds + seconds * Moment.perSecond))) := by
  have isSet : (cache.set key value (.ofSeconds seconds) now).1 = .ok () := set_fst fits seconds
  refine ⟨isSet, ⟨?_, fun other later le => ?_⟩⟩
  · cases cache with
    | table shelf =>
      simp only [Cache.set]
      split <;> exact trivial
    | memory store => exact Shelf.IsDistinct.put reflects.distinct key _
  · by_cases same : other = key
    · subst same
      rw [kept?_set_self sound (Prod.ext isSet rfl), Ledger.find_write_self]
      simp only [Cache.found, isOver_since, Option.bind_some]
      by_cases past : now.microseconds + seconds * Moment.perSecond < later.microseconds
      · rw [decide_eq_true past, if_neg (not_le.mpr past)]
      · rw [decide_eq_false past, if_pos (not_lt.mp past)]
    · rw [kept?_set_of_ne same, Ledger.find_write_of_ne same, reflects.found other later le]

/-- Dropping a value is noted in the ledger. -/
theorem delete (reflects : Reflects now cache ledger) (key : String) :
    Reflects now (cache.delete key) (ledger.write key none) := by
  refine ⟨?_, fun other later le => ?_⟩
  · cases cache with
    | table shelf => exact trivial
    | memory store => exact Shelf.IsDistinct.filter reflects.distinct _
  · by_cases same : other = key
    · subst same
      rw [kept?_delete_self, Ledger.find_write_self]
      rfl
    · rw [kept?_delete_of_ne same, Ledger.find_write_of_ne same, reflects.found other later le]

/-- A sweep is nothing to the ledger. -/
theorem purge (reflects : Reflects now cache ledger) : Reflects now (cache.purge now).2 ledger := by
  refine ⟨?_, fun key later le => ?_⟩
  · cases cache with
    | table shelf => exact trivial
    | memory store =>
      simp only [Cache.purge, Memory.purge]
      split
      · next count kept swept =>
        obtain rfl := Memory.sweep_ok swept
        exact Shelf.IsDistinct.filter reflects.distinct _
      · exact reflects.distinct
  · rw [found_purge reflects.distinct le, reflects.found key later le]

/-- A dealing gets the reply of the ledger, and the cache reflects what the dealing makes of it. -/
theorem carryOut (reflects : Reflects now cache ledger) {dealing : Dealing} (fit : dealing.IsFit) :
    (dealing.carryOut now cache).1 = ledger.reply now dealing ∧
      Reflects (dealing.later now) (dealing.carryOut now cache).2 (ledger.after now dealing) := by
  cases dealing with
  | keep key value seconds =>
    obtain ⟨isKept, reflected⟩ := reflects.set key fit.1 fit.2 seconds
    exact ⟨congrArg (fun outcome => some (CacheReply.kept outcome)) isKept, reflected⟩
  | look key =>
    obtain ⟨isFound, reflected⟩ := reflects.get key
    exact ⟨congrArg (fun outcome => some (CacheReply.found outcome)) isFound, reflected⟩
  | drop key => exact ⟨rfl, reflects.delete key⟩
  | wait microseconds =>
    refine ⟨rfl, reflects.mono ?_⟩
    show now.microseconds ≤ now.microseconds + microseconds
    omega
  | sweep => exact ⟨rfl, reflects.purge⟩

/-- All dealings get the replies of the ledger. -/
theorem carryOutAll {dealings : List Dealing} (reflects : Reflects now cache ledger)
    (fit : ∀ dealing ∈ dealings, dealing.IsFit) :
    Dealing.carryOutAll now cache dealings = ledger.replies now dealings := by
  induction dealings generalizing now cache ledger with
  | nil => rfl
  | cons dealing dealings inductionHypothesis =>
    obtain ⟨fit, laterFit⟩ := List.forall_mem_cons.mp fit
    obtain ⟨replied, reflected⟩ := reflects.carryOut fit
    simp only [Dealing.carryOutAll, Ledger.replies, replied, inductionHypothesis reflected laterFit]

end Reflects

/-- A cache in memory and one in a table reply alike to whatever is done with them at whatever times, each
look finding the value that was kept last until its time is over, and all of it stays so when sweeps are
left out. -/
theorem memory_agrees_with_table {dealings : List Dealing} (fit : ∀ dealing ∈ dealings, dealing.IsFit)
    (start : Moment) :
    Dealing.carryOutAll start (.memory .empty) dealings = Dealing.carryOutAll start (.table .empty) dealings ∧
      Dealing.carryOutAll start (.memory .empty) dealings =
        Dealing.carryOutAll start (.memory .empty) (dealings.filter (· ≠ .sweep)) ∧
      Dealing.carryOutAll start (.memory .empty) dealings = Ledger.empty.replies start dealings := by
  have inMemory := (Reflects.memory_empty start).carryOutAll fit
  have inTable := (Reflects.table_empty start).carryOutAll fit
  have unswept : ∀ dealing ∈ dealings.filter (· ≠ .sweep), dealing.IsFit := fun dealing member =>
    fit dealing (List.mem_of_mem_filter member)
  refine ⟨inMemory.trans inTable.symm, ?_, inMemory⟩
  rw [inMemory, (Reflects.memory_empty start).carryOutAll unswept, Ledger.replies_filter_sweep]

/-- Values that are found to the last microsecond of their time, one of them null, one that is over as soon
as time passes, and one that is over from the start. -/
def briefDealings : List Dealing :=
  [.keep "null" .null 1, .keep "list" (.arr [.int 7, .str "a"]) 0, .look "list", .wait 1, .sweep, .look "list",
    .wait 999999, .look "null", .keep "past" (.bool true) (-1), .look "past", .wait 1, .look "null",
    .keep "null" (.obj [("a", .null)]) 60, .sweep, .look "null", .drop "null", .look "null"]

/-- What there is to find is found in a cache of either kind. -/
theorem briefDealings_found :
    (∀ dealing ∈ briefDealings, dealing.IsFit) ∧
      Dealing.carryOutAll ⟨0⟩ (.memory .empty) briefDealings =
        Dealing.carryOutAll ⟨0⟩ (.table .empty) briefDealings ∧
      Dealing.carryOutAll ⟨0⟩ (.memory .empty) briefDealings =
        Dealing.carryOutAll ⟨0⟩ (.memory .empty) (briefDealings.filter (· ≠ .sweep)) ∧
      Dealing.carryOutAll ⟨0⟩ (.memory .empty) briefDealings =
        [.kept (.ok ()), .kept (.ok ()), .found (.ok (some (.arr [.int 7, .str "a"]))), .found (.ok none),
          .found (.ok (some .null)), .kept (.ok ()), .found (.ok none), .found (.ok none), .kept (.ok ()),
          .found (.ok (some (.obj [("a", .null)]))), .found (.ok none)] := by
  have fit : ∀ dealing ∈ briefDealings, dealing.IsFit := by
    have small : Json.integerFits 7 = true := by decide +kernel
    simp [briefDealings, Dealing.IsFit, Json.Sound, Json.SoundItems, Json.SoundMembers, Json.integersFit,
      Json.itemIntegersFit, Json.memberIntegersFit, small]
  obtain ⟨agree, unswept, found⟩ := memory_agrees_with_table fit ⟨0⟩
  exact ⟨fit, agree, unswept, found.trans (by decide)⟩

end Cache

end RepoSurvey.Store

import Mathlib.Data.List.Perm.Subperm
import RepoSurvey.Proofs.Session.Rooms
import RepoSurvey.Session.Entry

/-!
# Tenures of sessions

The table forgets sessions in two ways, and not at once: one that was not used for too long is over, but stays until
somebody looks for it or another one is created, and the one created first goes when the table is full. A ledger of
tenures forgets nothing. It says of every session that was created when that was, when it was used last, and whether
it was ended or evicted, and so whether it is live at a moment.

A table reflects a ledger when its sessions have tenures there, and all live ones are among them: `Reflects`. Whatever
is done with the table leaves it reflecting the ledger of that (`Reflects.carryOut`), as long as time does not go back
and no session is created twice. So a session is found just when its tenure is live: `visits_account`.
-/

namespace RepoSurvey.Session

open Clock (Moment)

/-! ## What is done with the table -/

/-- What is done with a session that is looked for. The last three are given values of any shape. -/
inductive Access where
  | look
  | summarize
  | updateContext (updates : List (String × Json))
  | remark (role content : String)
  | toolRecord (toolName : String) (success : Bool) (summary : String)
  | enterContext (updates : Json)
  | enterRemark (role content : Json)
  | enterToolRecord (toolName success summary : Json)

/-- Something done with the table. -/
inductive Visit where
  | create (id goal repositoryPath : String)
  /-- Create a session whose goal may have any shape. -/
  | enter (id : String) (goal : Json) (repositoryPath : String)
  | use (id : String) (access : Access)
  | close (id : String)
  | cleanup

/-- Whether a session was found for something that may be rejected. -/
def wasFound {α : Type} : Except Rejection (Option α) -> Bool
  | .ok none => false
  | _ => true

/-- Do something with a session that is looked for; false when it is not found. -/
def Access.perform (table : Table) (id : String) (now : Moment) : Access -> Bool × Table
  | .look => (table.access id now).map Option.isSome fun after => after
  | .summarize => (table.summary id now).map wasFound fun after => after
  | .updateContext updates => table.answer now (.updateContext id updates)
  | .remark role content => table.answer now (.remark id role content)
  | .toolRecord toolName success summary => table.answer now (.toolRecord id toolName success summary)
  | .enterContext updates => (table.enterContext id updates now).map wasFound fun after => after
  | .enterRemark role content => (table.enterRemark id role content now).map wasFound fun after => after
  | .enterToolRecord toolName success summary =>
    (table.enterToolRecord id toolName success summary now).map wasFound fun after => after

/-- The table after something was done with it. -/
def Visit.carryOut (now : Moment) (table : Table) : Visit -> Table
  | .create id goal repositoryPath => (table.answer now (.create id goal repositoryPath)).2
  | .enter id goal repositoryPath => (table.enter (.int table.maxSessions) id goal repositoryPath now).2
  | .use id access => (access.perform table id now).2
  | .close id => (table.answer now (.close id)).2
  | .cleanup => (table.cleanup now).2

/-- The table after several things were done with it, each at its moment. -/
def Visit.carryOutAll (table : Table) (visits : List (Moment × Visit)) : Table :=
  visits.foldl (fun table visit => visit.2.carryOut visit.1 table) table

/-- The session that something done with the table creates. -/
def Visit.newcomer? : Visit -> Option String
  | .create id _ _ | .enter id (.str _) _ => some id
  | _ => none

/-! ## Tenures -/

/-- What became of a session that was created. -/
structure Tenure where
  id : String
  begun : Moment
  used : Moment
  ended : Bool
  evicted : Bool
  deriving DecidableEq

namespace Tenure

/-- The tenure of a session that begins. -/
def fresh (id : String) (now : Moment) : Tenure := ⟨id, now, now, false, false⟩

/-- Whether a session was not ended and not evicted, and was used not longer ago than a limit. -/
def isLive (limit : Int) (now : Moment) (tenure : Tenure) : Bool :=
  !tenure.ended && !tenure.evicted && decide (now.since tenure.used ≤ limit)

/-- The tenure of a session that is looked for, which is its use if it is live. -/
def use (limit : Int) (now : Moment) (tenure : Tenure) : Tenure :=
  if tenure.isLive limit now then { tenure with used := now } else tenure

/-- The tenure of a session that is ended. -/
def finish (tenure : Tenure) : Tenure := { tenure with ended := true }

/-- The tenure of a session that is evicted. -/
def evict (tenure : Tenure) : Tenure := { tenure with evicted := true }

/-- Whether a tenure began before another one. -/
def IsBefore (tenure other : Tenure) : Prop := tenure.begun.microseconds < other.begun.microseconds

instance (tenure other : Tenure) : Decidable (tenure.IsBefore other) :=
  inferInstanceAs (Decidable (_ < _))

/-- The tenure that began first, of several the one that stands first. -/
def eldest? (tenures : List Tenure) : Option Tenure :=
  tenures.find? fun tenure => tenures.all fun other => !decide (other.IsBefore tenure)

/-- Tenures of which those of one session are changed. -/
def mark (id : String) (change : Tenure -> Tenure) (tenures : List Tenure) : List Tenure :=
  tenures.map fun tenure => if tenure.id = id then change tenure else tenure

/-- The ledger after room was made for a session: unless there are fewer live tenures than there is room for, the
eldest of them is evicted. -/
def makeRoom (capacity limit : Int) (now : Moment) (tenures : List Tenure) : List Tenure :=
  let live := tenures.filter (isLive limit now)
  if (live.length : Int) < capacity then tenures
  else
    match eldest? live with
    | none => tenures
    | some eldest => mark eldest.id evict tenures

/-- The ledger after something was done with the table. -/
def record (capacity limit : Int) (now : Moment) (tenures : List Tenure) : Visit -> List Tenure
  | .create id _ _ | .enter id (.str _) _ => makeRoom capacity limit now tenures ++ [fresh id now]
  | .enter _ _ _ | .cleanup => tenures
  | .use id _ => mark id (use limit now) tenures
  | .close id => mark id finish tenures

/-- The ledger after several things were done with the table, each at its moment. -/
def recordAll (capacity limit : Int) (tenures : List Tenure) (visits : List (Moment × Visit)) : List Tenure :=
  visits.foldl (fun tenures visit => record capacity limit visit.1 tenures visit.2) tenures

end Tenure

/-- The tenure of a session in the table. -/
def tenure (session : Session) : Tenure :=
  ⟨session.id, session.createdAt.reading, session.updatedAt.reading, false, false⟩

@[simp] theorem tenure_id (session : Session) : session.tenure.id = session.id := rfl

/-! ## Looking for sessions -/

section Access

variable {table : Table} {id : String} {now : Moment}

/-- Whether a change of a session at a moment counts as its use then. -/
def Uses (now : Moment) (change : Session -> Session) : Prop :=
  ∀ session, (change session).tenure = { session.tenure with used := now }

/-- What may become of the table when a session is looked for and something done with it. -/
inductive Handled (table : Table) (id : String) (now : Moment) : Bool × Table -> Prop where
  | absent (none : table.find? id = none) : Handled table id now (false, table)
  | stale {session : Session} (found : table.find? id = some session) (isOver : table.isOver now session = true) :
      Handled table id now (false, table.remove id)
  | used {session : Session} {change : Session -> Session} (found : table.find? id = some session)
      (live : table.isOver now session = false) (uses : Uses now change) :
      Handled table id now (true, table.modify id change)

/-- A session that is not changed. -/
theorem modify_self (table : Table) (id : String) : (table.modify id fun session => session) = table := by
  unfold Table.modify
  simp

/-- Two changes of a session, one after the other. -/
theorem modify_modify (first second : Session -> Session) (keeps : ∀ session, (first session).id = session.id) :
    (table.modify id first).modify id second = table.modify id fun session => second (first session) := by
  unfold Table.modify
  dsimp only
  rw [List.map_map]
  congr 1
  apply List.map_congr_left
  intro session _
  by_cases same : session.id = id
  · simp [same, keeps]
  · simp [same]

/-- A session that is found when it is looked for may be changed further, as long as its tenure is kept. -/
theorem handled_of_access {result : Bool × Table} (change : Session -> Session)
    (keeps : ∀ session, (change session).tenure = session.tenure)
    (missing : ∀ after, table.access id now = (none, after) -> result = (false, after))
    (found : ∀ session after, table.access id now = (some session, after) -> result = (true, after.modify id change)) :
    Handled table id now result := by
  unfold Table.access at missing found
  cases isFound : table.find? id with
  | none =>
    rw [isFound] at missing
    exact missing _ rfl ▸ .absent isFound
  | some session =>
    rw [isFound] at missing found
    by_cases isOver : table.isOver now session = true
    · exact missing _ (if_pos isOver) ▸ .stale isFound isOver
    · rw [found _ _ (if_neg isOver), modify_modify (fun session => { session with updatedAt := .ofMoment now }) _
        fun _ => rfl]
      exact .used isFound (Bool.eq_false_iff.mpr isOver) fun session => keeps _

/-- To look for a session and change it. -/
theorem handled_change {update : Session -> Session} (keeps : ∀ session, (update session).tenure = session.tenure) :
    Handled table id now (table.change id now update) := by
  refine handled_of_access update keeps (fun after accessed => ?_) fun session after accessed => ?_
  · rw [Table.change, accessed]
  · rw [Table.change, accessed]

/-- To look for a session and do something with it that may be rejected. -/
theorem handled_whenFound {α : Type} {act : Session -> Table -> Except Rejection α × Table}
    (change : Session -> Session) (keeps : ∀ session, (change session).tenure = session.tenure)
    (acts : ∀ session after, (act session after).2 = after.modify id change) :
    Handled table id now ((table.whenFound id now act).map wasFound fun after => after) := by
  have isFound : ∀ done : Except Rejection α, wasFound (done.map some) = true := by rintro (_ | _) <;> rfl
  refine handled_of_access change keeps (fun after accessed => ?_) fun session after accessed => ?_
  · rw [Table.whenFound, accessed]
    rfl
  · rw [Table.whenFound, accessed, ← acts session after]
    exact congrArg (Prod.mk · _) (isFound _)

/-- To change a session by something read, if it could be read. -/
theorem changeRead_snd {α : Type} (id : String) (read : Except Rejection α) (update : α -> Session -> Session)
    (keeps : ∀ value session, (update value session).tenure = session.tenure) :
    ∃ change : Session -> Session, (∀ session, (change session).tenure = session.tenure) ∧
      ∀ after, (Table.changeRead id read update after).2 = after.modify id change := by
  cases read with
  | error rejection => exact ⟨fun session => session, fun _ => rfl, fun after => (modify_self after id).symm⟩
  | ok value => exact ⟨update value, keeps value, fun _ => rfl⟩

/-- Whatever is done with a session when it is looked for, it counts as its use. -/
theorem handled_perform (table : Table) (id : String) (now : Moment) (access : Access) :
    Handled table id now (access.perform table id now) := by
  cases access with
  | look =>
    refine handled_of_access (fun session => session) (fun _ => rfl) (fun after accessed => ?_)
      fun session after accessed => ?_
    · rw [Access.perform, accessed]
      rfl
    · rw [Access.perform, accessed, modify_self]
      rfl
  | summarize =>
    simp only [Access.perform, Table.summary]
    apply handled_whenFound (fun session => session) fun _ => rfl
    exact fun _ after => (modify_self after id).symm
  | updateContext updates => exact handled_change fun _ => rfl
  | remark role content => exact handled_change fun _ => rfl
  | toolRecord toolName success told => exact handled_change fun _ => rfl
  | enterContext updates =>
    let entries := (Json.Dictionary.entriesOf updates).1
    apply handled_whenFound (fun session =>
      { session with context := ((Json.Dictionary.ofMembers session.context).putAll entries).toMembers }) fun _ => rfl
    intro _ after
    split <;> rfl
  | enterRemark role content =>
    obtain ⟨change, keeps, acts⟩ := changeRead_snd id _ Table.addRemark fun _ _ => rfl
    exact handled_whenFound change keeps fun _ => acts
  | enterToolRecord toolName success told =>
    obtain ⟨change, keeps, acts⟩ := changeRead_snd id _ Table.addToolRecord fun _ _ => rfl
    exact handled_whenFound change keeps fun _ => acts

/-- To look for a session leaves all others as they are, and removes it when it is not found. -/
theorem perform_others (table : Table) (now : Moment) (id : String) (access : Access) :
    (access.perform table id now).2.remove id = table.remove id ∧
      ((access.perform table id now).1 = false -> (access.perform table id now).2 = table.remove id) := by
  have handled := handled_perform table id now access
  generalize access.perform table id now = outcome at handled
  cases handled with
  | absent none => exact ⟨rfl, fun _ => (Table.remove_of_none none).symm⟩
  | stale found isOver => exact ⟨by simp [Table.remove], fun _ => rfl⟩
  | used found live uses => exact ⟨Table.remove_modify fun session => congrArg Tenure.id (uses session),
    fun isMissing => Bool.noConfusion isMissing⟩

end Access

/-! ## Creating sessions -/

section Create

variable {table : Table} {id goal path : String} {now : Moment} {sessions : List Session}

/-- All sessions before the oldest one were created after it, and none of those behind it was created before it. -/
theorem oldest?_split {oldest : Session} (isOldest : Table.oldest? sessions = some oldest) :
    ∃ before rest, sessions = before ++ oldest :: rest ∧ (∀ session ∈ before, oldest.born < session.born) ∧
      ∀ session ∈ rest, oldest.born ≤ session.born := by
  induction sessions generalizing oldest with
  | nil => nomatch isOldest
  | cons session others inductionHypothesis =>
    unfold Table.oldest? at isOldest
    split at isOldest
    · next none =>
      obtain rfl := Option.some.inj isOldest
      exact ⟨[], others, rfl, by simp, by simp [Table.oldest?_eq_none none]⟩
    · next other found =>
      split at isOldest
      · next less =>
        obtain rfl := Option.some.inj isOldest
        obtain ⟨before, rest, rfl, earlier, later⟩ := inductionHypothesis found
        exact ⟨session :: before, rest, rfl, List.forall_mem_cons.mpr ⟨less, earlier⟩, later⟩
      · next notLess =>
        obtain rfl := Option.some.inj isOldest
        have least := (Table.oldest?_spec found).2
        refine ⟨[], others, rfl, by simp, fun further member => ?_⟩
        exact Int.le_trans (Int.not_lt.mp notLess) (least further member)

/-- Of items with distinct names, one alone has the name of one of them. -/
theorem filter_other_names {α : Type} {name : α -> String} {before rest : List α} {item : α}
    (distinct : ((before ++ item :: rest).map name).Nodup) :
    (before ++ item :: rest).filter (fun other => name other != name item) = before ++ rest := by
  rw [List.map_append, List.map_cons, List.nodup_middle, List.nodup_cons, ← List.map_append] at distinct
  have others : ∀ other ∈ before ++ rest, name other ≠ name item := fun other member same =>
    distinct.1 (same ▸ List.mem_map_of_mem member)
  rw [List.filter_append, List.filter_cons_of_neg (by simp), ← List.filter_append, List.filter_eq_self]
  simpa using others

/-- Sessions that fit are all kept. -/
theorem evict_of_fits {fuel : Nat} {room : Int} (fits : (sessions.length : Int) < room) :
    Table.evict fuel room sessions = sessions := by
  cases fuel with
  | zero => rfl
  | succ fuel => exact if_pos fits

/-- Of sessions that are one too many, the oldest is evicted and no other. -/
theorem evict_full {before rest : List Session} {oldest : Session} {fuel : Nat} {room : Int}
    (isOldest : Table.oldest? (before ++ oldest :: rest) = some oldest)
    (distinct : ((before ++ oldest :: rest).map Session.id).Nodup)
    (full : ((before ++ oldest :: rest).length : Int) = room) :
    Table.evict (fuel + 1) room (before ++ oldest :: rest) = before ++ rest := by
  have fits : ((before ++ rest).length : Int) < room := by
    rw [List.length_append, List.length_cons] at full
    rw [List.length_append]
    omega
  calc Table.evict (fuel + 1) room (before ++ oldest :: rest)
      = Table.evict fuel room ((before ++ oldest :: rest).filter fun session => session.id != oldest.id) := by
        rw [Table.evict, if_neg (by omega), isOldest]
    _ = before ++ rest := by rw [filter_other_names distinct, evict_of_fits fits]

/-- How room is made among live tenures: all are kept if there is room for one more, and else one goes, before which
none of the others began; those that stand before it began later. -/
inductive MakesRoom (capacity : Int) : List Tenure -> List Tenure -> Prop where
  | fits {live : List Tenure} (fits : (live.length : Int) < capacity) : MakesRoom capacity live live
  | evicts {before rest : List Tenure} {eldest : Tenure}
      (full : capacity ≤ ((before ++ eldest :: rest).length : Int))
      (younger : ∀ tenure ∈ before, eldest.IsBefore tenure)
      (notOlder : ∀ tenure ∈ rest, ¬tenure.IsBefore eldest) :
      MakesRoom capacity (before ++ eldest :: rest) (before ++ rest)

/-- Eviction makes room among sessions that are not more than there is room for. -/
theorem makesRoom_evict {capacity : Int} (some : 1 ≤ capacity) (distinct : (sessions.map Session.id).Nodup)
    (bounded : (sessions.length : Int) ≤ capacity) :
    MakesRoom capacity (sessions.map tenure) ((Table.evict sessions.length capacity sessions).map tenure) := by
  by_cases fits : (sessions.length : Int) < capacity
  · rw [evict_of_fits fits]
    exact .fits (by rwa [List.length_map])
  · cases isOldest : Table.oldest? sessions with
    | none =>
      rw [Table.oldest?_eq_none isOldest] at fits
      exact absurd some fits
    | some oldest =>
      obtain ⟨before, rest, rfl, younger, notOlder⟩ := oldest?_split isOldest
      have full : ((before ++ oldest :: rest).length : Int) = capacity := by omega
      have one : (before ++ oldest :: rest).length = before.length + rest.length + 1 := by
        rw [List.length_append, List.length_cons, Nat.add_assoc]
      rw [one, evict_full isOldest distinct full, List.map_append, List.map_append, List.map_cons]
      refine .evicts ?_ ?_ ?_
      · simp only [List.length_append, List.length_cons, List.length_map] at full ⊢
        omega
      · exact List.forall_mem_map.mpr younger
      · exact List.forall_mem_map.mpr fun session member => Int.not_lt.mpr (notOlder session member)

/-- When room was made, there is room for one more. -/
theorem MakesRoom.length_lt {capacity : Int} {live kept : List Tenure} (makesRoom : MakesRoom capacity live kept)
    (bounded : (live.length : Int) ≤ capacity) : (kept.length : Int) < capacity := by
  cases makesRoom with
  | fits fits => exact fits
  | evicts full younger notOlder =>
    rw [List.length_append, List.length_cons] at bounded
    rw [List.length_append]
    omega

/-- The ledger says the same of how room is made. -/
theorem MakesRoom.makeRoom_eq {capacity limit : Int} {tenures kept : List Tenure}
    (makesRoom : MakesRoom capacity (tenures.filter (Tenure.isLive limit now)) kept) :
    (kept = tenures.filter (Tenure.isLive limit now) ∧ Tenure.makeRoom capacity limit now tenures = tenures) ∨
    ∃ before rest eldest, tenures.filter (Tenure.isLive limit now) = before ++ eldest :: rest ∧ kept = before ++ rest ∧
      Tenure.makeRoom capacity limit now tenures = Tenure.mark eldest.id Tenure.evict tenures := by
  generalize isLive : tenures.filter (Tenure.isLive limit now) = live at makesRoom
  cases makesRoom with
  | fits fits =>
    refine .inl ⟨rfl, ?_⟩
    unfold Tenure.makeRoom
    rw [isLive]
    exact if_pos fits
  | @evicts before rest eldest full younger notOlder =>
    refine .inr ⟨before, rest, eldest, rfl, rfl, ?_⟩
    have isEldest : Tenure.eldest? (before ++ eldest :: rest) = some eldest := by
      unfold Tenure.eldest?
      rw [List.find?_eq_some_iff_append]
      refine ⟨?_, before, rest, rfl, ?_⟩
      · rw [List.all_eq_true]
        intro tenure member
        rw [Bool.not_eq_true', decide_eq_false_iff_not]
        rcases List.mem_append.mp member with inBefore | atOrAfter
        · exact fun older => Int.lt_asymm older (younger tenure inBefore)
        · rcases List.mem_cons.mp atOrAfter with rfl | inRest
          · exact Int.lt_irrefl _
          · exact notOlder tenure inRest
      · intro tenure member
        rw [Bool.not_eq_true', List.all_eq_false]
        exact ⟨eldest, by simp, by simpa using younger tenure member⟩
    unfold Tenure.makeRoom
    rw [isLive]
    dsimp only
    rw [if_neg (Int.not_lt.mpr full), isEldest]

end Create

/-! ## Ledgers that are held -/

section Held

variable {limit : Int} {now : Moment} {held tenures : List Tenure} {id : String}

/-- Whether some tenures are in a ledger, and all that are live at a moment are among them. -/
structure Holds (limit : Int) (now : Moment) (held tenures : List Tenure) : Prop where
  distinct : (tenures.map Tenure.id).Nodup
  kept : held.Sublist tenures
  live : ∀ tenure ∈ tenures, tenure.isLive limit now = true -> tenure ∈ held

/-- Tenures that are all left as they are. -/
theorem mark_eq_self {change : Tenure -> Tenure} (same : ∀ tenure ∈ tenures, tenure.id = id -> change tenure = tenure) :
    Tenure.mark id change tenures = tenures := by
  have each : ∀ tenure ∈ tenures, (if tenure.id = id then change tenure else tenure) = tenure := by
    intro tenure member
    split
    · next isIt => exact same tenure member isIt
    · rfl
  rw [Tenure.mark, List.map_congr_left each, List.map_id']

/-- A mark keeps the identifiers. -/
theorem map_id_mark (id : String) (change : Tenure -> Tenure) (keeps : ∀ tenure, (change tenure).id = tenure.id)
    (tenures : List Tenure) : (Tenure.mark id change tenures).map Tenure.id = tenures.map Tenure.id := by
  rw [Tenure.mark, List.map_map]
  apply List.map_congr_left
  intro tenure _
  rw [Function.comp_apply]
  split
  · exact keeps tenure
  · rfl

/-- To make room keeps the identifiers. -/
theorem map_id_makeRoom (capacity limit : Int) (now : Moment) (tenures : List Tenure) :
    (Tenure.makeRoom capacity limit now tenures).map Tenure.id = tenures.map Tenure.id := by
  unfold Tenure.makeRoom
  dsimp only
  split
  · rfl
  · split
    · rfl
    · exact map_id_mark _ Tenure.evict (fun _ => rfl) tenures

/-- A tenure that is live later is live before. -/
theorem isLive_of_later {later : Moment} (notBack : now.microseconds ≤ later.microseconds) {tenure : Tenure}
    (live : tenure.isLive limit later = true) : tenure.isLive limit now = true := by
  unfold Tenure.isLive Moment.since at live ⊢
  rw [Bool.and_eq_true, decide_eq_true_iff] at live ⊢
  exact ⟨live.1, by omega⟩

namespace Holds

variable (holds : Holds limit now held tenures)

include holds

/-- What is held is held later. -/
theorem later {later : Moment} (notBack : now.microseconds ≤ later.microseconds) : Holds limit later held tenures where
  distinct := holds.distinct
  kept := holds.kept
  live tenure member live := holds.live tenure member (isLive_of_later notBack live)

/-- The live tenures of a ledger are those held that are live. -/
theorem filter_live : held.filter (Tenure.isLive limit now) = tenures.filter (Tenure.isLive limit now) := by
  have sublist := holds.kept.filter (Tenure.isLive limit now)
  apply sublist.eq_of_length_le
  have distinct : (tenures.filter (Tenure.isLive limit now)).Nodup :=
    holds.distinct.of_map.filter _
  apply (distinct.subperm _).length_le
  intro tenure member
  obtain ⟨member, live⟩ := List.mem_filter.mp member
  exact List.mem_filter.mpr ⟨holds.live tenure member live, live⟩

/-- Tenures that are not live need not be held. -/
theorem filter {keeps : Tenure -> Bool}
    (gone : ∀ tenure ∈ tenures, tenure.isLive limit now = true -> keeps tenure = true) :
    Holds limit now (held.filter keeps) tenures where
  distinct := holds.distinct
  kept := List.filter_sublist.trans holds.kept
  live tenure member live := List.mem_filter.mpr ⟨holds.live tenure member live, gone tenure member live⟩

/-- A tenure that is no longer live need not be held. -/
theorem drop (change : Tenure -> Tenure) (keeps : ∀ tenure, (change tenure).id = tenure.id)
    (ends : ∀ tenure, (change tenure).isLive limit now = false) (id : String) :
    Holds limit now (held.filter fun tenure => tenure.id != id) (Tenure.mark id change tenures) where
  distinct := (map_id_mark id change keeps tenures).symm ▸ holds.distinct
  kept := by
    have same : Tenure.mark id change (held.filter fun tenure => tenure.id != id) =
        held.filter fun tenure => tenure.id != id :=
      mark_eq_self fun tenure member isIt => absurd isIt (by simpa using (List.mem_filter.mp member).2)
    rw [← same]
    exact (List.filter_sublist.trans holds.kept).map _
  live tenure member live := by
    obtain ⟨old, isOld, rfl⟩ := List.mem_map.mp member
    split at live
    · rw [ends old] at live
      nomatch live
    · next other =>
      rw [if_neg other]
      exact List.mem_filter.mpr ⟨holds.live old isOld live, by simpa using other⟩

/-- Tenures that are held may be marked there as in the ledger. -/
theorem mark (change : Tenure -> Tenure) (keeps : ∀ tenure, (change tenure).id = tenure.id)
    (lasts : ∀ tenure, (change tenure).isLive limit now = true -> tenure.isLive limit now = true) (id : String) :
    Holds limit now (Tenure.mark id change held) (Tenure.mark id change tenures) where
  distinct := (map_id_mark id change keeps tenures).symm ▸ holds.distinct
  kept := holds.kept.map _
  live tenure member live := by
    obtain ⟨old, isOld, rfl⟩ := List.mem_map.mp member
    apply List.mem_map_of_mem (holds.live old isOld _)
    split at live
    · exact lasts old live
    · exact live

/-- A tenure that begins is held. -/
theorem begin (new : id ∉ tenures.map Tenure.id) :
    Holds limit now (held ++ [.fresh id now]) (tenures ++ [.fresh id now]) where
  distinct := by
    rw [List.map_append, List.map_singleton]
    exact holds.distinct.append (List.nodup_singleton _) (by simpa [Tenure.fresh] using new)
  kept := holds.kept.append (List.Sublist.refl _)
  live tenure member live := by
    rcases List.mem_append.mp member with old | isFresh
    · exact List.mem_append_left _ (holds.live tenure old live)
    · exact List.mem_append_right _ isFresh

end Holds

end Held

/-! ## Tables that reflect ledgers -/

section Reflects

variable {capacity limit : Int} {now : Moment} {table : Table} {tenures : List Tenure} {id : String}

/-- Whether a table of some capacity holds not too many sessions, and their tenures in a ledger. -/
structure Reflects (capacity limit : Int) (now : Moment) (table : Table) (tenures : List Tenure) : Prop where
  limits : table.maxSessions = capacity ∧ table.timeLimit = limit
  bounded : (table.sessions.length : Int) ≤ capacity
  holds : Holds limit now (table.sessions.map tenure) tenures

/-- A session is over when its tenure is not live. -/
theorem isLive_tenure (limited : table.timeLimit = limit) (session : Session) :
    session.tenure.isLive limit now = !table.isOver now session := by
  subst limited
  rw [Bool.eq_iff_iff]
  simp only [Tenure.isLive, Table.isOver, Bool.and_eq_true, Bool.not_eq_true', decide_eq_true_eq,
    decide_eq_false_iff_not, Int.not_lt]
  simp [tenure]

/-- To change sessions of an identifier is to mark their tenures. -/
theorem map_tenure_modify {change : Session -> Session} {mark : Tenure -> Tenure}
    (same : ∀ session ∈ table.sessions, session.id = id -> (change session).tenure = mark session.tenure) :
    (table.modify id change).sessions.map tenure = Tenure.mark id mark (table.sessions.map tenure) := by
  unfold Table.modify Tenure.mark
  rw [List.map_map, List.map_map]
  apply List.map_congr_left
  intro session member
  by_cases isIt : session.id = id
  · simp [isIt, same session member isIt]
  · simp [isIt]

namespace Reflects

variable (reflects : Reflects capacity limit now table tenures)

include reflects

/-- A table reflects a ledger later, too. -/
theorem later {later : Moment} (notBack : now.microseconds ≤ later.microseconds) :
    Reflects capacity limit later table tenures :=
  ⟨reflects.limits, reflects.bounded, reflects.holds.later notBack⟩

/-- The identifiers of sessions are distinct. -/
theorem distinct : (table.sessions.map Session.id).Nodup := by
  have ids := reflects.holds.distinct.sublist (reflects.holds.kept.map Tenure.id)
  rwa [List.map_map] at ids

/-- The sessions that are not over have all live tenures. -/
theorem map_cleanup : (table.cleanup now).2.sessions.map tenure = tenures.filter (Tenure.isLive limit now) := by
  rw [← reflects.holds.filter_live, List.filter_map]
  apply congrArg
  apply List.filter_congr
  intro session _
  exact (isLive_tenure reflects.limits.2 session).symm

/-- A session is in the table and not over just when it has a live tenure. -/
theorem found_iff : (∃ session, table.find? id = some session ∧ table.isOver now session = false) ↔
    ∃ tenure ∈ tenures.filter (Tenure.isLive limit now), tenure.id = id := by
  constructor
  · rintro ⟨session, found, live⟩
    have member := List.mem_of_find?_eq_some found
    refine ⟨session.tenure, List.mem_filter.mpr ⟨reflects.holds.kept.subset (List.mem_map_of_mem member), ?_⟩, ?_⟩
    · rw [isLive_tenure reflects.limits.2, live, Bool.not_false]
    · simpa using List.find?_some found
  · rintro ⟨_, member, rfl⟩
    obtain ⟨member, live⟩ := List.mem_filter.mp member
    obtain ⟨session, isSession, rfl⟩ := List.mem_map.mp (reflects.holds.live _ member live)
    rw [isLive_tenure reflects.limits.2, Bool.not_eq_true'] at live
    refine ⟨session, ?_, live⟩
    cases found : table.find? session.tenure.id with
    | none => exact absurd (List.find?_eq_none.mp found session isSession) (by simp)
    | some other =>
      have same : other.id = session.id := by simpa using List.find?_some found
      rw [List.inj_on_of_nodup_map reflects.distinct (List.mem_of_find?_eq_some found) isSession same]

/-- A session is found when it is looked for just when it has a live tenure. -/
theorem perform_found_iff (access : Access) : (access.perform table id now).1 = true ↔
    ∃ tenure ∈ tenures.filter (Tenure.isLive limit now), tenure.id = id := by
  rw [← reflects.found_iff]
  have handled := handled_perform table id now access
  generalize access.perform table id now = outcome at handled
  cases handled with
  | absent none => simp [none]
  | stale found isOver => simp [found, isOver]
  | used found live uses => simp [found, live]

/-- A table that was cleaned up reflects the same ledger. -/
theorem cleanup : Reflects capacity limit now (table.cleanup now).2 tenures where
  limits := reflects.limits
  bounded := Int.le_trans (Int.ofNat_le.mpr (List.length_filter_le _ _)) reflects.bounded
  holds := by
    rw [reflects.map_cleanup, ← reflects.holds.filter_live]
    exact reflects.holds.filter fun _ _ live => live

/-- A table from which a session was removed reflects a ledger that says so. -/
theorem remove (change : Tenure -> Tenure) (keeps : ∀ tenure, (change tenure).id = tenure.id)
    (ends : ∀ tenure, (change tenure).isLive limit now = false) (id : String) :
    Reflects capacity limit now (table.remove id) (Tenure.mark id change tenures) where
  limits := reflects.limits
  bounded := Int.le_trans (Int.ofNat_le.mpr (List.length_filter_le _ _)) reflects.bounded
  holds := by
    have dropped := reflects.holds.drop change keeps ends id
    rwa [List.filter_map] at dropped

/-- A session without a live tenure is not used. -/
theorem mark_use_of_not_found (missing : ¬∃ session, table.find? id = some session ∧ table.isOver now session = false) :
    Tenure.mark id (Tenure.use limit now) tenures = tenures := by
  apply mark_eq_self
  intro tenure member isIt
  apply if_neg
  intro live
  exact missing (reflects.found_iff.mpr ⟨tenure, List.mem_filter.mpr ⟨member, live⟩, isIt⟩)

/-- A table in which a session was looked for reflects the ledger of that. -/
theorem perform (access : Access) : Reflects capacity limit now (access.perform table id now).2
    (Tenure.mark id (Tenure.use limit now) tenures) := by
  have handled := handled_perform table id now access
  generalize access.perform table id now = outcome at handled
  cases handled with
  | absent none =>
    rw [reflects.mark_use_of_not_found (by simp [none])]
    exact reflects
  | stale found isOver =>
    have missing : ¬∃ session, table.find? id = some session ∧ table.isOver now session = false := by
      simp [found, isOver]
    rw [reflects.mark_use_of_not_found missing]
    have gone : ∀ tenure ∈ tenures, tenure.isLive limit now = true -> (tenure.id != id) = true := by
      intro tenure member live
      rw [bne_iff_ne]
      intro isIt
      exact missing (reflects.found_iff.mpr ⟨tenure, List.mem_filter.mpr ⟨member, live⟩, isIt⟩)
    have dropped := reflects.holds.filter gone
    rw [List.filter_map] at dropped
    exact ⟨reflects.limits, Int.le_trans (Int.ofNat_le.mpr (List.length_filter_le _ _)) reflects.bounded, dropped⟩
  | @used session change found live uses =>
    refine ⟨reflects.limits, by simpa [Table.modify] using reflects.bounded, ?_⟩
    have marked : ∀ other ∈ table.sessions, other.id = id ->
        (change other).tenure = other.tenure.use limit now := by
      intro other member isIt
      have isFound : session.id = id := by simpa using List.find?_some found
      obtain rfl := List.inj_on_of_nodup_map reflects.distinct member (List.mem_of_find?_eq_some found)
        (isIt.trans isFound.symm)
      have isLive : other.tenure.isLive limit now = true := by
        rw [isLive_tenure reflects.limits.2, live, Bool.not_false]
      rw [uses, Tenure.use, if_pos isLive]
    rw [map_tenure_modify marked]
    refine reflects.holds.mark (Tenure.use limit now) (fun tenure => ?_) (fun tenure isLive => ?_) id
    · unfold Tenure.use
      split <;> rfl
    · unfold Tenure.use at isLive
      split at isLive
      · assumption
      · exact isLive

/-- A table in which room was made has room for one more session and reflects a ledger in which room was made. -/
theorem roomy (some : 1 ≤ capacity) :
    MakesRoom capacity (tenures.filter (Tenure.isLive limit now)) ((table.roomy now).sessions.map tenure) ∧
    ((table.roomy now).sessions.length : Int) < capacity ∧
    Reflects capacity limit now (table.roomy now) (Tenure.makeRoom capacity limit now tenures) := by
  have cleaned := reflects.cleanup
  have makesRoom : MakesRoom capacity (tenures.filter (Tenure.isLive limit now))
      ((table.roomy now).sessions.map tenure) := by
    have evicted := makesRoom_evict some cleaned.distinct cleaned.bounded
    rw [reflects.map_cleanup] at evicted
    have isCapacity : capacity = (table.cleanup now).2.maxSessions := cleaned.limits.1.symm
    subst isCapacity
    exact evicted
  have fits : ((table.roomy now).sessions.length : Int) < capacity := by
    have bounded : ((tenures.filter (Tenure.isLive limit now)).length : Int) ≤ capacity := by
      rw [← reflects.map_cleanup, List.length_map]
      exact cleaned.bounded
    simpa using makesRoom.length_lt bounded
  refine ⟨makesRoom, fits, cleaned.limits, Int.le_of_lt fits, ?_⟩
  rcases makesRoom.makeRoom_eq with ⟨isKept, same⟩ | ⟨before, rest, eldest, isLive, isKept, same⟩
  · rw [same, isKept, ← reflects.map_cleanup]
    exact cleaned.holds
  · have evicted := cleaned.holds.drop Tenure.evict (fun _ => rfl)
      (fun tenure => by simp [Tenure.isLive, Tenure.evict]) eldest.id
    have distinct := cleaned.holds.distinct.sublist (cleaned.holds.kept.map Tenure.id)
    rw [reflects.map_cleanup, isLive] at evicted distinct
    rw [filter_other_names distinct] at evicted
    rwa [same, isKept]

/-- A session is created behind those in a table in which room was made. -/
theorem create_eq (some : 1 ≤ capacity) (id goal path : String) :
    table.create id goal path now = (.ok (), { table.roomy now with
      sessions := (table.roomy now).sessions ++ [⟨id, path, goal, .ofMoment now, .ofMoment now, [], [], []⟩] }) := by
  have positive : ¬table.maxSessions ≤ 0 := by
    rw [reflects.limits.1]
    omega
  exact if_neg positive

/-- A table in which a session was created reflects the ledger of that, if there was none of its identifier. -/
theorem create (some : 1 ≤ capacity) {goal path : String} (new : id ∉ tenures.map Tenure.id) :
    Reflects capacity limit now (table.create id goal path now).2
      (Tenure.makeRoom capacity limit now tenures ++ [.fresh id now]) := by
  obtain ⟨-, fits, roomy⟩ := reflects.roomy some
  rw [reflects.create_eq some]
  refine ⟨roomy.limits, ?_, ?_⟩
  · rw [List.length_append, List.length_singleton]
    omega
  · rw [List.map_append]
    exact roomy.holds.begin (map_id_makeRoom capacity limit now tenures ▸ new)

end Reflects

/-- Whatever is done with a table, it reflects the ledger of that, if no session is created twice. -/
theorem Reflects.carryOut (reflects : Reflects capacity limit now table tenures) (some : 1 ≤ capacity) {visit : Visit}
    (new : ∀ id ∈ visit.newcomer?, id ∉ tenures.map Tenure.id) :
    Reflects capacity limit now (visit.carryOut now table) (Tenure.record capacity limit now tenures visit) := by
  cases visit with
  | create id goal path => exact reflects.create some (new id rfl)
  | enter id goal path =>
    cases goal with
    | str text => exact reflects.create some (new id rfl)
    | null | bool | int | float | arr | obj => exact reflects.cleanup
  | use id access => exact reflects.perform access
  | close id =>
    have finished := reflects.remove Tenure.finish (fun _ => rfl)
      (fun tenure => by simp [Tenure.isLive, Tenure.finish]) id
    rwa [← Table.close_answer table id now] at finished
  | cleanup => exact reflects.cleanup

/-- The identifiers in a ledger are those of the sessions that were created. -/
theorem map_id_record (capacity limit : Int) (now : Moment) (tenures : List Tenure) (visit : Visit) :
    (Tenure.record capacity limit now tenures visit).map Tenure.id =
      tenures.map Tenure.id ++ visit.newcomer?.toList := by
  have begins : ∀ id, (Tenure.makeRoom capacity limit now tenures ++ [Tenure.fresh id now]).map Tenure.id =
      tenures.map Tenure.id ++ [id] := by
    intro id
    rw [List.map_append, map_id_makeRoom]
    rfl
  cases visit with
  | create id goal path => exact begins id
  | enter id goal path =>
    cases goal with
    | str text => exact begins id
    | null | bool | int | float | arr | obj => exact (List.append_nil _).symm
  | use id access =>
    have keeps : ∀ tenure, (Tenure.use limit now tenure).id = tenure.id := by
      intro tenure
      unfold Tenure.use
      split <;> rfl
    exact (map_id_mark id _ keeps tenures).trans (List.append_nil _).symm
  | close id => exact (map_id_mark id Tenure.finish (fun _ => rfl) tenures).trans (List.append_nil _).symm
  | cleanup => exact (List.append_nil _).symm

/-- Whatever is done with a table, one thing after the other, it reflects the ledger of that, if none creates a
session of which the ledger tells, or which another one creates. -/
theorem Reflects.carryOutAll {start : Moment} {visits : List (Moment × Visit)}
    (reflects : Reflects capacity limit start table tenures) (some : 1 ≤ capacity)
    (later : ∀ visit ∈ visits, start.microseconds ≤ visit.1.microseconds)
    (moments : visits.Pairwise fun visit other => visit.1.microseconds ≤ other.1.microseconds)
    (newcomers : (tenures.map Tenure.id ++ visits.flatMap fun visit => visit.2.newcomer?.toList).Nodup)
    (notBefore : start.microseconds ≤ now.microseconds)
    (past : ∀ visit ∈ visits, visit.1.microseconds ≤ now.microseconds) :
    Reflects capacity limit now (Visit.carryOutAll table visits)
      (Tenure.recordAll capacity limit tenures visits) := by
  induction visits generalizing start table tenures with
  | nil => exact reflects.later notBefore
  | cons visit visits inductionHypothesis =>
    obtain ⟨first, moments⟩ := List.pairwise_cons.mp moments
    rw [List.flatMap_cons, ← List.append_assoc] at newcomers
    have new : ∀ id ∈ visit.2.newcomer?, id ∉ tenures.map Tenure.id := by
      intro id isNew member
      have apart := List.disjoint_of_nodup_append newcomers.of_append_left
      exact apart member (Option.mem_toList.mpr isNew)
    have reached := (reflects.later (later visit (.head _))).carryOut some new
    apply inductionHypothesis reached first moments _ (past visit (.head _)) fun other member =>
      past other (.tail _ member)
    rwa [map_id_record]

end Reflects

/-- Whether things are done with a table one after the other, and no two of them create a session of one identifier. -/
structure InOrder (visits : List (Moment × Visit)) : Prop where
  moments : visits.Pairwise fun visit other => visit.1.microseconds ≤ other.1.microseconds
  newcomers : (visits.flatMap fun visit => visit.2.newcomer?.toList).Nodup

/-- A table that was empty reflects the ledger of what was done with it. -/
theorem InOrder.reflects {capacity limit : Int} {visits : List (Moment × Visit)} (inOrder : InOrder visits)
    (some : 1 ≤ capacity) {now : Moment} (past : ∀ visit ∈ visits, visit.1.microseconds ≤ now.microseconds) :
    Reflects capacity limit now (Visit.carryOutAll (.empty capacity limit) visits)
      (Tenure.recordAll capacity limit [] visits) := by
  obtain ⟨start, later, notBefore⟩ : ∃ start : Moment,
      (∀ visit ∈ visits, start.microseconds ≤ visit.1.microseconds) ∧ start.microseconds ≤ now.microseconds := by
    cases visits with
    | nil => exact ⟨now, by simp, Int.le_refl _⟩
    | cons first others =>
      refine ⟨first.1, List.forall_mem_cons.mpr ⟨Int.le_refl _, ?_⟩, past first (.head _)⟩
      exact (List.pairwise_cons.mp inOrder.moments).1
  have empty : Reflects capacity limit start (.empty capacity limit) [] :=
    ⟨⟨rfl, rfl⟩, Int.le_trans Int.one_nonneg some, List.nodup_nil, List.Sublist.refl _, by simp⟩
  exact empty.carryOutAll some later inOrder.moments inOrder.newcomers notBefore past

/-- There is a moment that is not before any of some others. -/
theorem exists_notBefore (visits : List (Moment × Visit)) :
    ∃ now : Moment, ∀ visit ∈ visits, visit.1.microseconds ≤ now.microseconds := by
  induction visits with
  | nil => exact ⟨⟨0⟩, by simp⟩
  | cons visit others inductionHypothesis =>
    obtain ⟨now, past⟩ := inductionHypothesis
    refine ⟨⟨max visit.1.microseconds now.microseconds⟩, List.forall_mem_cons.mpr ⟨Int.le_max_left _ _, ?_⟩⟩
    exact fun other member => Int.le_trans (past other member) (Int.le_max_right _ _)

/-- **Sessions that are found.** Whatever is done with the table one after the other, if no session is created twice,
the table never holds more sessions than its capacity. From then on a session is found when it is looked for just when
it is live: it was created, not ended and not evicted, and was used not longer ago than the time limit. Looking for a
session leaves all others as they are, and removes it when it is not found. When a session is created, all live
sessions are kept if there is room for one more, and else all but the one created first, the first of several to stand
in the table; none that is over is kept. -/
theorem visits_account {capacity limit : Int} (some : 1 ≤ capacity) {visits : List (Moment × Visit)}
    (inOrder : InOrder visits) :
    let table := Visit.carryOutAll (.empty capacity limit) visits
    let tenures := Tenure.recordAll capacity limit [] visits
    (table.sessions.length : Int) ≤ capacity ∧
    ∀ now, (∀ visit ∈ visits, visit.1.microseconds ≤ now.microseconds) ->
      let live := tenures.filter (Tenure.isLive limit now)
      (∀ id access, (Access.perform table id now access).1 = true ↔ ∃ tenure ∈ live, tenure.id = id) ∧
      (∀ id access, (Access.perform table id now access).2.remove id = table.remove id ∧
        ((Access.perform table id now access).1 = false -> (Access.perform table id now access).2 = table.remove id)) ∧
      ∀ id goal path,
        (table.create id goal path now).1 = .ok () ∧
        ∃ kept, kept.Sublist table.sessions ∧ MakesRoom capacity live (kept.map tenure) ∧
          (table.create id goal path now).2.sessions =
            kept ++ [⟨id, path, goal, .ofMoment now, .ofMoment now, [], [], []⟩] := by
  intro table tenures
  constructor
  · obtain ⟨now, past⟩ := exists_notBefore visits
    exact (inOrder.reflects some past).bounded
  · intro now past live
    have reflects : Reflects capacity limit now table tenures := inOrder.reflects some past
    refine ⟨fun id => reflects.perform_found_iff, perform_others table now, fun id goal path => ?_⟩
    rw [reflects.create_eq some]
    exact ⟨rfl, _, (Table.madeRoom_roomy reflects.distinct now).kept, (reflects.roomy some).1, rfl⟩

/-- Four sessions in a table for two. -/
def fourSessions : List (Moment × Visit) :=
  [ (⟨0⟩, .create "first" "survey" "repo"), (⟨1⟩, .create "second" "survey" "repo"), (⟨5⟩, .use "first" .look),
    (⟨14⟩, .create "third" "survey" "repo"), (⟨15⟩, .create "fourth" "survey" "repo") ]

/-- The second of four sessions is over when the third one is created, so that the first one stays, as it was used
meanwhile. The fourth one takes its place. -/
theorem fourSessions_found : InOrder fourSessions ∧
    ∀ id access, (Access.perform (Visit.carryOutAll (.empty 2 10) fourSessions) id ⟨16⟩ access).1 = true ↔
      "third" = id ∨ "fourth" = id := by
  have inOrder : InOrder fourSessions := ⟨by decide, by decide⟩
  obtain ⟨-, account⟩ := @visits_account 2 10 (by decide) fourSessions inOrder
  obtain ⟨found, -, -⟩ := account ⟨16⟩ (by decide)
  have live : (Tenure.recordAll 2 10 [] fourSessions).filter (Tenure.isLive 10 ⟨16⟩) =
      [.fresh "third" ⟨14⟩, .fresh "fourth" ⟨15⟩] := by decide
  refine ⟨inOrder, fun id access => ?_⟩
  rw [found, live]
  simp [Tenure.fresh]

end RepoSurvey.Session

import Mathlib.Data.List.Nodup
import RepoSurvey.Session.Table

/-!
# Room for sessions

To create a session is to make room for it. Sessions that are over are dropped, and then as many of the others as it
takes for one more to fit, those that were created first: `madeRoom_roomy`. Every other request is about one session
and leaves the table as it is but for that session: `remove_answer`. So a session that is created, used and ended
leaves nothing behind but the room that was made for it.

Sessions are told apart by their identifiers here, and that they are distinct in a table is assumed.
-/

namespace RepoSurvey.Session

open Clock (Moment)

/-- The moment at which a session was created, as a number of microseconds. -/
def born (session : Session) : Int := session.createdAt.reading.microseconds

namespace Table

variable {sessions : List Session} {table : Table} {id : String} {now : Moment}

/-! ## The oldest sessions -/

/-- There is an oldest session unless there is none at all. -/
theorem oldest?_eq_none (none : oldest? sessions = none) : sessions = [] := by
  cases sessions with
  | nil => rfl
  | cons session rest =>
    unfold oldest? at none
    split at none
    · nomatch none
    · split at none <;> nomatch none

/-- The oldest session is one of the sessions, and none was created before it. -/
theorem oldest?_spec {oldest : Session} (isOldest : oldest? sessions = some oldest) :
    oldest ∈ sessions ∧ ∀ session ∈ sessions, oldest.born ≤ session.born := by
  induction sessions generalizing oldest with
  | nil => nomatch isOldest
  | cons session rest inductionHypothesis =>
    unfold oldest? at isOldest
    split at isOldest
    · next none =>
      obtain rfl := Option.some.inj isOldest
      simp [oldest?_eq_none none]
    · next other found =>
      obtain ⟨member, least⟩ := inductionHypothesis found
      split at isOldest
      · next less =>
        obtain rfl := Option.some.inj isOldest
        exact ⟨.tail _ member, List.forall_mem_cons.mpr ⟨Int.le_of_lt less, least⟩⟩
      · next notLess =>
        obtain rfl := Option.some.inj isOldest
        exact ⟨.head _, List.forall_mem_cons.mpr ⟨Int.le_refl _, fun further isFurther =>
          Int.le_trans (Int.not_lt.mp notLess) (least further isFurther)⟩⟩

/-- Of sessions with distinct identifiers, one has the identifier of one of them. -/
theorem length_without {session : Session} (distinct : (sessions.map Session.id).Nodup) (member : session ∈ sessions) :
    (sessions.filter fun other => other.id != session.id).length + 1 = sessions.length := by
  have once : sessions.countP (fun other => other.id == session.id) = 1 := by
    have counted := List.count_eq_one_of_mem distinct (List.mem_map_of_mem member)
    rwa [List.count, List.countP_map] at counted
  have parts := List.length_eq_countP_add_countP (fun other : Session => other.id == session.id) (l := sessions)
  rw [once, Nat.add_comm] at parts
  rw [parts, ← List.countP_eq_length_filter]
  exact congrArg (· + 1) (List.countP_congr fun other _ => by simp)

/-- Whether of some sessions those created first were given up, so that fewer than a number are left. -/
structure GivesUp (room : Int) (before after : List Session) : Prop where
  kept : after.Sublist before
  number : after.length = min before.length (room - 1).toNat
  oldest : ∀ session ∈ before, session ∉ after -> ∀ other ∈ after, session.born ≤ other.born

/-- Eviction gives up the sessions created first, if it may take as many steps as there are sessions. -/
theorem givesUp_evict {fuel : Nat} {room : Int} (distinct : (sessions.map Session.id).Nodup)
    (enough : sessions.length ≤ fuel) : GivesUp room sessions (evict fuel room sessions) := by
  have nothing : ∀ {sessions : List Session}, sessions.length ≤ (room - 1).toNat -> GivesUp room sessions sessions :=
    fun few => ⟨List.Sublist.refl _, (Nat.min_eq_left few).symm, fun _ member gone => absurd member gone⟩
  induction fuel generalizing sessions with
  | zero => exact nothing (by omega)
  | succ fuel inductionHypothesis =>
    unfold evict
    split
    · next fits => exact nothing (by omega)
    · next full =>
      split
      · next none => exact nothing (by rw [oldest?_eq_none none]; exact Nat.zero_le _)
      · next oldest isOldest =>
        obtain ⟨member, least⟩ := oldest?_spec isOldest
        have shorter := length_without distinct member
        have sublist : (sessions.filter fun other => other.id != oldest.id).Sublist sessions := List.filter_sublist
        have rest := @inductionHypothesis (sessions.filter fun other => other.id != oldest.id)
          (distinct.sublist (sublist.map _)) (by omega)
        refine ⟨rest.kept.trans sublist, by rw [rest.number]; omega, fun session isSession gone other isOther => ?_⟩
        by_cases same : session.id = oldest.id
        · obtain rfl := List.inj_on_of_nodup_map distinct isSession member same
          exact least other (sublist.subset (rest.kept.subset isOther))
        · exact rest.oldest session (List.mem_filter.mpr ⟨isSession, by simpa using same⟩) gone other isOther

/-! ## Creating sessions -/

/-- Whether room was made in a table for one more session: sessions that were over are gone, and as many others as
it took, those created first. -/
structure MadeRoom (now : Moment) (before after : Table) : Prop where
  limits : after.maxSessions = before.maxSessions ∧ after.timeLimit = before.timeLimit
  kept : after.sessions.Sublist before.sessions
  live : ∀ session ∈ after.sessions, before.isOver now session = false
  number : after.sessions.length =
    min (before.sessions.countP fun session => !before.isOver now session) (before.maxSessions - 1).toNat
  oldest : ∀ session ∈ before.sessions, before.isOver now session = false -> session ∉ after.sessions ->
    ∀ other ∈ after.sessions, session.born ≤ other.born

/-- A table in which room was made for one more session. -/
def roomy (table : Table) (now : Moment) : Table :=
  let live := (table.cleanup now).2
  { live with sessions := evict live.sessions.length live.maxSessions live.sessions }

/-- In a roomy table, room was made. -/
theorem madeRoom_roomy (distinct : (table.sessions.map Session.id).Nodup) (now : Moment) :
    table.MadeRoom now (table.roomy now) := by
  have sublist : ((table.cleanup now).2.sessions).Sublist table.sessions := List.filter_sublist
  have givesUp : GivesUp table.maxSessions (table.cleanup now).2.sessions (table.roomy now).sessions :=
    givesUp_evict (distinct.sublist (sublist.map _)) (Nat.le_refl _)
  have isLive : ∀ session, session ∈ (table.cleanup now).2.sessions ↔
      session ∈ table.sessions ∧ table.isOver now session = false := by
    intro session
    change session ∈ table.sessions.filter _ ↔ _
    simp
  exact {
    limits := ⟨rfl, rfl⟩
    kept := givesUp.kept.trans sublist
    live := fun session member => ((isLive session).mp (givesUp.kept.subset member)).2
    number := by
      rw [givesUp.number, List.countP_eq_length_filter]
      rfl
    oldest := fun session member live => givesUp.oldest session ((isLive session).mpr ⟨member, live⟩) }

/-- A session that cannot be created leaves a roomy table. -/
theorem create_error {goal path : String} {problem : NoRoom}
    (failed : (table.create id goal path now).1 = .error problem) :
    (table.create id goal path now).2 = table.roomy now := by
  unfold create at failed ⊢
  dsimp only at failed ⊢
  split at failed
  · next none => rw [if_pos none]; rfl
  · nomatch failed

/-- A session that was created is all that a roomy table lacks. -/
theorem create_ok {goal path : String} (created : (table.create id goal path now).1 = .ok ()) :
    (table.create id goal path now).2.remove id = (table.roomy now).remove id := by
  unfold create at created ⊢
  dsimp only at created ⊢
  split at created
  · nomatch created
  · next some =>
    rw [if_neg some]
    simp [remove, roomy]

/-! ## Single sessions -/

/-- A table without a session of an identifier does not change when it is removed. -/
theorem remove_of_none (none : table.find? id = none) : table.remove id = table := by
  have absent : ∀ session ∈ table.sessions, session.id ≠ id := by simpa [find?] using none
  have same : table.sessions.filter (fun session => session.id != id) = table.sessions :=
    List.filter_eq_self.mpr fun session member => by simpa using absent session member
  unfold remove
  rw [same]

/-- What is not found in a table is not found when room was made in it. -/
theorem MadeRoom.find?_eq_none {after : Table} (madeRoom : table.MadeRoom now after) (absent : table.find? id = none) :
    after.find? id = none :=
  List.find?_eq_none.mpr fun session member => List.find?_eq_none.mp absent session (madeRoom.kept.subset member)

/-- To end a session is to remove it, if there is one. -/
theorem close_answer (table : Table) (id : String) (now : Moment) :
    (answer now (.close id) table).2 = table.remove id := by
  change (table.close id).2 = _
  unfold close
  split
  · next none => exact (remove_of_none none).symm
  · rfl

/-- A change of a session leaves all others alone. -/
theorem remove_modify {change : Session -> Session} (keeps : ∀ session, (change session).id = session.id) :
    (table.modify id change).remove id = table.remove id := by
  have same : ∀ sessions : List Session,
      (sessions.map fun session => if session.id = id then change session else session).filter
        (fun session => session.id != id) = sessions.filter fun session => session.id != id := by
    intro sessions
    induction sessions with
    | nil => rfl
    | cons session rest inductionHypothesis =>
      by_cases isIt : session.id = id
      · simp [isIt, keeps, inductionHypothesis]
      · simp [isIt, inductionHypothesis]
  unfold remove modify
  rw [same]

/-- To look for a session leaves all others alone. -/
theorem remove_access (table : Table) (id : String) (now : Moment) :
    (table.access id now).2.remove id = table.remove id := by
  unfold access
  split
  · rfl
  · split
    · simp [remove]
    · exact remove_modify fun _ => rfl

/-- To look for a session and change it leaves all others alone. -/
theorem remove_change {update : Session -> Session} (keeps : ∀ session, (update session).id = session.id) :
    (table.change id now update).2.remove id = table.remove id := by
  have accessed := remove_access table id now
  unfold change
  split
  · next found => rwa [found] at accessed
  · next found =>
    rw [found] at accessed
    rw [remove_modify keeps, accessed]

end Table

/-- Whether a request is about a session of an identifier that is expected to be there. -/
def Request.IsAbout (id : String) : Request -> Prop
  | .create _ _ _ => False
  | .updateContext other _ | .remark other _ _ | .toolRecord other _ _ _ | .close other => other = id

/-- A request about a session leaves all others alone. -/
theorem Table.remove_answer {request : Request} {id : String} (isAbout : request.IsAbout id) (now : Moment)
    (table : Table) : (table.answer now request).2.remove id = table.remove id := by
  cases request with
  | create _ _ _ => exact isAbout.elim
  | updateContext _ _ => obtain rfl := isAbout; exact remove_change fun _ => rfl
  | remark _ _ _ => obtain rfl := isAbout; exact remove_change fun _ => rfl
  | toolRecord _ _ _ _ => obtain rfl := isAbout; exact remove_change fun _ => rfl
  | close _ =>
    obtain rfl := isAbout
    rw [close_answer]
    simp [remove]

end RepoSurvey.Session

import RepoSurvey.Analysis.World
import RepoSurvey.Proofs.Activity.Goes
import RepoSurvey.Proofs.Clock.Timestamps
import RepoSurvey.Proofs.Store.Caches
import RepoSurvey.Proofs.Store.Drafts

/-!
# What calls do to the world

A call is served when it is carried out. What served calls do to the stored documents, to the cache and to
the clock is a function of the calls alone; what they do to the rest of the world is not told here, except
that only calls to the table of sessions change it. That a clock shows a date of the calendar is part of its
being served: no other date can be written down.
-/

namespace RepoSurvey.Analysis

open Activity (Answered Exchange)
open Clock (Moment)
open Store (Cache Documents Variant putVariant)

namespace Call

/-- Whether a call was carried out. -/
def Served : (call : Call) -> Answer call -> Prop
  | .now, moment => Moment.InCalendar moment
  | .readCache _, answer => ∃ found, answer = .ok found
  | .discardDrafts _ _, answer | .countDrafts _, answer => ∃ count, answer = .ok count
  | .writeCache _ _ _, answer | .deleteCache _, answer | .saveDocument _ _ _ _, answer
  | .promoteDrafts _, answer | .report _, answer | .settled _ _, answer => answer = .ok ()
  | .agent _, _ | .drawKey, _ | .freshId, _ | .session _, _ | .choose _, _ => True

instance (call : Call) (answer : Answer call) : Decidable (call.Served answer) :=
  match call, answer with
  | .now, _ => inferInstanceAs (Decidable (_ ∧ _))
  | .readCache _, answer | .discardDrafts _ _, answer | .countDrafts _, answer =>
    match answer with
    | .ok value => .isTrue ⟨value, rfl⟩
    | .error _ => .isFalse fun ⟨_, same⟩ => nomatch same
  | .writeCache _ _ _, answer | .deleteCache _, answer | .saveDocument _ _ _ _, answer
  | .promoteDrafts _, answer | .report _, answer | .settled _ _, answer =>
    match answer with
    | .ok () => .isTrue rfl
    | .error _ => .isFalse fun same => nomatch same
  | .agent _, _ | .drawKey, _ | .freshId, _ | .session _, _ | .choose _, _ => .isTrue trivial

/-- Whether a call that changes something was carried out. -/
def carried : (call : Call) -> Answer call -> Bool
  | .readCache _, answer => answer.isOk
  | .discardDrafts _ _, answer => answer.isOk
  | .writeCache _ _ _, answer | .deleteCache _, answer | .saveDocument _ _ _ _, answer
  | .promoteDrafts _, answer => answer.isOk
  | _, _ => true

/-- What a call does to the stored documents at a moment. -/
def storing (now : Moment) : Call -> Documents -> Documents
  | .saveDocument project name content language, documents =>
    documents.save project name content language now
  | .discardDrafts project name, documents => (documents.discardDrafts project name).2
  | .promoteDrafts project, documents => documents.published project
  | _, documents => documents

/-- What a call does to the cache at a moment. -/
def caching (now : Moment) : Call -> Cache -> Cache
  | .readCache key, cache => (cache.get key now).2
  | .writeCache key value lifetime, cache => (cache.set key value lifetime now).2
  | .deleteCache key, cache => cache.delete key
  | _, cache => cache

/-- A call that was served was carried out. -/
theorem Served.carried {call : Call} {answer : Answer call} (served : call.Served answer) :
    call.carried answer = true := by
  cases call with
  | readCache key =>
    obtain ⟨found, rfl⟩ := served
    rfl
  | discardDrafts project name =>
    obtain ⟨count, rfl⟩ := served
    rfl
  | writeCache key value lifetime | deleteCache key | saveDocument project name content language
  | promoteDrafts project =>
    obtain rfl : answer = .ok () := served
    rfl
  | _ => rfl

end Call

/-- Whether all calls of a way were carried out. -/
def AllServed (way : List (Exchange Call Answer)) : Prop :=
  ∀ exchange ∈ way, exchange.request.Served exchange.answer

instance (way : List (Exchange Call Answer)) : Decidable (AllServed way) :=
  inferInstanceAs (Decidable (∀ exchange ∈ way, exchange.request.Served exchange.answer))

/-- All calls of two ways in a row were carried out when those of both were. -/
@[simp] theorem allServed_append {first second : List (Exchange Call Answer)} :
    AllServed (first ++ second) ↔ AllServed first ∧ AllServed second := List.forall_mem_append

namespace World

variable {σ : Type} {surroundings : Surroundings σ} {call : Call} {world : World σ}

/-- The moment at which the next call is answered. -/
def next (surroundings : Surroundings σ) (world : World σ) : Moment :=
  world.clock.after (surroundings.elapsed world.outside).1

/-- The clock moves on before each call. -/
@[simp] theorem clock_answer (surroundings : Surroundings σ) (call : Call) (world : World σ) :
    (answer surroundings call world).2.clock = world.next surroundings := by
  cases call <;> simp only [answer, carryOut, answerCache, answerSession, orRefusal] <;>
    (try split) <;> rfl

/-- The clock never goes back. -/
theorem clock_le_next (surroundings : Surroundings σ) (world : World σ) :
    world.clock.microseconds ≤ (world.next surroundings).microseconds := by
  simp only [next, Moment.after]
  omega

/-- A call that may be refused is refused, and nothing happens, or it is accepted. -/
theorem orRefusal_cases {α : Type} {accept : World σ -> α × World σ}
    {outcome : Except Obstacle α × World σ}
    (isOutcome : orRefusal surroundings call world accept = outcome) :
    (∃ report outside, outcome = (.error (.refusal report), { world with outside })) ∨
      ∃ outside, outcome = (.ok (accept { world with outside }).1, (accept { world with outside }).2) := by
  unfold orRefusal at isOutcome
  split at isOutcome
  · exact .inl ⟨_, _, isOutcome.symm⟩
  · exact .inr ⟨_, isOutcome.symm⟩

/-- A call to the cache is refused, and nothing happens, or the cache does what it can. -/
theorem answerCache_cases {α : Type} {change : Moment -> Cache -> Except Store.CacheFault α × Cache}
    {outcome : Except Obstacle α × World σ}
    (isOutcome : answerCache surroundings call world change = outcome) :
    (∃ report outside, outcome = (.error (.refusal report), { world with outside })) ∨
      ∃ outside, outcome = ((change world.clock world.cache).1.mapError .cache,
        { world with cache := (change world.clock world.cache).2, outside }) := by
  unfold answerCache orRefusal at isOutcome
  split at isOutcome
  · next isRefused =>
    split at isRefused
    · cases isRefused
      exact .inl ⟨_, _, isOutcome.symm⟩
    · cases isRefused
      exact .inr ⟨_, isOutcome.symm⟩

/-- A call does to the stored documents what it does if it was carried out, and otherwise nothing. -/
theorem documents_of_answer {outcome : Answer call × World σ}
    (isOutcome : answer surroundings call world = outcome) : outcome.2.documents =
      if call.carried outcome.1 then call.storing (world.next surroundings) world.documents
      else world.documents := by
  cases call with
  | saveDocument project name content language =>
    simp only [answer, carryOut] at isOutcome
    rcases orRefusal_cases isOutcome with ⟨_, _, rfl⟩ | ⟨_, rfl⟩ <;> rfl
  | discardDrafts project name =>
    simp only [answer, carryOut] at isOutcome
    rcases orRefusal_cases isOutcome with ⟨_, _, rfl⟩ | ⟨_, rfl⟩ <;> rfl
  | promoteDrafts project =>
    simp only [answer, carryOut] at isOutcome
    rcases orRefusal_cases isOutcome with ⟨_, _, rfl⟩ | ⟨_, rfl⟩ <;> rfl
  | _ =>
    obtain rfl := isOutcome
    refine Eq.trans ?_ (ite_self world.documents).symm
    simp only [answer, carryOut, answerCache, answerSession, orRefusal]
    (try split) <;> rfl

/-- A call does to the cache what it does if it was carried out, and otherwise nothing. -/
theorem cache_of_answer {outcome : Answer call × World σ}
    (isOutcome : answer surroundings call world = outcome) : outcome.2.cache =
      if call.carried outcome.1 then call.caching (world.next surroundings) world.cache
      else world.cache := by
  cases call with
  | readCache key =>
    simp only [answer, carryOut] at isOutcome
    rcases answerCache_cases isOutcome with ⟨_, _, rfl⟩ | ⟨_, rfl⟩
    · rfl
    · split
      · rfl
      · next failed =>
        refine Cache.get_snd_of_fault fun found isFound => failed ?_
        exact congrArg (fun outcome => (outcome.mapError Obstacle.cache).isOk) isFound
  | writeCache key value lifetime =>
    simp only [answer, carryOut] at isOutcome
    rcases answerCache_cases isOutcome with ⟨_, _, rfl⟩ | ⟨_, rfl⟩
    · rfl
    · split
      · rfl
      · next failed =>
        refine Cache.set_snd_of_fault fun isSet => failed ?_
        exact congrArg (fun outcome => (outcome.mapError Obstacle.cache).isOk) isSet
  | deleteCache key =>
    simp only [answer, carryOut] at isOutcome
    rcases answerCache_cases isOutcome with ⟨_, _, rfl⟩ | ⟨_, rfl⟩ <;> rfl
  | _ =>
    obtain rfl := isOutcome
    refine Eq.trans ?_ (ite_self world.cache).symm
    simp only [answer, carryOut, answerSession, orRefusal]
    (try split) <;> rfl

/-- A served call does to the stored documents what it does. -/
theorem documents_of_served (served : call.Served (answer surroundings call world).1) :
    (answer surroundings call world).2.documents =
      call.storing (world.next surroundings) world.documents := by
  rw [documents_of_answer rfl, if_pos served.carried]

/-- A served call does to the cache what it does. -/
theorem cache_of_served (served : call.Served (answer surroundings call world).1) :
    (answer surroundings call world).2.cache = call.caching (world.next surroundings) world.cache := by
  rw [cache_of_answer rfl, if_pos served.carried]

/-- A call that does nothing to caches leaves the cache alone. -/
theorem cache_of_idle (idle : ∀ now cache, call.caching now cache = cache) :
    (answer surroundings call world).2.cache = world.cache := by
  rw [cache_of_answer rfl, idle, ite_self]

/-- A look into the cache that is carried out finds what the cache finds. -/
theorem cache_get_of_served {key : String} {found : Option Json}
    (served : (answer surroundings (.readCache key) world).1 = .ok found) :
    (world.cache.get key (world.next surroundings)).1 = .ok found := by
  simp only [answer, carryOut, answerCache, orRefusal] at served
  split at served
  · nomatch served
  · exact mapError_eq_ok.mp served

/-- A value that is kept on request is kept by the cache. -/
theorem cache_set_of_served {key : String} {value : Json} {lifetime : Store.Lifetime}
    (served : (answer surroundings (.writeCache key value lifetime) world).1 = .ok ()) :
    (world.cache.set key value lifetime (world.next surroundings)).1 = .ok () := by
  simp only [answer, carryOut, answerCache, orRefusal] at served
  split at served
  · nomatch served
  · exact mapError_eq_ok.mp served

/-- Only calls to the table of sessions change it. -/
theorem sessions_answer (noSession : ∀ request, call ≠ .session request) :
    (answer surroundings call world).2.sessions = world.sessions := by
  cases call with
  | session request => exact absurd rfl (noSession request)
  | _ =>
    simp only [answer, carryOut, answerCache, orRefusal]
    (try split) <;> rfl

/-- Every call is noted. -/
@[simp] theorem calls_answer (surroundings : Surroundings σ) (call : Call) (world : World σ) :
    (answer surroundings call world).2.calls = call :: world.calls := by
  cases call <;> simp only [answer, carryOut, answerCache, answerSession, orRefusal] <;>
    (try split) <;> rfl

/-! ## Ways -/

variable {way : List (Exchange Call Answer)} {after : World σ}

/-- The calls of a way are noted, the latest first. -/
theorem calls_answered (answered : Answered (answer surroundings) world way after) :
    after.calls = (way.map Exchange.request).reverse ++ world.calls := by
  induction answered with
  | nil => rfl
  | cons request rest inductionHypothesis => simp [inductionHypothesis]

/-- The clock never goes back on a way. -/
theorem clock_le_answered (answered : Answered (answer surroundings) world way after) :
    world.clock.microseconds ≤ after.clock.microseconds := by
  induction answered with
  | nil => exact Int.le_refl _
  | @cons state _ _ request rest inductionHypothesis =>
    rw [clock_answer] at inductionHypothesis
    exact Int.le_trans (clock_le_next surroundings state) inductionHypothesis

/-- What every call of a way leaves alone in the stored documents is left alone by the way. -/
theorem documents_answered {α : Type} (view : Documents -> α)
    (answered : Answered (answer surroundings) world way after)
    (kept : ∀ exchange ∈ way, exchange.request.carried exchange.answer = true -> ∀ now documents,
      view (exchange.request.storing now documents) = view documents) :
    view after.documents = view world.documents := by
  induction answered with
  | nil => rfl
  | cons request rest inductionHypothesis =>
    rw [inductionHypothesis fun exchange member => kept exchange (.tail _ member), documents_of_answer rfl]
    split
    · next carried => exact kept _ (.head _) carried _ _
    · rfl

end World

end RepoSurvey.Analysis

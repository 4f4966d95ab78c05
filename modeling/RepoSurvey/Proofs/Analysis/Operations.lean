import RepoSurvey.Proofs.Activity.Attempts
import RepoSurvey.Proofs.Analysis.Recitals
import RepoSurvey.Proofs.Store.Holdings

/-!
# Operations on the stored documents

Drafts are saved, discarded and published, and documents read and listed, one operation after another. What comes
back from each, and what can be read afterwards, is told by what the projects hold: for every project its drafts
and its published documents, each by name and language. `Meets` lists what an operation may come to;
`operations_meet` says that all operations on the rows of one table come to nothing else.
-/

namespace RepoSurvey.Analysis

open Store (Archive Contents Documents Status)

/-- An operation on the stored documents. -/
inductive Operation where
  | save (project name content language : String)
  | discard (project : String) (name : Option String)
  | publish (project : String)
  | get (project name language : String) (status : Status)
  | list (project language : String) (status : Status)
  deriving DecidableEq, Repr

/-- What comes back from an operation. -/
inductive Return where
  | done
  | count (count : Nat)
  | content (content : Option String)
  | names (names : List String)
  | failed (problem : Problem)

/-- Whether an operation failed. -/
def Return.IsFailure : Return -> Prop
  | .failed _ => True
  | _ => False

namespace Operation

/-- The project that an operation is about. -/
def project : Operation -> String
  | save project _ _ _ | discard project _ | publish project | get project _ _ _ | list project _ _ => project

/-- Whether an operation publishes drafts. -/
def publishes : Operation -> Bool
  | publish _ => true
  | _ => false

/-- Whether an operation only reads. -/
def reads : Operation -> Bool
  | get _ _ _ _ | list _ _ _ => true
  | _ => false

/-- What comes back from an attempt in a world. -/
def returned {α σ : Type} (value : α -> Return) (outcome : Except Problem α × World σ) : Return × World σ :=
  (match outcome.1 with
    | .ok found => value found
    | .error problem => .failed problem, outcome.2)

/-- Carry out an operation in a world. -/
def carryOut {σ : Type} (surroundings : Surroundings σ) (world : World σ) : Operation -> Return × World σ
  | save project name content language =>
    returned (fun _ => .done) (World.run surroundings (saveDocument project name content language).run world)
  | discard project name => returned .count (World.run surroundings (discardDrafts project name).run world)
  | publish project => returned .count (World.run surroundings (publishDrafts project).run world)
  | get project name language status => (.content (world.documents.get? project name language status), world)
  | list project language status => (.names (world.documents.names project language status), world)

/-- Carry out operations one after another. -/
def carryOutAll {σ : Type} (surroundings : Surroundings σ) : List Operation -> World σ -> List Return × World σ
  | [], world => ([], world)
  | operation :: operations, world =>
    let first := operation.carryOut surroundings world
    let rest := carryOutAll surroundings operations first.2
    (first.1 :: rest.1, rest.2)

end Operation

/-! ## What operations may come to -/

/-- What an operation may come to, given what the projects hold: what comes back, and what they hold afterwards. -/
inductive Meets (archive : Archive) : Operation -> Return -> Archive -> Prop where
  /-- The content takes its place among the drafts. -/
  | saved (project name content language : String) :
      Meets archive (.save project name content language) .done (archive.change project fun holdings =>
        { holdings with drafts := holdings.drafts.put name language content })
  /-- The drafts that there are of the document, or of the project, are counted and discarded. -/
  | discarded (project : String) (name : Option String) (count : Nat)
      (number : ((archive project).drafts.only name).Number count) :
      Meets archive (.discard project name) (.count count) (archive.change project fun holdings =>
        { holdings with drafts := holdings.drafts.without name })
  /-- There are drafts: they are counted and take the place of all published documents of the project. -/
  | published (project : String) (count : Nat) (number : (archive project).drafts.Number count)
      (isSome : count ≠ 0) :
      Meets archive (.publish project) (.count count) (archive.change project fun holdings =>
        ⟨Contents.empty, holdings.drafts⟩)
  /-- There are no drafts, and nothing changes. -/
  | unpublished (project : String) (none : (archive project).drafts = Contents.empty) :
      Meets archive (.publish project) (.count 0) archive
  /-- The content that was asked for comes back. -/
  | read (project name language : String) (status : Status) :
      Meets archive (.get project name language status)
        (.content ((archive project).inStatus status name language)) archive
  /-- The names of the documents in the language come back, in strictly increasing order. -/
  | listed (project language : String) (status : Status) (names : List String)
      (increasing : names.Pairwise (· < ·))
      (held : ∀ name, name ∈ names ↔ ((archive project).inStatus status name language).isSome) :
      Meets archive (.list project language status) (.names names) archive
  /-- An operation that is to change something fails, and nothing changes. -/
  | failed (operation : Operation) (problem : Problem) (changes : operation.reads = false) :
      Meets archive operation (.failed problem) archive

/-- What operations may come to that follow one another. -/
inductive MeetAll : Archive -> List Operation -> List Return -> Archive -> Prop where
  | nil (archive : Archive) : MeetAll archive [] [] archive
  | cons {before middle after : Archive} {operation : Operation} {operations : List Operation} {return' : Return}
      {returns : List Return} (first : Meets before operation return' middle)
      (rest : MeetAll middle operations returns after) :
      MeetAll before (operation :: operations) (return' :: returns) after

/-! ## Single calls -/

section Calls

variable {σ α β : Type} {surroundings : Surroundings σ} {world : World σ} {call : Call}

/-- Whether no call to the cache, the stored documents or the listener is ever refused. -/
def Surroundings.RefusesNothing (surroundings : Surroundings σ) : Prop :=
  ∀ call outside, (surroundings.refusal call outside).1 = none

namespace World

/-- A call that may be refused is answered in a world, and an obstacle is a problem. -/
theorem run_accepted (partner : Partner) (asked : Doing (Except Obstacle α)) :
    World.run surroundings (Attempt.accepted partner asked).run world =
      ((World.run surroundings asked world).1.mapError (Obstacle.problem partner),
        (World.run surroundings asked world).2) := by
  refine (Activity.run_bind _ asked _ world).trans ?_
  show _ = (Except.mapError _ (asked.run _ world).1, (asked.run _ world).2)
  rcases (asked.run (answer surroundings) world).1 with (_ | _) | _ <;> rfl

/-- Attempts in a row are made in the worlds that the earlier ones leave. -/
theorem run_then (first : Attempt α) (next : α -> Attempt β) :
    World.run surroundings (first >>= next).run world =
      match World.run surroundings first.run world with
      | (.ok found, middle) => World.run surroundings (next found).run middle
      | (.error problem, middle) => (.error problem, middle) := by
  unfold World.run
  rw [Activity.run_then, Activity.run_bind]
  rcases first.run.run (answer surroundings) world with ⟨_ | _, _⟩ <;> rfl

/-- A call meets an obstacle only among surroundings that refuse something. -/
theorem refuses_of_error {accept : World σ -> α × World σ} {obstacle : Obstacle}
    (isError : (orRefusal surroundings call world accept).1 = .error obstacle) : ¬surroundings.RefusesNothing := by
  intro nothing
  unfold orRefusal at isError
  split at isError
  · next report outside isRefused =>
    have accepted := nothing call world.outside
    rw [isRefused] at accepted
    nomatch accepted
  · nomatch isError

/-- A call to the stored documents is refused, which changes none of them, or it is accepted. -/
theorem settles (surroundings : Surroundings σ) (world : World σ) (asked : Doing (Except Obstacle α)) (call : Call)
    (accept : World σ -> α × World σ) (run : World.run surroundings asked world =
      orRefusal surroundings call (noting surroundings call world) accept) :
    (∃ problem after, World.run surroundings (Attempt.accepted .documents asked).run world = (.error problem, after) ∧
        after.documents = world.documents ∧ ¬surroundings.RefusesNothing) ∨
      ∃ middle, middle.documents = world.documents ∧
        World.run surroundings (Attempt.accepted .documents asked).run world =
          (.ok (accept middle).1, (accept middle).2) := by
  rw [run_accepted, run]
  obtain ⟨outcome, isOutcome⟩ :
    ∃ outcome, orRefusal surroundings call (noting surroundings call world) accept = outcome := ⟨_, rfl⟩
  rcases orRefusal_cases isOutcome with ⟨report, outside, rfl⟩ | ⟨outside, rfl⟩
  · refine .inl ⟨.refused .documents report, { noting surroundings call world with outside }, ?_, rfl,
      refuses_of_error (congrArg Prod.fst isOutcome)⟩
    rw [isOutcome]
    rfl
  · refine .inr ⟨{ noting surroundings call world with outside }, rfl, ?_⟩
    rw [isOutcome]
    rfl

end World

end Calls

/-! ## Single operations -/

section Operations

variable {σ : Type} (surroundings : Surroundings σ) (world : World σ)

/-- What an operation comes to in a world: nothing but what it may, and a failure only if something is refused. -/
structure Operation.Obeys (operation : Operation) (outcome : Return × World σ) : Prop where
  meets : Meets world.documents.archive operation outcome.1 outcome.2.documents.archive
  keyed : outcome.2.documents.IsKeyed
  fails : outcome.1.IsFailure -> ¬surroundings.RefusesNothing
  /-- No row of another project is touched. -/
  others : outcome.2.documents.others operation.project = world.documents.others operation.project
  /-- No published row is touched except by publishing. -/
  published : operation.publishes = false ->
    (outcome.2.documents.filter fun row => row.status == .published) =
      world.documents.filter fun row => row.status == .published

variable {surroundings world}

/-- An operation that fails and leaves the documents alone has come to what it may. -/
theorem Operation.obeys_failed {operation : Operation} {problem : Problem} {after : World σ}
    (changes : operation.reads = false) (keyed : world.documents.IsKeyed)
    (same : after.documents = world.documents) (refuses : ¬surroundings.RefusesNothing) :
    operation.Obeys surroundings world (.failed problem, after) where
  meets := same ▸ .failed operation problem changes
  keyed := same ▸ keyed
  fails _ := refuses
  others := by rw [same]
  published _ := by rw [same]

/-- A draft is saved, or that is refused. -/
theorem Operation.obeys_save (keyed : world.documents.IsKeyed) (project name content language : String) :
    (Operation.save project name content language).Obeys surroundings world
      ((Operation.save project name content language).carryOut surroundings world) := by
  rcases World.settles surroundings world (.ask (Call.saveDocument project name content language))
    (.saveDocument project name content language) (fun world => ((), { world with
      documents := world.documents.save project name content language world.clock })) rfl with
    ⟨problem, after, run, same, refuses⟩ | ⟨middle, same, run⟩
  · have comes : (save project name content language).carryOut surroundings world = (.failed problem, after) :=
      congrArg (returned fun _ => .done) run
    rw [comes]
    exact obeys_failed rfl keyed same refuses
  · have comes : (save project name content language).carryOut surroundings world = (.done, { middle with
        documents := middle.documents.save project name content language middle.clock }) :=
      congrArg (returned fun _ => .done) run
    rw [comes, same]
    exact {
      meets := Documents.archive_save ▸ .saved project name content language
      keyed := keyed.save
      fails := fun failure => failure.elim
      others := Documents.others_eq_of_beyond Documents.beyond_save
      published := fun _ => Documents.published_eq_of_beyond Documents.beyond_save }

/-- Drafts are discarded and counted, or that is refused. -/
theorem Operation.obeys_discard (keyed : world.documents.IsKeyed) (project : String) (name : Option String) :
    (Operation.discard project name).Obeys surroundings world
      ((Operation.discard project name).carryOut surroundings world) := by
  rcases World.settles surroundings world (.ask (Call.discardDrafts project name)) (.discardDrafts project name)
    (fun world => ((world.documents.discardDrafts project name).1, { world with
      documents := (world.documents.discardDrafts project name).2 })) rfl with
    ⟨problem, after, run, same, refuses⟩ | ⟨middle, same, run⟩
  · have comes : (discard project name).carryOut surroundings world = (.failed problem, after) :=
      congrArg (returned .count) run
    rw [comes]
    exact obeys_failed rfl keyed same refuses
  · have comes : (discard project name).carryOut surroundings world = (.count
        (middle.documents.discardDrafts project name).1, { middle with
          documents := (middle.documents.discardDrafts project name).2 }) :=
      congrArg (returned .count) run
    rw [comes, same]
    exact {
      meets := Documents.archive_discardDrafts name ▸
        .discarded project name _ (Documents.number_drafts keyed project name)
      keyed := keyed.discardDrafts name
      fails := fun failure => failure.elim
      others := Documents.others_eq_of_beyond (Documents.beyond_discardDrafts name)
      published := fun _ => Documents.published_eq_of_beyond (Documents.beyond_discardDrafts name) }

/-- What comes of a publication: it is refused before or in its transaction, which changes no document, or the
drafts are counted and, if there are any, published. -/
theorem World.settles_publishDrafts (surroundings : Surroundings σ) (world : World σ) (project : String) :
    (∃ problem after, World.run surroundings (publishDrafts project).run world = (.error problem, after) ∧
        after.documents = world.documents ∧ ¬surroundings.RefusesNothing) ∨
      ∃ after, World.run surroundings (publishDrafts project).run world =
          (.ok (world.documents.countDrafts project), after) ∧
        after.documents = if world.documents.countDrafts project = 0 then world.documents
          else world.documents.published project := by
  unfold publishDrafts
  rw [World.run_then]
  rcases World.settles surroundings world (.ask (Call.countDrafts project))
    (.countDrafts project) (fun world => (world.documents.countDrafts project, world)) rfl with
    ⟨problem, after, run, same, refuses⟩ | ⟨middle, same, run⟩
  · rw [run]
    exact .inl ⟨problem, after, rfl, same, refuses⟩
  · rw [run, same]
    change (∃ problem after, World.run surroundings (ExceptT.run (ite _ _ _)) middle = _ ∧ _) ∨
      ∃ after, World.run surroundings (ExceptT.run (ite _ _ _)) middle = _ ∧ _
    by_cases none : world.documents.countDrafts project = 0
    · simp only [if_pos none]
      exact .inr ⟨middle, none ▸ rfl, same⟩
    · simp only [if_neg none]
      rw [World.run_then]
      rcases World.settles surroundings middle (.ask (Call.promoteDrafts project)) (.promoteDrafts project)
        (fun world => ((), { world with
          documents := world.documents.published project })) rfl with
        ⟨problem, after, run, sameThen, refuses⟩ | ⟨later, sameThen, run⟩
      · rw [run]
        exact .inl ⟨problem, after, rfl, sameThen.trans same, refuses⟩
      · rw [run]
        exact .inr ⟨_, rfl, congrArg (Documents.published project) (sameThen.trans same)⟩

/-- Drafts are published if there are any, or that is refused before or in the transaction. -/
theorem Operation.obeys_publish (keyed : world.documents.IsKeyed) (project : String) :
    (Operation.publish project).Obeys surroundings world
      ((Operation.publish project).carryOut surroundings world) := by
  have isDraft : Documents.isDraftOf project none = Store.Row.isOf project .draft :=
    funext fun row => Bool.and_true _
  have number : (world.documents.archive project).drafts.Number (world.documents.countDrafts project) := by
    have drafts := Documents.number_drafts keyed project none
    rwa [Contents.only_none, isDraft] at drafts
  rcases World.settles_publishDrafts surroundings world project with
    ⟨problem, after, run, same, refuses⟩ | ⟨after, run, stored⟩
  · have comes : (publish project).carryOut surroundings world = (.failed problem, after) :=
      congrArg (returned .count) run
    rw [comes]
    exact obeys_failed rfl keyed same refuses
  · have comes : (publish project).carryOut surroundings world =
        (.count (world.documents.countDrafts project), after) := congrArg (returned .count) run
    rw [comes]
    by_cases none : world.documents.countDrafts project = 0
    · rw [if_pos none] at stored
      rw [none] at number ⊢
      exact {
        meets := by
          rw [stored]
          exact .unpublished project (Contents.number_zero.mp number)
        keyed := stored ▸ keyed
        fails := fun failure => failure.elim
        others := stored ▸ rfl
        published := fun _ => stored ▸ rfl }
    · rw [if_neg none] at stored
      exact {
        meets := by
          rw [stored, Documents.archive_published]
          exact .published project _ number none
        keyed := stored ▸ keyed.published project
        fails := fun failure => failure.elim
        others := stored ▸ Documents.others_published
        published := fun none => nomatch none }

/-- Every operation comes to what it may. -/
theorem Operation.obeys (surroundings : Surroundings σ) (keyed : world.documents.IsKeyed) (operation : Operation) :
    operation.Obeys surroundings world (operation.carryOut surroundings world) := by
  cases operation with
  | save project name content language => exact obeys_save keyed project name content language
  | discard project name => exact obeys_discard keyed project name
  | publish project => exact obeys_publish keyed project
  | get project name language status =>
    exact {
      meets := by
        have read : Meets world.documents.archive _ _ _ := .read project name language status
        rwa [Documents.inStatus_archive] at read
      keyed := keyed
      fails := fun failure => failure.elim
      others := rfl
      published := fun _ => rfl }
  | list project language status =>
    exact {
      meets := .listed project language status _ (Documents.sorted_names keyed project language status) fun name => by
        rw [Documents.mem_names, Documents.inStatus_archive]
      keyed := keyed
      fails := fun failure => failure.elim
      others := rfl
      published := fun _ => rfl }

/-- All operations come to what they may, one after another. -/
theorem Operation.meetAll (surroundings : Surroundings σ) (keyed : world.documents.IsKeyed)
    (operations : List Operation) :
    MeetAll world.documents.archive operations (carryOutAll surroundings operations world).1
        (carryOutAll surroundings operations world).2.documents.archive ∧
      (carryOutAll surroundings operations world).2.documents.IsKeyed ∧
      (surroundings.RefusesNothing ->
        ∀ return' ∈ (carryOutAll surroundings operations world).1, ¬return'.IsFailure) := by
  induction operations generalizing world with
  | nil => exact ⟨.nil _, keyed, fun _ _ member => nomatch member⟩
  | cons operation operations inductionHypothesis =>
    have first := Operation.obeys surroundings keyed operation
    obtain ⟨rest, keyedThen, fine⟩ := inductionHypothesis first.keyed
    refine ⟨.cons first.meets rest, keyedThen, fun nothing return' member => ?_⟩
    rcases List.mem_cons.mp member with rfl | member
    · exact fun failure => first.fails failure nothing
    · exact fine nothing return' member

end Operations

/-! ## All operations -/

/-- **Operations on the stored documents.** From rows that are told by their keys, operations of any number come to
what they may by what the projects hold, one after another, and none fails unless something is refused. Wherever
they have led, the same holds of every further operation, which touches no row of another project and no published
row unless it publishes; and a publication with a statement that fails changes nothing. -/
theorem operations_meet {σ : Type} (surroundings : Surroundings σ) (world : World σ)
    (keyed : world.documents.IsKeyed) (operations : List Operation) :
    let outcome := Operation.carryOutAll surroundings operations world
    MeetAll world.documents.archive operations outcome.1 outcome.2.documents.archive ∧
      (surroundings.RefusesNothing -> ∀ return' ∈ outcome.1, ¬return'.IsFailure) ∧
      (∀ operation : Operation,
        operation.Obeys surroundings outcome.2 (operation.carryOut surroundings outcome.2)) ∧
      ∀ (project : String) (place : Nat), place < (Documents.publication project).length ->
        outcome.2.documents.transact ((Documents.publication project).set place .invalid) =
          (false, outcome.2.documents) := by
  obtain ⟨meet, keyedThen, fine⟩ := Operation.meetAll surroundings keyed operations
  exact ⟨meet, fine, Operation.obeys surroundings keyedThen, fun project place isPlace =>
    Documents.transact_of_invalid _ (List.mem_set isPlace _)⟩

/-- Two drafts of one document, their publication and one of nothing. -/
def overviewOperations : List Operation :=
  [.save "github.com/owner/repo" "Overview" "first" "en", .save "github.com/owner/repo" "Overview" "second" "en",
    .publish "github.com/owner/repo", .get "github.com/owner/repo" "Overview" "en" .published,
    .publish "github.com/owner/repo", .discard "github.com/owner/repo" none]

/-- The operations on an empty table publish the later draft. -/
theorem operations_meet_overview : (World.untouched []).documents.IsKeyed ∧
    (Operation.carryOutAll (.reciting fun _ => none) overviewOperations (.untouched [])).1 =
      [.done, .done, .count 1, .content (some "second"), .count 0, .count 0] ∧
    MeetAll (World.untouched []).documents.archive overviewOperations
      (Operation.carryOutAll (.reciting fun _ => none) overviewOperations (.untouched [])).1
      (Operation.carryOutAll (.reciting fun _ => none) overviewOperations (.untouched [])).2.documents.archive :=
  ⟨List.nodup_nil, rfl, (operations_meet (.reciting fun _ => none) (.untouched []) List.nodup_nil
    overviewOperations).1⟩

end RepoSurvey.Analysis

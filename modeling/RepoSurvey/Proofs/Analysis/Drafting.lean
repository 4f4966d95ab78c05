import RepoSurvey.Analysis.Identity
import RepoSurvey.Proofs.Analysis.Effects

/-!
# Drafts along a way

The drafts of a project after a way are told by its calls alone. What becomes of the drafts of one document
depends on no calls but those that touch the document, so that ways can be shuffled as long as no two of
them touch one document.
-/

namespace RepoSurvey.Analysis

open Activity (Answered Exchange)
open Clock (Moment)
open Store (Documents Variant putVariant)

namespace Call

/-- Whether a call leaves the stored documents alone. -/
def IsQuiet : Call -> Prop
  | .saveDocument _ _ _ _ | .discardDrafts _ _ | .promoteDrafts _ => False
  | _ => True

/-- Whether a call to the stored documents concerns a project. -/
def Concerns (project : String) : Call -> Prop
  | .saveDocument other _ _ _ | .discardDrafts other _ | .promoteDrafts other => other = project
  | _ => True

/-- Whether a call writes or discards drafts of a project at most. -/
def OnlyDrafts (project : String) : Call -> Prop
  | .saveDocument other _ _ _ | .discardDrafts other _ => other = project
  | .promoteDrafts _ => False
  | _ => True

/-- Whether a call leaves alone what results are kept. -/
def LeavesResults : Call -> Prop
  | .writeCache key _ _ => ∃ url, key = progressKey url
  | .deleteCache _ => False
  | _ => True

/-- Whether a call neither publishes anything nor changes what results are kept. -/
def Tentative (project : String) (call : Call) : Prop := call.OnlyDrafts project ∧ call.LeavesResults

/-- Whether a call saves or discards drafts of a project. -/
def Drafts (project : String) : Call -> Prop
  | .saveDocument other _ _ _ | .discardDrafts other _ => other = project
  | _ => False

/-- Whether a call changes what drafts there are of a document. -/
def touches (name : String) : Call -> Bool
  | .saveDocument _ other _ _ | .discardDrafts _ (some other) => other == name
  | .discardDrafts _ none | .promoteDrafts _ => true
  | _ => false

/-- What a call does to the drafts of the project that it concerns. -/
def drafting : Call -> List Variant -> List Variant
  | .saveDocument _ name content language, drafts => putVariant ⟨name, language, content⟩ drafts
  | .discardDrafts _ none, _ | .promoteDrafts _, _ => []
  | .discardDrafts _ (some name), drafts => drafts.filter fun variant => !variant.isOf name
  | _, drafts => drafts

variable {call : Call} {project name : String} {now : Moment} {documents : Documents}

/-- A quiet call does nothing to the stored documents. -/
theorem IsQuiet.storing (quiet : call.IsQuiet) (now : Moment) (documents : Documents) :
    call.storing now documents = documents := by
  cases call <;> first | exact quiet.elim | rfl

/-- A quiet call does nothing to drafts. -/
theorem IsQuiet.drafting (quiet : call.IsQuiet) (drafts : List Variant) :
    call.drafting drafts = drafts := by
  cases call <;> first | exact quiet.elim | rfl

/-- A quiet call touches no document. -/
theorem IsQuiet.touches (quiet : call.IsQuiet) (name : String) : call.touches name = false := by
  cases call <;> first | exact quiet.elim | rfl

/-- A quiet call concerns no project in particular. -/
theorem IsQuiet.onlyDrafts (quiet : call.IsQuiet) (project : String) : call.OnlyDrafts project := by
  cases call <;> first | exact quiet.elim | trivial

/-- A quiet call concerns any project. -/
theorem IsQuiet.concerns (quiet : call.IsQuiet) (project : String) : call.Concerns project := by
  cases call <;> first | exact quiet.elim | trivial

/-- A call that saves or discards drafts of a project writes such drafts at most. -/
theorem Drafts.onlyDrafts (drafts : call.Drafts project) : call.OnlyDrafts project := by
  cases call <;> first | exact drafts | trivial

/-- A call that saves or discards drafts of a project publishes nothing. -/
theorem Drafts.tentative (drafts : call.Drafts project) : call.Tentative project :=
  ⟨drafts.onlyDrafts, by cases call <;> first | exact drafts.elim | trivial⟩

/-- A call that saves or discards drafts is none of an agent. -/
theorem Drafts.not_agent (drafts : call.Drafts project) (asked : Agent.Call) : call ≠ .agent asked := by
  rintro rfl
  exact drafts

/-- A call that writes drafts of a project concerns it. -/
theorem OnlyDrafts.concerns (onlyDrafts : call.OnlyDrafts project) : call.Concerns project := by
  cases call <;> first | exact onlyDrafts | exact onlyDrafts.elim

/-- What a call that concerns a project does to its drafts. -/
theorem variants_storing (concerns : call.Concerns project) :
    (call.storing now documents).variants project .draft =
      call.drafting (documents.variants project .draft) := by
  cases call with
  | saveDocument other name content language =>
    obtain rfl : other = project := concerns
    exact Documents.variants_save
  | discardDrafts other name =>
    obtain rfl : other = project := concerns
    cases name with
    | none => exact Documents.variants_discardDrafts_none
    | some name => exact Documents.variants_discardDrafts_some
  | promoteDrafts other =>
    obtain rfl : other = project := concerns
    exact Documents.drafts_published
  | _ => rfl

/-- A call that writes drafts of a project at most leaves everything else alone. -/
theorem beyond_storing (onlyDrafts : call.OnlyDrafts project) :
    (call.storing now documents).beyond project = documents.beyond project := by
  cases call with
  | saveDocument other name content language =>
    obtain rfl : other = project := onlyDrafts
    exact Documents.beyond_save
  | discardDrafts other name =>
    obtain rfl : other = project := onlyDrafts
    exact Documents.beyond_discardDrafts name
  | promoteDrafts other => exact onlyDrafts.elim
  | _ => rfl

/-- A call that concerns a project leaves other projects alone. -/
theorem others_storing (concerns : call.Concerns project) :
    (call.storing now documents).others project = documents.others project := by
  cases call with
  | saveDocument other name content language =>
    obtain rfl : other = project := concerns
    exact Documents.others_eq_of_beyond Documents.beyond_save
  | discardDrafts other name =>
    obtain rfl : other = project := concerns
    exact Documents.others_eq_of_beyond (Documents.beyond_discardDrafts name)
  | promoteDrafts other =>
    obtain rfl : other = project := concerns
    exact Documents.others_published
  | _ => rfl

/-- The drafts of a document change with the calls that touch it, as if there were no others. -/
theorem filter_drafting (call : Call) (name : String) (drafts : List Variant) :
    (call.drafting drafts).filter (Variant.isOf name) =
      if call.touches name then call.drafting (drafts.filter (Variant.isOf name))
      else drafts.filter (Variant.isOf name) := by
  cases call with
  | saveDocument project other content language =>
    by_cases same : other = name
    · subst same
      simp only [drafting, touches, beq_self_eq_true, if_true]
      exact Store.filter_putVariant_self ⟨other, language, content⟩ drafts
    · simp only [drafting, touches, beq_iff_eq, if_neg same]
      exact Store.filter_putVariant_of_ne same drafts
  | discardDrafts project other =>
    cases other with
    | none => rfl
    | some other =>
      by_cases same : other = name
      · simp only [drafting, touches, same, beq_self_eq_true, if_true, List.filter_filter,
          Bool.and_comm]
      · simp only [drafting, touches, beq_iff_eq, if_neg same, List.filter_filter]
        congr 1
        funext variant
        by_cases named : variant.name = name
        · simp [Variant.isOf, named, Ne.symm same]
        · simp [Variant.isOf, named]
  | promoteDrafts project => rfl
  | _ => rfl

end Call

/-- Whether all calls of a way that change the stored documents were carried out. -/
def AllStored (way : List (Exchange Call Answer)) : Prop :=
  ∀ exchange ∈ way, exchange.request.IsQuiet ∨ exchange.request.carried exchange.answer = true

/-- Calls that were served were carried out. -/
theorem AllServed.stored {way : List (Exchange Call Answer)} (served : AllServed way) :
    AllStored way := fun exchange member => .inr (served exchange member).carried

/-- What an exchange does to drafts. -/
def drafting (exchange : Exchange Call Answer) (drafts : List Variant) : List Variant :=
  if exchange.request.carried exchange.answer then exchange.request.drafting drafts else drafts

/-- Whether an exchange changes what drafts there are of a document. -/
def touching (name : String) (exchange : Exchange Call Answer) : Bool :=
  exchange.request.carried exchange.answer && exchange.request.touches name

/-- The drafts after a way. -/
def drafted (way : List (Exchange Call Answer)) (drafts : List Variant) : List Variant :=
  way.foldl (fun drafts exchange => drafting exchange drafts) drafts

/-- The drafts after ways in a row. -/
@[simp] theorem drafted_append (first second : List (Exchange Call Answer)) (drafts : List Variant) :
    drafted (first ++ second) drafts = drafted second (drafted first drafts) := List.foldl_append

/-- The drafts after an exchange and some more. -/
@[simp] theorem drafted_cons (exchange : Exchange Call Answer) (way : List (Exchange Call Answer))
    (drafts : List Variant) : drafted (exchange :: way) drafts = drafted way (drafting exchange drafts) :=
  rfl

/-- The drafts of a document after a way are told by the exchanges that touch it. -/
theorem filter_drafted (way : List (Exchange Call Answer)) (name : String) (drafts : List Variant) :
    (drafted way drafts).filter (Variant.isOf name) =
      drafted (way.filter (touching name)) (drafts.filter (Variant.isOf name)) := by
  induction way generalizing drafts with
  | nil => rfl
  | cons exchange way inductionHypothesis =>
    have step : (drafting exchange drafts).filter (Variant.isOf name) = if touching name exchange then
        drafting exchange (drafts.filter (Variant.isOf name)) else drafts.filter (Variant.isOf name) := by
      unfold drafting touching
      cases exchange.request.carried exchange.answer with
      | false => rfl
      | true => exact exchange.request.filter_drafting name drafts
    rw [drafted_cons, inductionHypothesis, step]
    split
    · next touches => rw [List.filter_cons_of_pos touches, drafted_cons]
    · next leaves => rw [List.filter_cons_of_neg leaves]

/-- Quiet exchanges leave drafts alone. -/
theorem drafted_of_quiet {way : List (Exchange Call Answer)}
    (quiet : ∀ exchange ∈ way, exchange.request.IsQuiet) (drafts : List Variant) :
    drafted way drafts = drafts := by
  induction way with
  | nil => rfl
  | cons exchange way inductionHypothesis =>
    have same : drafting exchange drafts = drafts := by
      unfold drafting
      rw [(quiet exchange (.head _)).drafting, ite_self]
    rw [drafted_cons, same]
    exact inductionHypothesis fun other member => quiet other (.tail _ member)

/-- Quiet exchanges touch no document. -/
theorem filter_touching_of_quiet {way : List (Exchange Call Answer)}
    (quiet : ∀ exchange ∈ way, exchange.request.IsQuiet) (name : String) :
    way.filter (touching name) = [] := by
  rw [List.filter_eq_nil_iff]
  intro exchange member
  simp [touching, (quiet exchange member).touches name]

namespace World

variable {σ : Type} {surroundings : Surroundings σ} {world after : World σ} {project : String}
  {way : List (Exchange Call Answer)}

/-- The drafts of a project after a way whose calls concern it. -/
theorem drafts_answered (answered : Answered (answer surroundings) world way after)
    (concerns : ∀ exchange ∈ way, exchange.request.Concerns project) :
    after.documents.variants project .draft = drafted way (world.documents.variants project .draft) := by
  induction answered with
  | nil => rfl
  | cons request rest inductionHypothesis =>
    rw [inductionHypothesis fun exchange member => concerns exchange (.tail _ member),
      documents_of_answer rfl, drafted_cons, drafting]
    split
    · rw [Call.variants_storing (concerns _ (.head _))]
    · rfl

/-- Other projects after a way whose calls concern a project. -/
theorem others_answered (answered : Answered (answer surroundings) world way after)
    (concerns : ∀ exchange ∈ way, exchange.request.Concerns project) :
    after.documents.others project = world.documents.others project :=
  documents_answered (Documents.others project) answered fun exchange member _ _ _ =>
    Call.others_storing (concerns exchange member)

/-- The stored documents after a way of quiet calls. -/
theorem documents_of_quiet (answered : Answered (answer surroundings) world way after)
    (quiet : ∀ exchange ∈ way, exchange.request.IsQuiet) : after.documents = world.documents :=
  documents_answered id answered fun exchange member _ => (quiet exchange member).storing

/-- The published documents after a way of quiet calls that follow upon a publication are the drafts before
it. -/
theorem published_answered {rest : List (Exchange Call Answer)}
    (answered : Answered (answer surroundings) world
      (way ++ ⟨.promoteDrafts project, .ok ()⟩ :: rest) after)
    (concerns : ∀ exchange ∈ way, exchange.request.Concerns project)
    (quiet : ∀ exchange ∈ rest, exchange.request.IsQuiet) :
    after.documents.variants project .published =
        drafted way (world.documents.variants project .draft) ∧
      after.documents.variants project .draft = [] := by
  obtain ⟨middle, before, finish⟩ := Activity.answered_append.mp answered
  obtain ⟨isAnswer, afterwards⟩ := Activity.answered_cons.mp finish
  have promoted : (answer surroundings (.promoteDrafts project) middle).2.documents =
      middle.documents.published project := documents_of_served isAnswer.symm
  rw [documents_of_quiet afterwards quiet, promoted, ← drafts_answered before concerns]
  exact ⟨Documents.variants_published, Documents.drafts_published⟩

/-- Drafts are counted as they are. -/
theorem countDrafts_of_served {count : Nat}
    (served : (answer surroundings (.countDrafts project) world).1 = .ok count) :
    (world.documents.variants project .draft).length = count := by
  simp only [answer, carryOut, orRefusal] at served
  split at served
  · cases served
  · rw [Documents.variants, List.length_map, ← List.countP_eq_length_filter]
    exact Except.ok.inj served

/-- Everything but the drafts of a project after a way that writes such drafts at most. -/
theorem beyond_answered (answered : Answered (answer surroundings) world way after)
    (onlyDrafts : ∀ exchange ∈ way, exchange.request.carried exchange.answer = true ->
      exchange.request.OnlyDrafts project) :
    after.documents.beyond project = world.documents.beyond project :=
  documents_answered (Documents.beyond project) answered fun exchange member carried _ _ =>
    Call.beyond_storing (onlyDrafts exchange member carried)

end World

end RepoSurvey.Analysis

import Mathlib
import RepoSurvey.Store.Documents

/-!
# Drafts and published documents

What a project has in a status is told by its variants: names, languages and contents, without the times at
which they were written. Saving and discarding drafts of a project changes its drafts and nothing else;
publishing turns its drafts into its published documents and leaves other projects alone.
-/

namespace RepoSurvey.Store

open Clock (Moment)

/-- A document in one language. -/
structure Variant where
  name : String
  language : String
  content : String
  deriving DecidableEq, Repr

/-- The variant that a row holds. -/
def Row.variant (row : Row) : Variant := ⟨row.name, row.language, row.content⟩

/-- Whether a variant is of a document. -/
def Variant.isOf (name : String) (variant : Variant) : Bool := variant.name == name

/-- Put a variant in place of the one of the same document and language, or at the end. -/
def putVariant (variant : Variant) : List Variant -> List Variant
  | [] => [variant]
  | other :: rest =>
    if other.name = variant.name ∧ other.language = variant.language then variant :: rest
    else other :: putVariant variant rest

/-- A variant takes the place of the one of the same document and language. -/
theorem putVariant_cons_of_same {variant other : Variant} {rest : List Variant}
    (same : other.name = variant.name ∧ other.language = variant.language) :
    putVariant variant (other :: rest) = variant :: rest := if_pos same

/-- A variant does not take the place of others. -/
theorem putVariant_cons_of_differs {variant other : Variant} {rest : List Variant}
    (differs : ¬(other.name = variant.name ∧ other.language = variant.language)) :
    putVariant variant (other :: rest) = other :: putVariant variant rest := if_neg differs

/-- Something is there after a variant was put. -/
theorem putVariant_ne_nil (variant : Variant) (variants : List Variant) :
    putVariant variant variants ≠ [] := by
  cases variants with
  | nil => exact List.cons_ne_nil _ _
  | cons other rest =>
    unfold putVariant
    split <;> exact List.cons_ne_nil _ _

/-- Putting a variant of another document leaves a document alone. -/
theorem filter_putVariant_of_ne {name : String} {variant : Variant} (different : variant.name ≠ name)
    (variants : List Variant) : (putVariant variant variants).filter (Variant.isOf name) =
      variants.filter (Variant.isOf name) := by
  induction variants with
  | nil => simp [putVariant, Variant.isOf, different]
  | cons other rest inductionHypothesis =>
    unfold putVariant
    split
    · next same =>
      have otherDifferent : other.name ≠ name := same.1 ▸ different
      simp [Variant.isOf, different, otherDifferent]
    · rw [List.filter_cons, List.filter_cons, inductionHypothesis]

/-- Putting a variant of a document puts it among the variants of the document. -/
theorem filter_putVariant_self (variant : Variant) (variants : List Variant) :
    (putVariant variant variants).filter (Variant.isOf variant.name) =
      putVariant variant (variants.filter (Variant.isOf variant.name)) := by
  induction variants with
  | nil => simp [putVariant, Variant.isOf]
  | cons other rest inductionHypothesis =>
    by_cases named : other.name = variant.name
    · have kept : Variant.isOf variant.name other = true := by simp [Variant.isOf, named]
      rw [List.filter_cons_of_pos kept]
      unfold putVariant
      split
      · rw [List.filter_cons_of_pos (by simp [Variant.isOf])]
      · rw [List.filter_cons_of_pos kept, inductionHypothesis]
    · have dropped : ¬Variant.isOf variant.name other = true := by simp [Variant.isOf, named]
      rw [List.filter_cons_of_neg dropped, putVariant_cons_of_differs fun same => named same.1,
        List.filter_cons_of_neg dropped, inductionHypothesis]

/-- A variant that is put is there. -/
theorem mem_putVariant_self (variant : Variant) (variants : List Variant) :
    variant ∈ putVariant variant variants := by
  induction variants with
  | nil => exact .head _
  | cons other rest inductionHypothesis =>
    unfold putVariant
    split
    · exact .head _
    · exact .tail _ inductionHypothesis

/-- Whether variants have a document in a language. -/
def Holds (name language : String) (variants : List Variant) : Prop :=
  ∃ content, ⟨name, language, content⟩ ∈ variants

/-- Putting a variant takes no document away. -/
theorem Holds.putVariant {name language : String} {variants : List Variant}
    (holds : Holds name language variants) (variant : Variant) :
    Holds name language (putVariant variant variants) := by
  obtain ⟨content, member⟩ := holds
  induction variants with
  | nil => nomatch member
  | cons other rest inductionHypothesis =>
    unfold Store.putVariant
    rcases List.mem_cons.mp member with rfl | member
    · split
      · next same =>
        obtain ⟨rfl, rfl⟩ : name = variant.name ∧ language = variant.language := same
        exact ⟨variant.content, .head _⟩
      · exact ⟨content, .head _⟩
    · split
      · exact ⟨content, .tail _ member⟩
      · obtain ⟨later, isLater⟩ := inductionHypothesis member
        exact ⟨later, .tail _ isLater⟩

/-- The variants of a document are those by which it is there. -/
theorem holds_filter {name language : String} {variants : List Variant} :
    Holds name language (variants.filter (Variant.isOf name)) ↔ Holds name language variants := by
  unfold Holds
  simp [Variant.isOf]

/-- Variants are the same in some order when those of every document are the same. -/
theorem perm_of_filter {left right : List Variant}
    (same : ∀ name, left.filter (Variant.isOf name) = right.filter (Variant.isOf name)) :
    left.Perm right := by
  rw [List.perm_iff_count]
  intro variant
  have counted : ∀ variants : List Variant,
      variants.count variant = (variants.filter (Variant.isOf variant.name)).count variant :=
    fun variants => (List.count_filter (by simp [Variant.isOf])).symm
  rw [counted left, counted right, same]

namespace Documents

variable {documents : Documents} {project name content language : String} {now : Moment}

/-- The variants of a project in a status. -/
def variants (project : String) (status : Status) (documents : Documents) : List Variant :=
  (documents.filter (Row.isOf project status)).map Row.variant

/-- The rows of other projects. -/
def others (project : String) (documents : Documents) : Documents :=
  documents.filter fun row => row.project != project

/-- The rows that are no drafts of a project. -/
def beyond (project : String) (documents : Documents) : Documents :=
  documents.filter fun row => !row.isOf project .draft

/-- A document can be read exactly if there is a variant of it. -/
theorem isSome_get?_iff {status : Status} : (documents.get? project name language status).isSome ↔
    Holds name language (documents.variants project status) := by
  unfold get? Holds variants
  rw [Option.isSome_map, List.find?_isSome]
  constructor
  · rintro ⟨row, member, isRow⟩
    obtain ⟨⟨isOf, rfl⟩, rfl⟩ : (row.isOf project status = true ∧ row.name = name) ∧ row.language = language := by
      simpa using isRow
    exact ⟨row.content, List.mem_map_of_mem (List.mem_filter.mpr ⟨member, isOf⟩)⟩
  · rintro ⟨content, member⟩
    obtain ⟨row, isRow, same⟩ := List.mem_map.mp member
    obtain ⟨member, isOf⟩ := List.mem_filter.mp isRow
    refine ⟨row, member, ?_⟩
    have named := congrArg Variant.name same
    have written := congrArg Variant.language same
    simp only [Row.variant] at named written
    simp [isOf, named, written]

/-- Saving a draft puts its variant among the drafts. -/
theorem variants_save : (documents.save project name content language now).variants project .draft =
    putVariant ⟨name, language, content⟩ (documents.variants project .draft) := by
  unfold save
  induction documents with
  | nil => simp [putRow, variants, Row.isOf, Row.variant, putVariant]
  | cons row rest inductionHypothesis =>
    unfold putRow
    by_cases isDraft : row.isOf project .draft = true
    · have head : variants project .draft (row :: rest) =
          row.variant :: variants project .draft rest := by
        simp [variants, List.filter_cons_of_pos isDraft]
      obtain ⟨sameProject, sameStatus⟩ : row.project = project ∧ row.status = .draft := by
        simpa [Row.isOf] using isDraft
      rw [head]
      by_cases same : row.name = name ∧ row.language = language
      · rw [if_pos (by simp [Row.sameKey, sameProject, sameStatus, same]),
          putVariant_cons_of_same same]
        simp [variants, Row.isOf, Row.variant]
      · rw [if_neg (by simpa [Row.sameKey, sameProject, sameStatus] using same),
          putVariant_cons_of_differs same]
        simp only [variants, List.filter_cons_of_pos isDraft, List.map_cons]
        exact congrArg _ inductionHypothesis
    · have differs : ¬row.sameKey ⟨project, name, language, .draft, content, .ofMoment now⟩ = true := by
        intro same
        simp only [Row.sameKey, Bool.and_eq_true, beq_iff_eq] at same
        exact isDraft (by simp [Row.isOf, same.1.1.1, same.2])
      rw [if_neg differs]
      simp only [variants, List.filter_cons_of_neg isDraft]
      exact inductionHypothesis

/-- Saving a draft leaves all rows alone that are no drafts of the project. -/
@[simp] theorem beyond_save :
    (documents.save project name content language now).beyond project = documents.beyond project := by
  unfold save beyond
  induction documents with
  | nil => simp [putRow, Row.isOf]
  | cons row rest inductionHypothesis =>
    unfold putRow
    split
    · next same =>
      simp only [Row.sameKey, Bool.and_eq_true, beq_iff_eq] at same
      have isDraft : row.isOf project .draft = true := by simp [Row.isOf, same.1.1.1, same.2]
      rw [List.filter_cons_of_neg (by simp [Row.isOf]), List.filter_cons_of_neg (by simp [isDraft])]
    · rw [List.filter_cons, List.filter_cons, inductionHypothesis]

/-- Discarding drafts leaves all rows alone that are no drafts of the project. -/
@[simp] theorem beyond_discardDrafts (name : Option String) :
    (documents.discardDrafts project name).2.beyond project = documents.beyond project := by
  simp only [discardDrafts, beyond, List.filter_filter]
  congr 1
  funext row
  simp only [isDraftOf]
  cases row.isOf project .draft <;> simp

/-- What is the same beyond the drafts of a project is the same in other projects. -/
theorem others_eq_of_beyond {changed : Documents}
    (same : changed.beyond project = documents.beyond project) :
    changed.others project = documents.others project := by
  have narrower : ∀ documents : Documents,
      documents.others project = (documents.beyond project).filter fun row =>
        row.project != project := by
    intro documents
    simp only [others, beyond, List.filter_filter]
    congr 1
    funext row
    by_cases isProject : row.project = project <;> simp [Row.isOf, isProject]
  exact (narrower changed).trans ((congrArg _ same).trans (narrower documents).symm)

/-- What is the same beyond the drafts of a project is the same among published documents. -/
theorem published_eq_of_beyond {changed : Documents}
    (same : changed.beyond project = documents.beyond project) :
    (changed.filter fun row => row.status == .published) =
      documents.filter fun row => row.status == .published := by
  have narrower : ∀ documents : Documents,
      (documents.filter fun row => row.status == .published) =
        (documents.beyond project).filter fun row => row.status == .published := by
    intro documents
    simp only [beyond, List.filter_filter]
    congr 1
    funext row
    cases status : row.status <;> simp [Row.isOf, status]
  exact (narrower changed).trans ((congrArg _ same).trans (narrower documents).symm)

/-- What is the same beyond the drafts of a project is published the same for it. -/
theorem variants_eq_of_beyond {changed : Documents}
    (same : changed.beyond project = documents.beyond project) :
    changed.variants project .published = documents.variants project .published := by
  have narrower : ∀ documents : Documents, documents.variants project .published =
      ((documents.beyond project).filter (Row.isOf project .published)).map Row.variant := by
    intro documents
    simp only [variants, beyond, List.filter_filter]
    congr 2
    funext row
    cases status : row.status <;> simp [Row.isOf, status]
  rw [narrower changed, same, ← narrower]

/-- What is the same in all projects but one is the same in each of them. -/
theorem variants_eq_of_others {changed : Documents} {other : String} {status : Status} (different : project ≠ other)
    (same : changed.others other = documents.others other) :
    changed.variants project status = documents.variants project status := by
  have narrower : ∀ documents : Documents, documents.variants project status =
      ((documents.others other).filter (Row.isOf project status)).map Row.variant := by
    intro documents
    simp only [variants, others, List.filter_filter]
    congr 2
    funext row
    by_cases isProject : row.project = project <;> simp [Row.isOf, isProject, different]
  rw [narrower changed, same, ← narrower]

/-- Discarding all drafts of a project leaves none. -/
@[simp] theorem variants_discardDrafts_none :
    (documents.discardDrafts project none).2.variants project .draft = [] := by
  simp only [discardDrafts, variants, List.filter_filter, List.map_eq_nil_iff,
    List.filter_eq_nil_iff, isDraftOf]
  intro row _
  cases row.isOf project .draft <;> simp

/-- Discarding the drafts of a document keeps those of the others. -/
theorem variants_discardDrafts_some :
    (documents.discardDrafts project (some name)).2.variants project .draft =
      (documents.variants project .draft).filter fun variant => !variant.isOf name := by
  simp only [discardDrafts, variants, List.filter_filter, List.filter_map]
  congr 2
  funext row
  simp only [isDraftOf, Function.comp, Row.variant, Variant.isOf, Option.all_some]
  cases row.isOf project .draft with
  | false => simp
  | true =>
    by_cases named : name = row.name
    · simp [named]
    · simp [named, Ne.symm named]

/-- What becomes of the documents when drafts are published. -/
def published (project : String) (documents : Documents) : Documents :=
  (documents.transact (publication project)).2

/-- Publishing removes the published documents of a project and gives their status to its drafts. -/
theorem published_eq (project : String) (documents : Documents) : documents.published project =
    (documents.filter fun row => !row.isOf project .published).map fun row =>
      if row.isOf project .draft then { row with status := .published } else row := rfl

/-- Publishing leaves other projects alone. -/
@[simp] theorem others_published : (documents.published project).others project =
    documents.others project := by
  rw [published_eq]
  unfold others
  induction documents with
  | nil => rfl
  | cons row rest inductionHypothesis =>
    by_cases isProject : row.project = project
    · have dropped : (row :: rest).filter (fun row => row.project != project) =
          rest.filter (fun row => row.project != project) :=
        List.filter_cons_of_neg (by simp [isProject])
      rw [dropped, ← inductionHypothesis]
      cases status : row.status with
      | draft =>
        rw [List.filter_cons_of_pos (by simp [Row.isOf, status]), List.map_cons,
          if_pos (by simp [Row.isOf, isProject, status]),
          List.filter_cons_of_neg (by simp [isProject])]
      | published => rw [List.filter_cons_of_neg (by simp [Row.isOf, isProject, status])]
    · rw [List.filter_cons_of_pos (by simp [Row.isOf, isProject]), List.map_cons,
        if_neg (by simp [Row.isOf, isProject]), List.filter_cons_of_pos (by simp [isProject]),
        inductionHypothesis, List.filter_cons_of_pos (by simp [isProject])]

/-- Publishing leaves no drafts. -/
@[simp] theorem drafts_published : (documents.published project).variants project .draft = [] := by
  rw [published_eq]
  simp only [variants, List.map_eq_nil_iff, List.filter_eq_nil_iff, List.mem_map, List.mem_filter]
  rintro row ⟨before, ⟨-, -⟩, rfl⟩
  split
  · simp [Row.isOf]
  · next noDraft => exact noDraft

/-- What was a draft is published. -/
@[simp] theorem variants_published : (documents.published project).variants project .published =
    documents.variants project .draft := by
  rw [published_eq]
  unfold variants
  induction documents with
  | nil => rfl
  | cons row rest inductionHypothesis =>
    by_cases isProject : row.project = project
    · cases status : row.status with
      | draft =>
        rw [List.filter_cons_of_pos (by simp [Row.isOf, status]), List.map_cons,
          if_pos (by simp [Row.isOf, isProject, status]),
          List.filter_cons_of_pos (by simp [Row.isOf, isProject]), List.map_cons,
          inductionHypothesis, List.filter_cons_of_pos (by simp [Row.isOf, isProject, status])]
        rfl
      | published =>
        rw [List.filter_cons_of_neg (by simp [Row.isOf, isProject, status]), inductionHypothesis,
          List.filter_cons_of_neg (by simp [Row.isOf, status])]
    · rw [List.filter_cons_of_pos (by simp [Row.isOf, isProject]), List.map_cons,
        if_neg (by simp [Row.isOf, isProject]),
        List.filter_cons_of_neg (by simp [Row.isOf, isProject]), inductionHypothesis,
        List.filter_cons_of_neg (by simp [Row.isOf, isProject])]

end Documents

end RepoSurvey.Store

import RepoSurvey.Proofs.Store.Drafts

/-!
# What projects hold

A project holds contents of two kinds, drafts and published documents, each told by a name and a language.
`Documents.archive` reads them off the rows, without the times at which they were written. What saving,
discarding and publishing do to the rows is told by what they do to the contents: `archive_save`,
`archive_discardDrafts` and `archive_published`. As long as no two rows are told by the same key, which all of
them keep, rows can be counted for contents and names are listed once each.
-/

namespace RepoSurvey.Store

open Clock (Moment)

/-! ## Contents -/

/-- Contents of documents by name and language. -/
abbrev Contents := String -> String -> Option String

namespace Contents

/-- No contents at all. -/
def empty : Contents := fun _ _ => none

/-- Contents in which one was put in its place. -/
def put (name language content : String) (contents : Contents) : Contents := fun otherName otherLanguage =>
  if otherName = name ∧ otherLanguage = language then some content else contents otherName otherLanguage

/-- The contents of a document in all languages, or all contents if no name is given. -/
def only (name : Option String) (contents : Contents) : Contents := fun other language =>
  if name.all (· == other) then contents other language else none

/-- Contents without those of a document in all languages, or none if no name is given. -/
def without (name : Option String) (contents : Contents) : Contents := fun other language =>
  if name.all (· == other) then none else contents other language

/-- All contents are there if no name is given. -/
@[simp] theorem only_none (contents : Contents) : contents.only none = contents := rfl

/-- No contents are left if no name is given. -/
@[simp] theorem without_none (contents : Contents) : contents.without none = empty := rfl

/-- Whether contents stand in so many places. -/
def Number (contents : Contents) (count : Nat) : Prop :=
  ∃ places : List (String × String), places.Nodup ∧ places.length = count ∧
    ∀ name language, (name, language) ∈ places ↔ (contents name language).isSome

/-- Contents stand in one number of places. -/
theorem Number.unique {contents : Contents} {count other : Nat} (number : contents.Number count)
    (otherNumber : contents.Number other) : count = other := by
  obtain ⟨places, distinct, rfl, held⟩ := number
  obtain ⟨others, othersDistinct, rfl, othersHeld⟩ := otherNumber
  have same : ∀ place, place ∈ places ↔ place ∈ others := fun ⟨name, language⟩ =>
    (held name language).trans (othersHeld name language).symm
  exact ((List.perm_ext_iff_of_nodup distinct othersDistinct).mpr same).length_eq

/-- Contents in no place are none. -/
theorem number_zero {contents : Contents} : contents.Number 0 ↔ contents = empty := by
  constructor
  · rintro ⟨places, -, none, held⟩
    obtain rfl := List.length_eq_zero_iff.mp none
    funext name language
    exact Option.not_isSome_iff_eq_none.mp fun isHeld => List.not_mem_nil ((held name language).mpr isHeld)
  · rintro rfl
    exact ⟨[], List.nodup_nil, rfl, fun _ _ => by simp [empty]⟩

end Contents

/-- What a project holds. -/
structure Holdings where
  drafts : Contents
  published : Contents

/-- What a project holds in a status. -/
def Holdings.inStatus (holdings : Holdings) : Status -> Contents
  | .draft => holdings.drafts
  | .published => holdings.published

/-- What all projects hold. -/
abbrev Archive := String -> Holdings

/-- Change what one project holds. -/
def Archive.change (project : String) (change : Holdings -> Holdings) (archive : Archive) : Archive :=
  fun other => if other = project then change (archive other) else archive other

/-! ## Keys of rows -/

namespace Row

/-- What a row is told by. -/
def key (row : Row) : String × String × String × Status := (row.project, row.name, row.language, row.status)

/-- Rows hold the same document in the same status if they are told by the same key. -/
theorem sameKey_iff {left right : Row} : left.sameKey right = true ↔ left.key = right.key := by
  simp [sameKey, key, and_assoc]

/-- Rows of a project in a status are told by their keys. -/
theorem isOf_iff {project : String} {status : Status} {row : Row} :
    row.isOf project status = true ↔ row.project = project ∧ row.status = status := by simp [isOf]

end Row

namespace Documents

variable {documents : Documents} {project name language content : String} {status : Status} {now : Moment}

/-- Whether no two rows are told by the same key. -/
def IsKeyed (documents : Documents) : Prop := (documents.map Row.key).Nodup

/-- A document is looked up by the key of its row. -/
theorem get?_eq : documents.get? project name language status =
    (documents.find? fun row => decide (row.key = (project, name, language, status))).map Row.content := by
  unfold get?
  congr 2
  funext row
  rw [Bool.eq_iff_iff]
  simp only [Row.key, Bool.and_eq_true, Row.isOf_iff, beq_iff_eq, decide_eq_true_eq, Prod.mk.injEq]
  tauto

/-- What the projects hold. -/
def archive (documents : Documents) : Archive := fun project =>
  ⟨fun name language => documents.get? project name language .draft,
    fun name language => documents.get? project name language .published⟩

/-- What a project holds in a status is what can be read. -/
theorem inStatus_archive (documents : Documents) (project : String) (status : Status) :
    (documents.archive project).inStatus status =
      fun name language => documents.get? project name language status := by
  cases status <;> rfl

/-! ## Saving -/

/-- A row that is put is found under its key, and others are found as before. -/
theorem get?_putRow (row : Row) : (documents.putRow row).get? project name language status =
    if row.key = (project, name, language, status) then some row.content
    else documents.get? project name language status := by
  simp only [get?_eq]
  induction documents with
  | nil => by_cases same : row.key = (project, name, language, status) <;> simp [putRow, same]
  | cons other rest inductionHypothesis =>
    unfold putRow
    by_cases replaces : other.sameKey row = true
    · rw [if_pos replaces]
      have sameKey := Row.sameKey_iff.mp replaces
      by_cases same : row.key = (project, name, language, status) <;> simp [sameKey, same]
    · rw [if_neg replaces]
      by_cases found : other.key = (project, name, language, status)
      · have differs : row.key ≠ (project, name, language, status) := fun same =>
          replaces (Row.sameKey_iff.mpr (found.trans same.symm))
        simp [found, differs]
      · simpa [found] using inductionHypothesis

/-- Saving puts a content among the drafts of its project. -/
theorem archive_save : (documents.save project name content language now).archive =
    documents.archive.change project fun holdings =>
      { holdings with drafts := holdings.drafts.put name language content } := by
  funext other
  unfold save Archive.change archive
  by_cases same : other = project
  · subst same
    simp only [get?_putRow, Row.key, Prod.mk.injEq, if_true, true_and, reduceCtorEq, and_true, and_false,
      if_false]
    congr 1
    funext otherName otherLanguage
    simp only [Contents.put, eq_comm]
  · simp [get?_putRow, Row.key, same, Ne.symm same]

/-- A row that is put has the place of its key to itself. -/
theorem IsKeyed.putRow (keyed : documents.IsKeyed) (row : Row) : (documents.putRow row).IsKeyed := by
  have keys : ∀ documents : Documents, ∀ key ∈ (documents.putRow row).map Row.key,
      key ∈ documents.map Row.key ∨ key = row.key := by
    intro documents
    induction documents with
    | nil => simp [Documents.putRow]
    | cons other rest inductionHypothesis =>
      unfold Documents.putRow
      split
      · next replaces =>
        intro key member
        rw [List.map_cons, List.mem_cons] at member
        exact member.elim .inr fun member => .inl (List.mem_cons_of_mem _ member)
      · intro key member
        rw [List.map_cons, List.mem_cons] at member
        rcases member with rfl | member
        · exact .inl (List.mem_map_of_mem (.head _))
        · exact (inductionHypothesis key member).imp_left (List.mem_cons_of_mem _)
  unfold IsKeyed at keyed ⊢
  induction documents with
  | nil => simp [Documents.putRow]
  | cons other rest inductionHypothesis =>
    obtain ⟨unlike, keyedRest⟩ := List.nodup_cons.mp keyed
    unfold Documents.putRow
    split
    · next replaces => exact List.nodup_cons.mpr ⟨Row.sameKey_iff.mp replaces ▸ unlike, keyedRest⟩
    · next differs =>
      refine List.nodup_cons.mpr ⟨fun member => ?_, inductionHypothesis keyedRest⟩
      exact (keys rest _ member).elim unlike fun same => differs (Row.sameKey_iff.mpr same)

/-- Saving keeps keys apart. -/
theorem IsKeyed.save (keyed : documents.IsKeyed) :
    (documents.save project name content language now).IsKeyed := keyed.putRow _

/-! ## Discarding -/

/-- Discarding takes contents away from the drafts of its project. -/
theorem archive_discardDrafts (name : Option String) : (documents.discardDrafts project name).2.archive =
    documents.archive.change project fun holdings =>
      { holdings with drafts := holdings.drafts.without name } := by
  have found : ∀ other otherName language status,
      (documents.discardDrafts project name).2.get? other otherName language status =
        if other = project ∧ status = .draft ∧ name.all (· == otherName) = true then none
        else documents.get? other otherName language status := by
    intro other otherName language status
    simp only [discardDrafts, get?_eq, List.find?_filter]
    by_cases discarded : other = project ∧ status = .draft ∧ name.all (· == otherName) = true
    · rw [if_pos discarded, Option.map_eq_none_iff, List.find?_eq_none]
      obtain ⟨rfl, rfl, isNamed⟩ := discarded
      rintro row - kept
      simp only [isDraftOf, Row.key, Bool.not_eq_true', decide_eq_true_eq, Prod.mk.injEq] at kept
      obtain ⟨kept, rfl, rfl, -, isDraft⟩ := kept
      rw [Row.isOf_iff.mpr ⟨rfl, isDraft⟩, isNamed] at kept
      cases kept
    · rw [if_neg discarded]
      congr 2
      funext row
      by_cases isRow : row.key = (other, otherName, language, status)
      · simp only [Row.key, Prod.mk.injEq] at isRow
        obtain ⟨rfl, rfl, rfl, rfl⟩ := isRow
        have kept : isDraftOf project name row = false := by
          rw [Bool.eq_false_iff]
          intro isDraft
          obtain ⟨isDraft, isNamed⟩ := Bool.and_eq_true_iff.mp isDraft
          obtain ⟨isProject, isStatus⟩ := Row.isOf_iff.mp isDraft
          exact discarded ⟨isProject, isStatus, isNamed⟩
        simp [kept]
      · simp [isRow]
  funext other
  unfold Archive.change archive
  by_cases same : other = project
  · subst same
    simp only [found, if_true, true_and, reduceCtorEq, false_and, if_false]
    rfl
  · simp [found, same]

/-- Discarding keeps keys apart. -/
theorem IsKeyed.discardDrafts (keyed : documents.IsKeyed) (name : Option String) :
    (documents.discardDrafts project name).2.IsKeyed :=
  keyed.sublist (List.filter_sublist.map _)

/-! ## Publishing -/

/-- The row that a row becomes when a project is published. -/
def promoted (project : String) (row : Row) : Row :=
  if row.isOf project .draft then { row with status := .published } else row

/-- A row that becomes a row of a key, without being in the way of the drafts, was a draft if the key is one of
the project, and told by the key otherwise. -/
theorem key_promoted_iff {other : String} {row : Row} :
    (row.isOf project .published = false ∧ (promoted project row).key = (other, name, language, status)) ↔
      if other = project then status = .published ∧ row.key = (project, name, language, .draft)
      else row.key = (other, name, language, status) := by
  obtain ⟨rowProject, rowName, rowLanguage, rowStatus, content, updatedAt⟩ := row
  by_cases isRow : rowProject = project
  · subst isRow
    by_cases isOther : other = rowProject
    · subst isOther
      cases rowStatus <;> cases status <;> simp [promoted, Row.isOf, Row.key]
    · cases rowStatus <;> simp [promoted, Row.isOf, Row.key, isOther, Ne.symm isOther]
  · by_cases isOther : other = project
    · subst isOther
      simp [promoted, Row.isOf, Row.key, isRow]
    · simp [promoted, Row.isOf, Row.key, isRow, isOther]

/-- What is found after publishing were drafts of the project, or it was there in other projects. -/
theorem get?_published {other : String} : (documents.published project).get? other name language status =
    if other = project then if status = .published then documents.get? project name language .draft else none
    else documents.get? other name language status := by
  have contents : Row.content ∘ promoted project = Row.content := by
    funext row
    unfold Function.comp promoted
    split <;> rfl
  have found : (documents.published project).get? other name language status =
      (documents.find? fun row => decide (row.isOf project .published = false ∧
        (promoted project row).key = (other, name, language, status))).map Row.content := by
    rw [get?_eq, published_eq, List.find?_map, List.find?_filter, Option.map_map]
    refine Eq.trans (congrArg₂ Option.map contents (congrArg (List.find? · documents) (funext fun row => ?_))) rfl
    refine Bool.eq_iff_iff.mpr (Iff.trans ?_ decide_eq_true_iff.symm)
    simp [promoted]
  simp only [found, key_promoted_iff]
  by_cases isProject : other = project
  · by_cases isPublished : status = .published <;> simp [isProject, isPublished, get?_eq]
  · simp [isProject, get?_eq]

/-- Publishing makes the drafts of its project its published documents. -/
theorem archive_published : (documents.published project).archive =
    documents.archive.change project fun holdings => ⟨Contents.empty, holdings.drafts⟩ := by
  funext other
  unfold Archive.change archive
  by_cases same : other = project
  · subst same
    simp only [get?_published, if_true, reduceCtorEq, if_false]
    rfl
  · simp [get?_published, same]

/-- A transaction with a statement that fails changes nothing, wherever the statement stands. -/
theorem transact_of_invalid {statements : List Statement} (documents : Documents)
    (invalid : .invalid ∈ statements) : documents.transact statements = (false, documents) := by
  have fails : ∀ documents : Documents, statements.foldlM Statement.apply documents = none := by
    induction statements with
    | nil => nomatch invalid
    | cons statement statements inductionHypothesis =>
      intro documents
      rw [List.foldlM_cons]
      rcases List.mem_cons.mp invalid with rfl | invalid
      · rfl
      · exact Option.bind_eq_none_iff.mpr fun changed _ => inductionHypothesis invalid changed
  unfold transact
  rw [fails]

/-- Publishing keeps keys apart. -/
theorem IsKeyed.published (keyed : documents.IsKeyed) (project : String) :
    (documents.published project).IsKeyed := by
  have distinct : documents.Nodup := List.Nodup.of_map _ keyed
  have rows : documents.published project =
      (documents.filter fun row => !row.isOf project .published).map (promoted project) := rfl
  unfold IsKeyed
  rw [rows, List.map_map]
  refine List.Nodup.map_on (fun first isFirst second isSecond same => ?_) (distinct.filter _)
  obtain ⟨isFirst, firstKept⟩ := List.mem_filter.mp isFirst
  obtain ⟨isSecond, secondKept⟩ := List.mem_filter.mp isSecond
  -- Whatever key the rows come to, they were told by one key before.
  obtain ⟨⟨project', name, language, status⟩, isKey⟩ : ∃ key, (promoted project first).key = key := ⟨_, rfl⟩
  have firstKey := key_promoted_iff.mp ⟨by simpa using firstKept, isKey⟩
  have secondKey := key_promoted_iff.mp ⟨by simpa using secondKept, same.symm.trans isKey⟩
  refine List.inj_on_of_nodup_map keyed isFirst isSecond ?_
  split at firstKey
  · next isProject =>
    rw [if_pos isProject] at secondKey
    exact firstKey.2.trans secondKey.2.symm
  · next isOther =>
    rw [if_neg isOther] at secondKey
    exact firstKey.trans secondKey.symm

/-! ## Counting and listing -/

/-- The drafts that are discarded are counted. -/
theorem number_drafts (keyed : documents.IsKeyed) (project : String) (name : Option String) :
    ((documents.archive project).drafts.only name).Number (documents.countP (isDraftOf project name)) := by
  have distinct : documents.Nodup := List.Nodup.of_map _ keyed
  refine ⟨(documents.filter (isDraftOf project name)).map fun row => (row.name, row.language), ?_, ?_, ?_⟩
  · refine List.Nodup.map_on (fun first isFirst second isSecond same => ?_) (distinct.filter _)
    obtain ⟨isFirst, firstDraft⟩ := List.mem_filter.mp isFirst
    obtain ⟨isSecond, secondDraft⟩ := List.mem_filter.mp isSecond
    obtain ⟨firstProject, firstStatus⟩ := Row.isOf_iff.mp (Bool.and_eq_true_iff.mp firstDraft).1
    obtain ⟨secondProject, secondStatus⟩ := Row.isOf_iff.mp (Bool.and_eq_true_iff.mp secondDraft).1
    obtain ⟨sameName, sameLanguage⟩ := Prod.mk.inj same
    refine List.inj_on_of_nodup_map keyed isFirst isSecond ?_
    rw [Row.key, Row.key, firstProject, secondProject, firstStatus, secondStatus, sameName, sameLanguage]
  · rw [List.length_map, List.countP_eq_length_filter]
  · intro other language
    have isFound : ((documents.archive project).drafts other language).isSome ↔
        ∃ row ∈ documents, row.key = (project, other, language, .draft) := by
      show (documents.get? project other language .draft).isSome ↔ _
      simp [get?_eq]
    unfold Contents.only
    by_cases isNamed : name.all (· == other) = true
    · rw [if_pos isNamed, isFound]
      simp only [List.mem_map, List.mem_filter, Prod.mk.injEq]
      constructor
      · rintro ⟨row, ⟨member, isDraft⟩, rfl, rfl⟩
        obtain ⟨isProject, isStatus⟩ := Row.isOf_iff.mp (Bool.and_eq_true_iff.mp isDraft).1
        exact ⟨row, member, by rw [Row.key, isProject, isStatus]⟩
      · rintro ⟨row, member, isKey⟩
        simp only [Row.key, Prod.mk.injEq] at isKey
        obtain ⟨isProject, rfl, rfl, isStatus⟩ := isKey
        exact ⟨row, ⟨member, Bool.and_eq_true_iff.mpr ⟨Row.isOf_iff.mpr ⟨isProject, isStatus⟩, isNamed⟩⟩, rfl, rfl⟩
    · rw [if_neg isNamed]
      refine iff_of_false ?_ Bool.false_ne_true
      rintro member
      obtain ⟨row, isRow, same⟩ := List.mem_map.mp member
      obtain ⟨rfl, -⟩ := Prod.mk.inj same
      exact isNamed (Bool.and_eq_true_iff.mp (List.mem_filter.mp isRow).2).2

/-- The names that are listed are those of the documents that can be read. -/
theorem mem_names : name ∈ documents.names project language status ↔
    (documents.get? project name language status).isSome := by
  simp only [names, List.mem_mergeSort, List.mem_map, List.mem_filter, get?_eq, Option.isSome_map, List.find?_isSome,
    Row.key, Bool.and_eq_true, Row.isOf_iff, beq_iff_eq, decide_eq_true_eq, Prod.mk.injEq]
  constructor
  · rintro ⟨row, ⟨member, ⟨isProject, isStatus⟩, isLanguage⟩, rfl⟩
    exact ⟨row, member, isProject, rfl, isLanguage, isStatus⟩
  · rintro ⟨row, member, isProject, rfl, isLanguage, isStatus⟩
    exact ⟨row, ⟨member, ⟨isProject, isStatus⟩, isLanguage⟩, rfl⟩

/-- Names are listed in their order, each of them once. -/
theorem sorted_names (keyed : documents.IsKeyed) (project language : String) (status : Status) :
    (documents.names project language status).Pairwise (· < ·) := by
  have distinct : (documents.names project language status).Nodup := by
    refine (List.mergeSort_perm _ _).nodup_iff.mpr ?_
    refine List.Nodup.map_on (fun first isFirst second isSecond same => ?_) ((List.Nodup.of_map _ keyed).filter _)
    simp only [List.mem_filter, Bool.and_eq_true, Row.isOf_iff, beq_iff_eq] at isFirst isSecond
    refine List.inj_on_of_nodup_map keyed isFirst.1 isSecond.1 ?_
    rw [Row.key, Row.key, isFirst.2.1.1, isSecond.2.1.1, isFirst.2.1.2, isSecond.2.1.2, isFirst.2.2, isSecond.2.2,
      same]
  have sorted : (documents.names project language status).Pairwise fun left right => left ≤ right := by
    refine (List.pairwise_mergeSort (fun first second third => ?_) (fun first second => ?_) _).imp
      of_decide_eq_true
    · simpa using String.le_trans
    · simpa using String.le_total first second
  exact (sorted.and distinct).imp fun both => String.not_le.mp fun ge => both.2 (String.le_antisymm both.1 ge)

end Documents

end RepoSurvey.Store

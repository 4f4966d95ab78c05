import RepoSurvey.Analysis.Name
import RepoSurvey.Proofs.Analysis.Recitals
import RepoSurvey.Proofs.Reply.Extraction
import RepoSurvey.Proofs.Text.Trimming

/-!
# Names of the documents of a batch

Titles that lead to the same name are told apart by numbers. A name with a number can be the plain name of another
title, though, and a title can lead to the name of the sidebar: `nodup_assignNames_iff` and
`sidebarName_mem_assignNames` say that nothing else goes wrong. What a task does to drafts it does to those of the
document with its own name (`touches_attemptDocument`), so that names of their own keep tasks out of each other's
drafts.

What a title leads to can name a file: it is not empty, no white space and no character that means something in paths
stands in it, and there is no point at its ends (`isFileName_documentName`). Just such names are left as they are when
they are taken for titles (`documentName_eq_self_iff`). A number brings in nothing else, so that every name that a
document of a batch is given is of this kind too: `isFileName_of_mem_assignNames`.
-/

namespace RepoSurvey.Analysis

open Activity (Exchange)
open Number (natText)

/-! ## Numbers behind a dash -/

/-- A text is taken apart in one way where a mark stands for the last time. -/
theorem split_unique {mark : Char} {left other right rest : List Char} (absent : mark ∉ right)
    (alsoAbsent : mark ∉ rest) (same : left ++ mark :: right = other ++ mark :: rest) :
    left = other ∧ right = rest := by
  have turned : right.reverse ++ mark :: left.reverse = rest.reverse ++ mark :: other.reverse := by
    simpa using congrArg List.reverse same
  have marked := congrArg (List.dropWhile (· != mark)) turned
  rw [Reply.dropWhile_upTo _ (mt List.mem_reverse.mp absent),
    Reply.dropWhile_upTo _ (mt List.mem_reverse.mp alsoAbsent)] at marked
  obtain rfl := List.reverse_injective (List.cons.inj marked).2
  exact ⟨rfl, (List.cons.inj (List.append_cancel_left same)).2⟩

/-- Different numbers have different texts. -/
theorem natText_injective : Function.Injective natText := by
  intro number other same
  have digits := congrArg String.toList same
  rw [Number.toList_natText, Number.toList_natText] at digits
  rw [← Number.ofDigits_toDigits number, digits, Number.ofDigits_toDigits]

/-- No dash stands in a number. -/
theorem dash_notMem_natText (number : Nat) : '-' ∉ (natText number).toList := by
  rw [Number.toList_natText]
  intro member
  nomatch Number.isDigit_toDigits '-' member

/-- The characters of a name with a number. -/
theorem toList_dashed (base : String) (number : Nat) :
    (base ++ "-" ++ natText number).toList = base.toList ++ '-' :: (natText number).toList := by
  simp [String.toList_append]

/-- A name and a number behind the last dash are told from each other. -/
theorem dashed_inj {base other : String} {number count : Nat}
    (same : base ++ "-" ++ natText number = other ++ "-" ++ natText count) : base = other ∧ number = count := by
  have chars := congrArg String.toList same
  rw [toList_dashed, toList_dashed] at chars
  obtain ⟨sameBase, sameNumber⟩ := split_unique (dash_notMem_natText number) (dash_notMem_natText count) chars
  exact ⟨String.toList_injective sameBase, natText_injective (String.toList_injective sameNumber)⟩

/-! ## Numbered names -/

variable {base other : String} {earlier before : Nat}

/-- The first document of a name has the name itself. -/
@[simp] theorem numberedName_zero (base : String) : numberedName base 0 = base := rfl

/-- Further documents of a name have a number. -/
theorem numberedName_succ (base : String) (earlier : Nat) :
    numberedName base (earlier + 1) = base ++ "-" ++ natText (earlier + 2) := rfl

/-- Two numbered names are the same only if they are numbered alike, or if the one with a number is the plain name of
the other. -/
theorem numberedName_eq_iff : numberedName base earlier = numberedName other before ↔
    (base = other ∧ earlier = before) ∨ (0 < earlier ∧ before = 0 ∧ numberedName base earlier = other) ∨
      (earlier = 0 ∧ 0 < before ∧ base = numberedName other before) := by
  cases earlier with
  | zero =>
    cases before with
    | zero => simp
    | succ before => simp
  | succ earlier =>
    cases before with
    | zero => simp
    | succ before =>
      constructor
      · intro same
        obtain ⟨rfl, sameNumber⟩ := dashed_inj same
        exact .inl ⟨rfl, Nat.succ.inj sameNumber⟩
      · rintro (⟨rfl, same⟩ | ⟨-, none, -⟩ | ⟨none, -⟩)
        · rw [same]
        · nomatch none
        · nomatch none

/-- A numbered name is the name of the sidebar only if it has no number. -/
theorem numberedName_eq_sidebarName : numberedName base earlier = sidebarName ↔ earlier = 0 ∧ base = sidebarName := by
  cases earlier with
  | zero => simp
  | succ earlier =>
    constructor
    · intro same
      have dash : '-' ∈ sidebarName.toList := by
        rw [← same, numberedName_succ, toList_dashed]
        exact List.mem_append_right _ (.head _)
      nomatch dash
    · rintro ⟨none, -⟩
      nomatch none

/-! ## Numbering -/

/-- Names with how often each came earlier; `before` holds those that came before all of them. -/
def numberings (before : List String) : List String -> List (String × Nat)
  | [] => []
  | base :: bases => (base, before.count base) :: numberings (base :: before) bases

/-- Documents are named by numbering what their titles lead to. -/
theorem assignNamesAfter_eq (before titles : List String) : assignNamesAfter before titles =
    (numberings before (titles.map documentName)).map fun numbering => numberedName numbering.1 numbering.2 := by
  induction titles generalizing before with
  | nil => rfl
  | cons title titles inductionHypothesis =>
    simp only [assignNamesAfter, List.map_cons, numberings, inductionHypothesis]

/-- A name is numbered from how often it came before, as often as it comes. -/
theorem mem_numberings {before bases : List String} : (base, earlier) ∈ numberings before bases ↔
    before.count base ≤ earlier ∧ earlier < before.count base + bases.count base := by
  induction bases generalizing before with
  | nil => simp [numberings]
  | cons first bases inductionHypothesis =>
    rw [numberings, List.mem_cons, inductionHypothesis, Prod.mk.injEq, List.count_cons, List.count_cons]
    by_cases same : first = base
    · subst same
      simp only [beq_self_eq_true, if_true, true_and]
      omega
    · simp only [beq_iff_eq, same, Ne.symm same, if_false, false_and, false_or, Nat.add_zero]

/-- No numbering comes twice. -/
theorem nodup_numberings (before bases : List String) : (numberings before bases).Nodup := by
  induction bases generalizing before with
  | nil => exact List.nodup_nil
  | cons first bases inductionHypothesis =>
    refine List.nodup_cons.mpr ⟨fun member => ?_, inductionHypothesis _⟩
    have further := (mem_numberings.mp member).1
    rw [List.count_cons_self] at further
    omega

/-- Whether no name is what another one becomes by one of its numbers. -/
def ClearOfNumbers (bases : List String) : Prop :=
  ∀ base earlier, 0 < earlier -> earlier < bases.count base -> numberedName base earlier ∉ bases

/-- Documents have different names exactly when no title leads to a name that another title's name becomes by one of
its numbers. -/
theorem nodup_assignNames_iff (titles : List String) :
    (assignNames titles).Nodup ↔ ClearOfNumbers (titles.map documentName) := by
  have numbered : ∀ {base earlier}, (base, earlier) ∈ numberings [] (titles.map documentName) ↔
      earlier < (titles.map documentName).count base := by simp [mem_numberings]
  rw [assignNames, assignNamesAfter_eq, List.nodup_map_iff_inj_on (nodup_numberings _ _)]
  constructor
  · intro apart base earlier positive low member
    have plain := apart (base, earlier) (numbered.mpr low) (numberedName base earlier, 0)
      (numbered.mpr (List.count_pos_iff.mpr member)) rfl
    exact absurd (Prod.mk.inj plain).2 (Nat.ne_of_gt positive)
  · rintro clear ⟨base, earlier⟩ member ⟨other, before⟩ alsoMember same
    rw [numbered] at member alsoMember
    -- A name with a number would be the plain name of another title.
    rcases numberedName_eq_iff.mp same with ⟨rfl, rfl⟩ | ⟨positive, rfl, rfl⟩ | ⟨rfl, positive, rfl⟩
    · rfl
    · exact absurd (List.count_pos_iff.mp alsoMember) (clear base earlier positive member)
    · exact absurd (List.count_pos_iff.mp member) (clear other before positive alsoMember)

/-- A document has the name of the sidebar exactly when a title leads to it. -/
theorem sidebarName_mem_assignNames (titles : List String) :
    sidebarName ∈ assignNames titles ↔ sidebarName ∈ titles.map documentName := by
  rw [assignNames, assignNamesAfter_eq, List.mem_map]
  constructor
  · rintro ⟨⟨base, earlier⟩, member, same⟩
    obtain ⟨rfl, rfl⟩ := numberedName_eq_sidebarName.mp same
    exact List.count_pos_iff.mp (by simpa using (mem_numberings.mp member).2)
  · intro member
    refine ⟨(sidebarName, 0), mem_numberings.mpr ⟨Nat.le_refl 0, ?_⟩, rfl⟩
    simpa using List.count_pos_iff.mpr member

/-! ## Names of files -/

section Files

/-- The characters that mean something in paths, addresses or patterns. -/
def pathCharacters : List Char := ['/', '\\', '?', '#', '%', '*', ':', '|', '"', '<', '>']

/-- Whether a text can name a file. -/
structure IsFileName (name : String) : Prop where
  notEmpty : name ≠ ""
  noBlank : ∀ c ∈ name.toList, Text.isBlank c = false
  noPathCharacter : ∀ c ∈ pathCharacters, c ∉ name.toList
  start : name.toList.head? ≠ some '.'
  stop : name.toList.getLast? ≠ some '.'

variable {name : String} {titles : List String}

/-- A character is safe if it is neither blank nor means anything in paths. -/
theorem isUnsafe_eq_false_iff {c : Char} : isUnsafe c = false ↔ Text.isBlank c = false ∧ c ∉ pathCharacters := by
  simp [isUnsafe, pathCharacters]

/-- A text can name a file when it is not empty, its characters are safe, and no points are at its ends. -/
theorem isFileName_iff : IsFileName name ↔
    name ≠ "" ∧ (∀ c ∈ name.toList, isUnsafe c = false) ∧ Text.IsTrimmed (· == '.') name.toList := by
  constructor
  · intro isName
    refine ⟨isName.notEmpty, fun c member => ?_, fun c isHead => ?_, fun c isLast => ?_⟩
    · exact isUnsafe_eq_false_iff.mpr ⟨isName.noBlank c member, fun path => isName.noPathCharacter c path member⟩
    · exact beq_eq_false_iff_ne.mpr fun isPoint => isName.start (isPoint ▸ isHead)
    · exact beq_eq_false_iff_ne.mpr fun isPoint => isName.stop (isPoint ▸ isLast)
  · rintro ⟨notEmpty, safe, trimmed⟩
    refine ⟨notEmpty, fun c member => ?_, fun c path member => ?_, fun isHead => ?_, fun isLast => ?_⟩
    · exact (isUnsafe_eq_false_iff.mp (safe c member)).1
    · exact (isUnsafe_eq_false_iff.mp (safe c member)).2 path
    · nomatch trimmed.start '.' isHead
    · nomatch trimmed.stop '.' isLast

/-- The characters of a name of a file are safe. -/
theorem IsFileName.safe (isName : IsFileName name) : ∀ c ∈ name.toList, isUnsafe c = false :=
  (isFileName_iff.mp isName).2.1

/-- What stands for a title that leaves nothing can name a file. -/
theorem isFileName_fallbackName : IsFileName fallbackName := by
  have safe : (fallbackName.toList.all fun c => !isUnsafe c) = true := by decide
  refine isFileName_iff.mpr ⟨by decide, fun c member => ?_, Text.isTrimmed_of_all (by decide)⟩
  simpa using List.all_eq_true.mp safe c member

/-- Every title leads to a text that can name a file. -/
theorem isFileName_documentName (title : String) : IsFileName (documentName title) := by
  unfold documentName
  dsimp only
  split
  · exact isFileName_fallbackName
  · next isSome =>
    refine isFileName_iff.mpr ⟨fun isEmpty => isSome ?_, fun c member => ?_, ?_⟩
    · rw [List.isEmpty_iff]
      simpa using congrArg String.toList isEmpty
    · rw [String.toList_ofList] at member
      have kept := (Text.trimBy_infix _ _).subset member
      simpa using (List.mem_filter.mp kept).2
    · rw [String.toList_ofList]
      exact (Text.trimBy_spec _ _).1

/-- Just what can name a file is left as it is. -/
theorem documentName_eq_self_iff : documentName name = name ↔ IsFileName name := by
  constructor
  · intro same
    exact same ▸ isFileName_documentName name
  · intro isName
    obtain ⟨notEmpty, safe, trimmed⟩ := isFileName_iff.mp isName
    have kept : name.toList.filter (fun c => !isUnsafe c) = name.toList :=
      List.filter_eq_self.mpr fun c member => by rw [safe c member]; rfl
    have isSome : ¬name.toList.isEmpty = true := by simpa using notEmpty
    simp only [documentName, kept, Text.trimBy_eq_self_iff.mpr trimmed]
    rw [if_neg isSome, String.ofList_toList]

/-- Digits are safe. -/
theorem safe_of_isDigit {c : Char} (digit : c.isDigit = true) : isUnsafe c = false := by
  have checked : ∀ code ∈ List.range' 48 10, isUnsafe (Char.ofNat code) = false := by decide
  have bounds : 48 ≤ c.toNat ∧ c.toNat ≤ 57 := by
    simpa [Char.isDigit, UInt32.le_iff_toNat_le] using digit
  have safe := checked c.toNat (List.mem_range'_1.mpr (by omega))
  rwa [Char.ofNat_toNat] at safe

/-- A number behind a dash leaves a name fit for a file. -/
theorem IsFileName.dashed (isName : IsFileName base) (number : Nat) : IsFileName (base ++ "-" ++ natText number) := by
  obtain ⟨-, safe, trimmed⟩ := isFileName_iff.mp isName
  have digits : ∀ c ∈ (natText number).toList, c.isDigit = true := by
    rw [Number.toList_natText]
    exact fun c member => Number.isDigit_toDigits c member
  have ending : ∀ c ∈ '-' :: (natText number).toList, isUnsafe c = false ∧ (c == '.') = false := by
    refine List.forall_mem_cons.mpr ⟨by decide, fun c member => ⟨safe_of_isDigit (digits c member), ?_⟩⟩
    refine beq_eq_false_iff_ne.mpr ?_
    rintro rfl
    nomatch digits _ member
  refine isFileName_iff.mpr ⟨?_, ?_, ?_⟩
  · intro isEmpty
    simpa [toList_dashed] using congrArg String.toList isEmpty
  · rw [toList_dashed]
    exact List.forall_mem_append.mpr ⟨safe, fun c member => (ending c member).1⟩
  · rw [toList_dashed]
    exact trimmed.append (Text.isTrimmed_of_forall fun c member => (ending c member).2)

/-- A name that a document of a batch is given is what a title leads to, perhaps with a number. -/
theorem exists_numberedName (member : name ∈ assignNames titles) :
    ∃ title ∈ titles, ∃ earlier, name = numberedName (documentName title) earlier := by
  rw [assignNames, assignNamesAfter_eq, List.mem_map] at member
  obtain ⟨⟨base, earlier⟩, member, rfl⟩ := member
  have isBase : base ∈ titles.map documentName := by
    refine List.count_pos_iff.mp (Nat.lt_of_le_of_lt (Nat.zero_le earlier) ?_)
    simpa only [List.count_nil, Nat.zero_add] using (mem_numberings.mp member).2
  obtain ⟨title, isTitle, rfl⟩ := List.mem_map.mp isBase
  exact ⟨title, isTitle, earlier, rfl⟩

/-- Every name that a document of a batch is given can name a file. -/
theorem isFileName_of_mem_assignNames (member : name ∈ assignNames titles) : IsFileName name := by
  obtain ⟨title, -, earlier, rfl⟩ := exists_numberedName member
  cases earlier with
  | zero => exact isFileName_documentName title
  | succ earlier => exact (isFileName_documentName title).dashed (earlier + 2)

/-- No unsafe character stands in a name that a document of a batch is given. -/
theorem safe_of_mem_assignNames (member : name ∈ assignNames titles) : ∀ c ∈ name.toList, isUnsafe c = false :=
  (isFileName_of_mem_assignNames member).safe

end Files

/-! ## Drafts -/

section Drafts

variable {context : Context} {batch : Batch} {task : DocumentTask} {docName name : String}
  {way : List (Exchange Call Answer)}

/-- Whichever way its attempt goes, a document has its own drafts touched and no others. -/
theorem touches_attemptDocument {result : Except String WrittenDocument}
    (goes : (attemptDocument context batch task docName).Goes way result) :
    (∃ exchange ∈ way, exchange.request.touches name = true) ↔ docName = name := by
  obtain ⟨outcome, -, attempted⟩ := attempted_of_goes goes
  cases attempted with
  | @saved composing manuscript composed =>
    simp only [List.mem_append, manuscriptSaved, List.mem_cons, List.not_mem_nil, or_false]
    constructor
    · rintro ⟨exchange, member | rfl | rfl, touches⟩
      · nomatch ((quiet_composeDocument composed exchange member).touches name).symm.trans touches
      · simpa [Call.touches] using touches
      · simpa [Call.touches] using touches
    · rintro rfl
      exact ⟨_, .inr (.inl rfl), by simp [Call.touches]⟩
  | @discarded composing saving report answer quiet saves =>
    simp only [List.mem_append, List.mem_singleton]
    constructor
    · rintro ⟨exchange, (member | member) | rfl, touches⟩
      · nomatch ((quiet exchange member).touches name).symm.trans touches
      · obtain ⟨content, language, isSave⟩ := saves exchange member
        simpa [isSave, Call.touches] using touches
      · simpa [Call.touches] using touches
    · rintro rfl
      exact ⟨_, .inr rfl, by simp [Call.touches]⟩

/-- Saving sidebars touches no drafts but those of the sidebar. -/
theorem touches_saveSidebars {project : String} {documents : List WrittenDocument} {outcome : Except Problem Unit}
    (goes : (saveSidebars context project documents).run.Goes way outcome) :
    ∀ exchange ∈ way, exchange.request.touches name = true -> sidebarName = name := by
  have saved : ∀ content language, Activity.Abides
      (Activity.asking Answer fun call => call.touches name = true -> sidebarName = name)
      (saveDocument project sidebarName content language) :=
    fun _ _ => abides_accepted ⟨beq_iff_eq.mp, fun _ _ => trivial⟩
  have sidebars : Activity.Abides (Activity.asking Answer fun call => call.touches name = true -> sidebarName = name)
      (saveSidebars context project documents) := by
    unfold saveSidebars
    split
    · exact Activity.abides_throw _
    · exact (saved _ _).andThen fun _ => saved _ _
  exact sidebars.confined goes

end Drafts

/-- **Names of a batch.** The documents of a batch have different names exactly when no title leads to a name that
another one becomes by one of its numbers, and none of them is the sidebar's exactly when no title leads to that. Then
attempting a document touches the drafts of no other one, in whatever way it goes, and saving sidebars touches the
drafts of none. -/
theorem assignNames_apart (context : Context) (batch : Batch) (tasks : List DocumentTask) :
    let bases := (tasks.map (·.title)).map documentName
    let names := assignNames (tasks.map (·.title))
    (names.Nodup ↔ ClearOfNumbers bases) ∧ (sidebarName ∈ names ↔ sidebarName ∈ bases) ∧
      (ClearOfNumbers bases -> ∀ (place other : Nat) (task : DocumentTask) (docName name : String),
        tasks[place]? = some task -> names[place]? = some docName -> names[other]? = some name ->
          ∀ way result, (attemptDocument context batch task docName).Goes way result ->
            ((∃ exchange ∈ way, exchange.request.touches name = true) ↔ place = other)) ∧
      (sidebarName ∉ bases -> ∀ documents way outcome,
        (saveSidebars context batch.projectKey documents).run.Goes way outcome ->
          ∀ exchange ∈ way, ∀ name ∈ names, exchange.request.touches name = false) := by
  intro bases names
  have distinct := nodup_assignNames_iff (tasks.map (·.title))
  have sidebar := sidebarName_mem_assignNames (tasks.map (·.title))
  refine ⟨distinct, sidebar, ?_, ?_⟩
  · intro clear place other task docName name _ isName isOther way result goes
    rw [touches_attemptDocument goes]
    constructor
    · rintro rfl
      obtain ⟨low, -⟩ := List.getElem?_eq_some_iff.mp isName
      exact (List.getElem?_inj low (distinct.mpr clear)).mp (isName.trans isOther.symm)
    · rintro rfl
      exact Option.some.inj (isName.symm.trans isOther)
  · intro absent documents way outcome goes exchange member name isName
    rw [← Bool.not_eq_true]
    intro touches
    rw [← touches_saveSidebars goes exchange member touches] at isName
    exact absent (sidebar.mp isName)

/-- Tasks of which two have titles that lead to the same name. -/
def setupTasks : List DocumentTask := ["Setup", "Set up", "Usage"].map fun title => ⟨title, "", "", "", none⟩

/-- Tasks of which the last has a title that leads to the name of the second. -/
def collidingTasks : List DocumentTask := ["Setup", "Set up", "Setup-2"].map fun title => ⟨title, "", "", "", none⟩

/-- The second document is told apart by its number, and an attempt at it leaves the drafts of the first alone. It is
not told apart from a document whose title has that number already. -/
theorem setupTasks_apart :
    assignNames (setupTasks.map (·.title)) = ["Setup", "Setup-2", "Usage"] ∧
    (∃ way result, (attemptDocument emptyContext ⟨emptyContext.checkout "repo", "p", "{}"⟩
        ⟨"Set up", "", "", "", none⟩ "Setup-2").Goes way result ∧
      ¬∃ exchange ∈ way, exchange.request.touches "Setup" = true) ∧
    assignNames (collidingTasks.map (·.title)) = ["Setup", "Setup-2", "Setup-2"] ∧
    ¬ClearOfNumbers ((collidingTasks.map (·.title)).map documentName) := by
  have names : assignNames (setupTasks.map (·.title)) = ["Setup", "Setup-2", "Usage"] := by decide +kernel
  have colliding : assignNames (collidingTasks.map (·.title)) = ["Setup", "Setup-2", "Setup-2"] := by decide +kernel
  refine ⟨names, ?_, colliding, fun clear => ?_⟩
  · obtain ⟨distinct, -, apart, -⟩ :=
      assignNames_apart emptyContext ⟨emptyContext.checkout "repo", "p", "{}"⟩ setupTasks
    have clear := distinct.mp (by rw [names]; decide)
    refine ⟨_, _, @Activity.goes_run _ _ _ _ (World.answer (.reciting fun _ => none)) _ (.untouched []), ?_⟩
    rw [apart clear 1 0 _ "Setup-2" "Setup" rfl (by rw [names]; rfl) (by rw [names]; rfl) _ _ (Activity.goes_run _ _)]
    decide
  · obtain ⟨distinct, -⟩ :=
      assignNames_apart emptyContext ⟨emptyContext.checkout "repo", "p", "{}"⟩ collidingTasks
    exact absurd (distinct.mpr clear) (by rw [colliding]; decide)

end RepoSurvey.Analysis

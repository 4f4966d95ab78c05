import RepoSurvey.Proofs.Survey.Assembly
import RepoSurvey.Proofs.Text.Trimming

/-!
# Requirements

A requirement is stated as the name of a package, extras in brackets with commas between them, and what is asked of
the version. Brackets may stand in the name that is read, commas may not: a requirement with at most one extra is read
as it is stated, and of one with several the name ends at the first comma (`ofLine_account`). The files and lists in
which requirements are stated declare what is read (`entry_of_states`).
-/

namespace RepoSurvey.Survey

open Requirement (isNameChar isOneLine ofLine)

/-! ## Statements -/

/-- Whether a character may stand in the name of a package or of an extra. -/
def isPackageChar (c : Char) : Bool := (c.toNat < 128 && c.isAlphanum) || c == '_' || c == '.' || c == '-'

/-- Whether some characters are the name of a package or of an extra. -/
structure IsPackageName (chars : List Char) : Prop where
  some : chars ≠ []
  plain : ∀ c ∈ chars, isPackageChar c = true

/-- A requirement as it is stated. -/
structure Stated where
  package : List Char
  extras : List (List Char)
  asked : List Char

namespace Stated

/-- The extras in brackets, with commas between them; nothing when there are none. -/
def bracketed (extras : List (List Char)) : List Char :=
  if extras.isEmpty then [] else '[' :: [','].intercalate extras ++ [']']

/-- The name with the extras. -/
def fullName (stated : Stated) : List Char := stated.package ++ bracketed stated.extras

/-- The requirement on a line. -/
def line (stated : Stated) : String := String.ofList (stated.fullName ++ stated.asked)

/-- Whether the parts of a requirement are what they should be. What is asked starts with a character of no name, as
comparisons, blanks and semicolons are, and is on one line. -/
structure IsWellFormed (stated : Stated) : Prop where
  package : IsPackageName stated.package
  extras : ∀ extra ∈ stated.extras, IsPackageName extra
  apart : ∀ c ∈ stated.asked.head?, isNameChar c = false
  single : '\n' ∉ stated.asked

end Stated

/-! ## Reading a requirement -/

/-- Characters of packages are characters of names. -/
theorem isNameChar_of_isPackageChar {c : Char} (plain : isPackageChar c = true) : isNameChar c = true := by
  unfold isNameChar
  unfold isPackageChar at plain
  simp only [Bool.or_eq_true] at plain ⊢
  exact .inl (.inl plain)

/-- Characters of packages are no line ends. -/
theorem IsPackageName.notMem {chars : List Char} (isName : IsPackageName chars) : '\n' ∉ chars :=
  fun member => absurd (isName.plain _ member) (by decide)

/-- What stands in no extra does not stand between them. -/
theorem notMem_commas {c : Char} (noComma : c ≠ ',') {extras : List (List Char)}
    (absent : ∀ extra ∈ extras, c ∉ extra) : c ∉ [','].intercalate extras := by
  induction extras with
  | nil => exact List.not_mem_nil
  | cons extra others inductionHypothesis =>
    obtain ⟨here, later⟩ := List.forall_mem_cons.mp absent
    cases others with
    | nil => rwa [List.intercalate_singleton]
    | cons next others =>
      rw [List.intercalate_cons_cons]
      simp [here, noComma, inductionHypothesis later]

/-- A text without line ends is on one line. -/
theorem isOneLine_of_notMem {text : List Char} (single : '\n' ∉ text) : isOneLine text = true := by
  have noLast : text.getLast? ≠ some '\n' := fun isLast => single (List.mem_of_getLast? isLast)
  unfold isOneLine
  rw [if_neg noLast]
  simpa using single

/-- A line of characters of a name and others after them is read as that name and the others, trimmed. -/
theorem ofLine_append {name rest : List Char} (some : name ≠ []) (named : ∀ c ∈ name, isNameChar c = true)
    (apart : ∀ c ∈ rest.head?, isNameChar c = false) (single : '\n' ∉ rest) :
    ofLine (String.ofList (name ++ rest)) = ⟨String.ofList name, String.ofList (Text.trim rest)⟩ := by
  have isName : (name ++ rest).takeWhile isNameChar = name := by
    have none : rest.takeWhile isNameChar = [] := by
      cases rest with
      | nil => rfl
      | cons c rest => exact List.takeWhile_cons_of_neg (by simp [apart c rfl])
    rw [List.takeWhile_append_of_pos named, none, List.append_nil]
  have oneLine : isOneLine (rest.dropWhile Text.isBlank) = true :=
    isOneLine_of_notMem fun member => single ((List.dropWhile_sublist _).subset member)
  have sameTrim : Text.trim (rest.dropWhile Text.isBlank) = Text.trim rest := by
    unfold Text.trim Text.trimBy Text.dropStart
    rw [List.dropWhile_idempotent]
  have notEmpty : name.isEmpty = false := List.isEmpty_eq_false_iff.mpr some
  unfold ofLine
  simp only [String.toList_ofList, isName, List.drop_left, oneLine, notEmpty, sameTrim]
  rfl

variable {stated : Stated}

/-- A requirement with at most one extra is read as it is stated. -/
theorem ofLine_of_single (wellFormed : stated.IsWellFormed) (few : stated.extras.length ≤ 1) :
    ofLine stated.line = ⟨String.ofList stated.fullName, String.ofList (Text.trim stated.asked)⟩ := by
  refine ofLine_append ?_ (List.forall_mem_append.mpr ⟨?_, ?_⟩) wellFormed.apart wellFormed.single
  · exact List.append_ne_nil_of_left_ne_nil wellFormed.package.some _
  · exact fun c member => isNameChar_of_isPackageChar (wellFormed.package.plain c member)
  · obtain ⟨package, extras, asked⟩ := stated
    cases extras with
    | nil => exact List.forall_mem_nil _
    | cons extra others =>
      obtain rfl : others = [] := List.length_eq_zero_iff.mp (Nat.le_zero.mp (Nat.le_of_succ_le_succ few))
      have plain := (wellFormed.extras extra (List.mem_singleton_self extra)).plain
      have brackets : isNameChar '[' = true ∧ isNameChar ']' = true := by decide
      refine List.forall_mem_cons.mpr ⟨brackets.1, List.forall_mem_append.mpr ⟨fun c member => ?_, ?_⟩⟩
      · rw [List.intercalate_singleton] at member
        exact isNameChar_of_isPackageChar (plain c member)
      · exact List.forall_mem_singleton.mpr brackets.2

/-- The name of a requirement with several extras is read up to the first comma. -/
theorem ofLine_of_several (wellFormed : stated.IsWellFormed) {first second : List Char} {others : List (List Char)}
    (several : stated.extras = first :: second :: others) :
    ofLine stated.line = ⟨String.ofList (stated.package ++ '[' :: first),
      String.ofList (Text.trim (',' :: [','].intercalate (second :: others) ++ ']' :: stated.asked))⟩ := by
  have isLine : stated.line = String.ofList ((stated.package ++ '[' :: first) ++
      (',' :: [','].intercalate (second :: others) ++ ']' :: stated.asked)) := by
    unfold Stated.line Stated.fullName Stated.bracketed
    rw [several, List.intercalate_cons_cons]
    simp
  have plain := (wellFormed.extras first (by simp [several])).plain
  have single : '\n' ∉ [','].intercalate (second :: others) :=
    notMem_commas (by decide) fun extra isExtra => (wellFormed.extras extra (by simp [several, isExtra])).notMem
  rw [isLine]
  refine ofLine_append (by simp) (List.forall_mem_append.mpr ⟨?_, List.forall_mem_cons.mpr ⟨by decide, ?_⟩⟩) ?_ ?_
  · exact fun c member => isNameChar_of_isPackageChar (wellFormed.package.plain c member)
  · exact fun c member => isNameChar_of_isPackageChar (plain c member)
  · exact fun c isHead => Option.some.inj isHead ▸ by decide
  · simp [single, wellFormed.single]

/-! ## Where requirements are stated -/

/-- Whether a manifest states a requirement, of the development kind or not: on a line of a file of requirements, or
in a list of a project table. -/
inductive Manifest.States : Manifest -> Bool -> String -> Prop
  /-- What stands before a remark counts; lines that are options state nothing. -/
  | file {name line : String} {content : ByteArray} {text written : List Char}
      (isText : fileText content = .ok text) (isLine : written ∈ Text.lines text)
      (isStated : Text.trim (written.takeWhile (· != '#')) = line.toList) (notEmpty : line.toList ≠ [])
      (noOption : line.toList.head? ≠ some '-') :
      States (.requirements name (some content)) (holds "dev" name || holds "test" name) line
  | required {line : String} {content : ByteArray} {text : List Char} {data project : Toml.Members}
      {lines : List Toml.Value} (isText : fileText content = .ok text) (isData : Toml.readDocument text = .ok data)
      (isProject : data.find? "project" = some (.table project))
      (isList : Toml.Members.find? "dependencies" project = some (.array lines)) (isStated : .text line ∈ lines) :
      States (.project content) false line
  | optional {line extra : String} {content : ByteArray} {text : List Char} {data project extras : Toml.Members}
      {lines : List Toml.Value} (isText : fileText content = .ok text) (isData : Toml.readDocument text = .ok data)
      (isProject : data.find? "project" = some (.table project))
      (areExtras : Toml.Members.find? "optional-dependencies" project = some (.table extras))
      (isList : (extra, .array lines) ∈ extras) (isStated : .text line ∈ lines) : States (.project content) true line

/-- What an item is read as is among what all of them are read as. -/
theorem exists_mem_of_mapM {α β ε : Type} {read : α -> Except ε β} {items : List α} {parts : List β} {item : α}
    (all : items.mapM read = .ok parts) (member : item ∈ items) : ∃ part ∈ parts, read item = .ok part := by
  induction items generalizing parts with
  | nil => nomatch member
  | cons first items inductionHypothesis =>
    rw [List.mapM_cons] at all
    obtain ⟨early, isEarly, rest⟩ := bind_eq_ok.mp all
    obtain ⟨late, areLate, same⟩ := bind_eq_ok.mp rest
    obtain rfl := Except.ok.inj same
    rcases List.mem_cons.mp member with rfl | member
    · exact ⟨early, .head _, isEarly⟩
    · obtain ⟨part, isPart, isRead⟩ := inductionHypothesis areLate member
      exact ⟨part, .tail _ isPart, isRead⟩

/-- What a list of a project table states is among what it declares. -/
theorem entry_of_textEntries {development : Bool} {line : String} {lines : List Toml.Value} {entries : List Entry}
    (read : textEntries development (.array lines) = .ok entries) (isStated : .text line ∈ lines) :
    (ofLine line).entry development ∈ entries := by
  obtain ⟨entry, member, isRead⟩ := exists_mem_of_mapM read isStated
  rwa [← Except.ok.inj isRead] at member

/-- A project table declares what its requirements and, after these, its optional ones declare. -/
theorem parts_of_projectEntries {data project : Toml.Members} {entries : List Entry}
    (isProject : data.find? "project" = some (.table project)) (read : projectEntries data = .ok entries) :
    ∃ required lists extras,
      textEntries false ((Toml.Members.find? "dependencies" project).getD (.array [])) = .ok required ∧
      (Toml.Members.find? "optional-dependencies" project).getD (.table []) = .table extras ∧
      (extras.map (·.2)).mapM (textEntries true) = .ok lists ∧ entries = required ++ lists.flatten := by
  unfold projectEntries at read
  simp only [isProject, Option.getD_some, tableMember, ok_bind] at read
  obtain ⟨required, isRequired, rest⟩ := bind_eq_ok.mp read
  cases areExtras : (Toml.Members.find? "optional-dependencies" project).getD (.table []) with
  | table extras =>
    rw [areExtras] at rest
    obtain ⟨lists, areLists, rfl⟩ := map_eq_ok.mp rest
    exact ⟨required, lists, extras, isRequired, rfl, areLists, rfl⟩
  | _ =>
    rw [areExtras] at rest
    cases rest

/-- A manifest that states a requirement declares what is read. -/
theorem entry_of_states {manifest : Manifest} {development : Bool} {line : String} {declaration : Declaration}
    (states : manifest.States development line) (read : manifest.read = .ok (some declaration)) :
    (ofLine line).entry development ∈ declaration.entries := by
  cases states with
  | @file name _ content text written isText isLine isStated notEmpty noOption =>
    simp only [Manifest.read, isText] at read
    obtain rfl := Option.some.inj (Except.ok.inj read)
    refine List.mem_map_of_mem (List.mem_map.mpr ⟨line.toList, List.mem_filter.mpr ⟨?_, ?_⟩, ?_⟩)
    · exact List.mem_map.mpr ⟨written, isLine, isStated⟩
    · simp [notEmpty, noOption]
    · rw [String.ofList_toList]
  | required isText isData isProject isList isStated =>
    simp only [Manifest.read, readToml, isText, isData] at read
    obtain ⟨entries, areEntries, same⟩ := map_eq_ok.mp read
    obtain rfl := Option.some.inj same
    obtain ⟨required, lists, extras, isRequired, -, -, rfl⟩ := parts_of_projectEntries isProject areEntries
    rw [isList, Option.getD_some] at isRequired
    exact List.mem_append_left _ (entry_of_textEntries isRequired isStated)
  | optional isText isData isProject areExtras isList isStated =>
    simp only [Manifest.read, readToml, isText, isData] at read
    obtain ⟨entries, areEntries, same⟩ := map_eq_ok.mp read
    obtain rfl := Option.some.inj same
    obtain ⟨required, lists, extras, -, isTable, areLists, rfl⟩ := parts_of_projectEntries isProject areEntries
    rw [areExtras, Option.getD_some] at isTable
    obtain rfl := Toml.Value.table.inj isTable
    obtain ⟨listed, isListed, isRead⟩ := exists_mem_of_mapM areLists (List.mem_map_of_mem isList)
    exact List.mem_append_right _ (List.mem_flatten_of_mem isListed (entry_of_textEntries isRead isStated))

/-- A requirement with at most one extra is read as its name with the extra and what is asked, without blanks around
it. The name of a requirement with several extras is read up to the first comma only. Every manifest that states the
requirement declares what is read. -/
theorem ofLine_account (stated : Stated) (wellFormed : stated.IsWellFormed) :
    (stated.extras.length ≤ 1 -> ofLine stated.line =
      ⟨String.ofList stated.fullName, String.ofList (Text.trim stated.asked)⟩) ∧
    (∀ first second others, stated.extras = first :: second :: others -> ofLine stated.line =
      ⟨String.ofList (stated.package ++ '[' :: first),
        String.ofList (Text.trim (',' :: [','].intercalate (second :: others) ++ ']' :: stated.asked))⟩) ∧
    ∀ (manifest : Manifest) (development : Bool) (declaration : Declaration),
      manifest.States development stated.line -> manifest.read = .ok (some declaration) ->
        (ofLine stated.line).entry development ∈ declaration.entries :=
  ⟨ofLine_of_single wellFormed, fun _ _ _ => ofLine_of_several wellFormed,
    fun _ _ _ states read => entry_of_states states read⟩

/-- A requirement with some extras. -/
def extendedRequirement (extras : List (List Char)) : Stated := ⟨['p'], extras, [' ', '>', '1']⟩

/-- A file of requirements with one of two extras on its only line. -/
def extendedManifest : Manifest :=
  .requirements "requirements.txt" (some ⟨#[112, 91, 97, 44, 98, 93, 32, 62, 49, 10]⟩)

/-- With one extra the requirement is read as it is stated, with two of them the second one is taken for a part of what
is asked, and so it is declared by a file. -/
theorem extendedRequirement_read :
    (extendedRequirement [['a']]).IsWellFormed ∧ (extendedRequirement [['a'], ['b']]).IsWellFormed ∧
    ofLine (extendedRequirement [['a']]).line = ⟨"p[a]", ">1"⟩ ∧
    ofLine (extendedRequirement [['a'], ['b']]).line = ⟨"p[a", ",b] >1"⟩ ∧
    ∃ declaration, extendedManifest.read = .ok (some declaration) ∧
      ⟨false, .str "p[a", .str ",b] >1"⟩ ∈ declaration.entries := by
  have isName (c : Char) (plain : isPackageChar c = true) : IsPackageName [c] :=
    ⟨List.cons_ne_nil _ _, List.forall_mem_singleton.mpr plain⟩
  have package := isName 'p' (by decide)
  have first := isName 'a' (by decide)
  have second := isName 'b' (by decide)
  have apart : ∀ c ∈ [' ', '>', '1'].head?, isNameChar c = false := fun c isHead => Option.some.inj isHead ▸ by decide
  have one : (extendedRequirement [['a']]).IsWellFormed :=
    ⟨package, List.forall_mem_singleton.mpr first, apart, by decide⟩
  have two : (extendedRequirement [['a'], ['b']]).IsWellFormed :=
    ⟨package, List.forall_mem_cons.mpr ⟨first, List.forall_mem_singleton.mpr second⟩, apart, by decide⟩
  have readOne : ofLine (extendedRequirement [['a']]).line = ⟨"p[a]", ">1"⟩ := (ofLine_account _ one).1 (Nat.le_refl 1)
  obtain ⟨-, readSeveral, declared⟩ := ofLine_account _ two
  have readTwo : ofLine (extendedRequirement [['a'], ['b']]).line = ⟨"p[a", ",b] >1"⟩ :=
    readSeveral ['a'] ['b'] [] rfl
  have isText : fileText ⟨#[112, 91, 97, 44, 98, 93, 32, 62, 49, 10]⟩ =
    .ok ['p', '[', 'a', ',', 'b', ']', ' ', '>', '1', '\n'] := by cbv
  have states : extendedManifest.States false (extendedRequirement [['a'], ['b']]).line := by
    have development : (holds "dev" "requirements.txt" || holds "test" "requirements.txt") = false := by cbv
    have chars : (extendedRequirement [['a'], ['b']]).line.toList = ['p', '[', 'a', ',', 'b', ']', ' ', '>', '1'] :=
      String.toList_ofList
    rw [← development]
    refine .file isText (List.mem_singleton_self _) ?_ ?_ ?_ <;> rw [chars]
    · rfl
    · exact List.cons_ne_nil _ _
    · decide
  obtain ⟨declaration, isRead⟩ : ∃ declaration, extendedManifest.read = .ok (some declaration) :=
    ⟨_, by rw [extendedManifest, Manifest.read, isText]⟩
  have isDeclared := declared _ _ _ states isRead
  rw [readTwo] at isDeclared
  exact ⟨one, two, readOne, readTwo, declaration, isRead, isDeclared⟩

end RepoSurvey.Survey

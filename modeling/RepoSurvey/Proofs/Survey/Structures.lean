import Mathlib.Data.Set.Card
import RepoSurvey.Analysis.Run
import RepoSurvey.Proofs.Files.Walks
import RepoSurvey.Proofs.Survey.Findings

/-!
# Structures of checkouts

What a structure says about a checkout is compared with the files that a walk over it visits (`counts_ofCheckout`):
directories are counted as sets of names, although they are told apart by the texts of their paths, and languages
keep the order in which they are met among those of equally many files.

A structure is found for every checkout but those with a link at the top whose kind cannot be told, although the walk
itself takes such a link for a file (`layoutOf_account`). Nothing is claimed about the sizes of files and about the
order in which they are visited.
-/

namespace RepoSurvey.Text

/-! ## Distinct texts -/

/-- The texts that were not met before are counted once each. -/
theorem countNew_eq (met : Std.HashSet String) (texts : List String) :
    countNew met texts = (texts.toFinset.filter (· ∉ met)).card := by
  induction texts generalizing met with
  | nil => rfl
  | cons text texts inductionHypothesis =>
    rw [countNew, List.toFinset_cons]
    by_cases isMet : text ∈ met
    · rw [if_pos (Std.HashSet.contains_iff_mem.mpr isMet), inductionHypothesis,
        Finset.filter_insert, if_neg (not_not_intro isMet)]
    · have others : insert text (texts.toFinset.filter (· ∉ met)) =
          insert text (texts.toFinset.filter (· ∉ met.insert text)) := by
        ext other
        simp only [Finset.mem_insert, Finset.mem_filter, Std.HashSet.mem_insert, beq_iff_eq, not_or]
        tauto
      rw [if_neg (mt Std.HashSet.contains_iff_mem.mp isMet), inductionHypothesis, Finset.filter_insert, if_pos isMet,
        others, Finset.card_insert_of_notMem (by simp)]

/-- Distinct texts are counted. -/
theorem distinctCount_eq (texts : List String) : distinctCount texts = texts.toFinset.card := by
  rw [distinctCount, countNew_eq, Finset.filter_true_of_mem fun text _ => Std.HashSet.not_mem_empty]

end RepoSurvey.Text

namespace RepoSurvey.Survey

open Files (Checkout Place Visit)

/-! ## Tallies -/

/-- Tallied names are ordered by their counts, those with equal counts in the order in which they occur first. -/
theorem pairwise_mostCommon (names : List String) :
    (mostCommon (tally names)).Pairwise fun earlier later =>
      later.2 < earlier.2 ∨ (later.2 = earlier.2 ∧ names.idxOf earlier.1 < names.idxOf later.1) := by
  have inTurn : (tally names).Pairwise fun earlier later => names.idxOf earlier.1 < names.idxOf later.1 := by
    rw [tally_eq, List.pairwise_map]
    exact pairwise_eraseDups names
  have ofCount (first second : String × Nat) :
      decide (second.2 ≤ first.2) = true ↔ OrderDual.toDual first.2 ≤ OrderDual.toDual second.2 := decide_eq_true_iff
  refine (Files.pairwise_mergeSort_key ofCount inTurn).imp fun inOrder => ?_
  exact inOrder.imp id (And.imp_left fun same => (OrderDual.toDual_inj.mp same).symm)

/-- The names that are tallied are those that occur, with the number of times that they do. -/
theorem mem_mostCommon {names : List String} {name : String} {count : Nat} :
    (name, count) ∈ mostCommon (tally names) ↔ count = names.count name ∧ 0 < count := by
  rw [mostCommon, List.mem_mergeSort, tally_eq, List.mem_map]
  constructor
  · rintro ⟨other, isName, isEntry⟩
    obtain ⟨rfl, rfl⟩ := Prod.mk.inj isEntry
    exact ⟨rfl, List.count_pos_iff.mpr (List.mem_eraseDups.mp isName)⟩
  · rintro ⟨rfl, some⟩
    exact ⟨name, List.mem_eraseDups.mpr (List.count_pos_iff.mp some), rfl⟩

/-! ## Paths -/

section Paths

variable {names : List String}

/-- The names of a path are found again in its text. -/
theorem splitOn_intercalate (some : names ≠ []) (whole : ∀ name ∈ names, '/' ∉ name.toList) :
    (String.intercalate "/" names).toList.splitOn '/' = names.map String.toList := by
  rw [String.toList_intercalate]
  refine List.splitOn_intercalate '/' (List.forall_mem_map.mpr whole) ?_
  exact mt List.map_eq_nil_iff.mp some

/-- A path has a slash between each of its names and the next one. -/
theorem count_intercalate (whole : ∀ name ∈ names, '/' ∉ name.toList) :
    (String.intercalate "/" names).toList.count '/' = names.length - 1 := by
  rw [String.toList_intercalate]
  induction names with
  | nil => rfl
  | cons name rest inductionHypothesis =>
    obtain ⟨isWhole, whole⟩ := List.forall_mem_cons.mp whole
    cases rest with
    | nil => simpa using List.count_eq_zero.mpr isWhole
    | cons next rest =>
      have onward := inductionHypothesis whole
      rw [List.map_cons] at onward ⊢
      rw [List.map_cons, List.intercalate_cons_cons, List.count_append, List.count_append, onward,
        List.count_eq_zero.mpr isWhole]
      simp
      omega

end Paths

/-! ## Directories -/

/-- The directories below the root on the paths to visited files. -/
def directoriesOf (visits : List Visit) : Set (List String) :=
  {directory | directory ≠ [] ∧ ∃ visit ∈ visits, directory <+: visit.directories}

/-- The paths of directories that lead to a visited file are those of the parts of its own path. -/
theorem mem_directoryPaths {visit : Visit} {text : String} :
    text ∈ directoryPaths visit ↔ ∃ directory, directory ≠ [] ∧ directory <+: visit.directories ∧
      String.intercalate "/" directory = text := by
  unfold directoryPaths
  simp only [List.mem_map, List.mem_range]
  constructor
  · rintro ⟨index, inBounds, rfl⟩
    refine ⟨_, ?_, List.take_prefix _ _, rfl⟩
    exact List.ne_nil_of_length_pos (by rw [List.length_take]; omega)
  · rintro ⟨directory, some, isPrefix, rfl⟩
    have positive := List.length_pos_iff.mpr some
    have within := isPrefix.length_le
    refine ⟨directory.length - 1, by omega, ?_⟩
    rw [Nat.sub_add_cancel positive, ← List.prefix_iff_eq_take.mp isPrefix]

/-- Directories are counted once each. -/
theorem distinctCount_directories {visits : List Visit}
    (whole : ∀ visit ∈ visits, ∀ name ∈ visit.directories, '/' ∉ name.toList) :
    Text.distinctCount (visits.flatMap directoryPaths) = (directoriesOf visits).ncard := by
  have distinct : Set.InjOn (String.intercalate "/") (directoriesOf visits) := by
    rintro first ⟨some, visit, member, isPrefix⟩ second ⟨someToo, other, memberToo, isPrefixToo⟩ same
    have apart := congrArg (fun text : String => text.toList.splitOn '/') same
    rw [splitOn_intercalate some fun name isName => whole visit member name (isPrefix.subset isName),
      splitOn_intercalate someToo fun name isName => whole other memberToo name (isPrefixToo.subset isName)] at apart
    exact List.map_injective_iff.mpr (fun _ _ => String.toList_injective) apart
  have texts : ((visits.flatMap directoryPaths).toFinset : Set String) =
      String.intercalate "/" '' directoriesOf visits := by
    ext text
    simp only [Finset.mem_coe, List.mem_toFinset, List.mem_flatMap, mem_directoryPaths, Set.mem_image]
    constructor
    · rintro ⟨visit, member, directory, some, isPrefix, isText⟩
      exact ⟨directory, ⟨some, visit, member, isPrefix⟩, isText⟩
    · rintro ⟨directory, ⟨some, visit, member, isPrefix⟩, isText⟩
      exact ⟨visit, member, directory, some, isPrefix, isText⟩
  rw [Text.distinctCount_eq, ← Set.ncard_coe_finset, texts, distinct.ncard_image]

/-! ## Key files -/

/-- Whether a visited file is a key file. -/
def isKeyFile (visit : Visit) : Bool := keyFileNames.contains (Text.lower visit.name)

/-- Whether a path may stand before another one in order of depth. -/
def isShallower (left right : String) : Bool :=
  left.toList.count '/' < right.toList.count '/' ||
    (left.toList.count '/' == right.toList.count '/' && decide (left ≤ right))

/-- The key by which a path is sorted: its depth, then the path itself. -/
def depthKey (path : String) : Nat ×ₗ String := toLex (path.toList.count '/', path)

/-- Paths are sorted by their keys. -/
theorem isShallower_iff (left right : String) : isShallower left right = true ↔ depthKey left ≤ depthKey right := by
  simp [isShallower, depthKey, Prod.Lex.le_iff]

/-- Paths that are sorted by depth are those of visits in order of depth, then of path. -/
theorem sortByDepth_paths {visits : List Visit}
    (whole : ∀ visit ∈ visits, ∀ name ∈ visit.directories ++ [visit.name], '/' ∉ name.toList) :
    ∃ sorted : List Visit, sorted.Perm visits ∧ sortByDepth (visits.map Visit.path) = sorted.map Visit.path ∧
      sorted.Pairwise fun earlier later => earlier.directories.length < later.directories.length ∨
        (earlier.directories.length = later.directories.length ∧ earlier.path ≤ later.path) := by
  have depth : ∀ visit ∈ visits, visit.path.toList.count '/' = visit.directories.length := by
    intro visit member
    rw [Visit.path, count_intercalate (whole visit member), List.length_append, List.length_singleton,
      Nat.add_sub_cancel]
  have ofDepth (first second : Visit) := isShallower_iff first.path second.path
  refine ⟨_, List.mergeSort_perm visits fun left right => isShallower left.path right.path,
    (List.map_mergeSort (s := isShallower) fun _ _ _ _ => rfl).symm, ?_⟩
  refine (Files.pairwise_mergeSort_le ofDepth visits).imp_of_mem fun isEarlier isLater notAfter => ?_
  rw [depthKey, depthKey, Prod.Lex.le_iff] at notAfter
  dsimp only [ofLex_toLex] at notAfter
  rw [depth _ (List.mem_mergeSort.mp isEarlier), depth _ (List.mem_mergeSort.mp isLater)] at notAfter
  exact notAfter

/-! ## Structures -/

/-- Whether a structure counts what a walk visits. -/
structure Counts (layout : Structure) (visits : List Visit) : Prop where
  files : layout.totalFiles = visits.length
  directories : layout.totalDirectories = (directoriesOf visits).ncard
  /-- The languages are those of visited files, with the numbers of these. -/
  languages : ∀ (language : String) (count : Int), (language, count) ∈ layout.languages ↔
    count = (visits.countP fun visit => languageOf? visit.lowerSuffix == some language) ∧ 0 < count
  /-- Languages of equally many files are in the order in which they are visited first. -/
  ranked : layout.languages.Pairwise fun earlier later => later.2 < earlier.2 ∨ (later.2 = earlier.2 ∧
    (visits.filterMap fun visit => languageOf? visit.lowerSuffix).idxOf earlier.1 <
      (visits.filterMap fun visit => languageOf? visit.lowerSuffix).idxOf later.1)
  /-- Key files are in the order of their depths, then of their paths. -/
  keyFiles : ∃ sorted : List Visit, sorted.Perm (visits.filter isKeyFile) ∧
    layout.keyFiles = sorted.map Visit.path ∧
      sorted.Pairwise fun earlier later => earlier.directories.length < later.directories.length ∨
        (earlier.directories.length = later.directories.length ∧ earlier.path ≤ later.path)

/-- The structure of a checkout counts what a walk over it visits. -/
theorem counts_ofCheckout {checkout : Checkout} (sound : checkout.IsSound) :
    Counts (Structure.ofCheckout checkout) checkout.visits where
  files := rfl
  directories := by
    refine congrArg Int.ofNat (distinctCount_directories fun visit visited name isName => ?_)
    exact (Checkout.named_of_mem_visits sound visited name (List.mem_append_left _ isName)).whole
  languages language count := by
    unfold Structure.ofCheckout
    rw [List.mem_map]
    constructor
    · rintro ⟨⟨name, times⟩, isTallied, isEntry⟩
      obtain ⟨rfl, rfl⟩ := Prod.mk.inj isEntry
      obtain ⟨isCount, some⟩ := mem_mostCommon.mp isTallied
      rw [List.count_filterMap] at isCount
      exact ⟨congrArg Int.ofNat isCount, Int.ofNat_lt.mpr some⟩
    · rintro ⟨rfl, some⟩
      refine ⟨(language, _), mem_mostCommon.mpr ⟨List.count_filterMap.symm, Int.ofNat_lt.mp some⟩, rfl⟩
  ranked := by
    refine List.pairwise_map.mpr ((pairwise_mostCommon _).imp fun inOrder => ?_)
    exact inOrder.imp Int.ofNat_lt.mpr (And.imp_left Int.ofNat_inj.mpr)
  keyFiles := by
    refine sortByDepth_paths fun visit isKey name isName => ?_
    exact (Checkout.named_of_mem_visits sound (List.mem_filter.mp isKey).1 name isName).whole

/-- Whether the kind of an entry at the top of a checkout that is neither hidden nor generated cannot be told, as it
is a link to a path that is too long. -/
def IsObstructedBy (checkout : Checkout) (name : String) : Prop :=
  ∃ place node, checkout.directory? = some place ∧ (name, node) ∈ place.entries ∧ Files.isEntered name = true ∧
    place.isOverlong (name, node) = true

/-- What stands in the way of a structure is an entry whose kind cannot be told. -/
theorem obstacle?_account (checkout : Checkout) :
    (Structure.obstacle? checkout = none ∧ ∀ name, ¬IsObstructedBy checkout name) ∨
      ∃ name, Structure.obstacle? checkout = some (checkout.path.child name) ∧ IsObstructedBy checkout name := by
  unfold Structure.obstacle? Checkout.overlongLink?
  cases found : checkout.directory? with
  | none =>
    refine .inl ⟨rfl, fun name ⟨place, _, isFound, _⟩ => ?_⟩
    nomatch found.symm.trans isFound
  | some place =>
    cases isEntry : List.find? (fun entry => Files.isEntered entry.1 && place.isOverlong entry) place.entries with
    | none =>
      refine .inl ⟨by simp [isEntry], fun name ⟨other, node, isFound, member, entered, overlong⟩ => ?_⟩
      obtain rfl := Option.some.inj (found.symm.trans isFound)
      have absent := List.find?_eq_none.mp isEntry _ member
      exact absent (Bool.and_eq_true_iff.mpr ⟨entered, overlong⟩)
    | some entry =>
      have isOne := List.find?_some isEntry
      obtain ⟨entered, overlong⟩ := Bool.and_eq_true_iff.mp isOne
      have member := List.mem_of_find?_eq_some isEntry
      exact .inr ⟨entry.1, by simp [isEntry], place, entry.2, found, member, entered, overlong⟩

/-- A walk visits the entries that are no directories and not hidden, of the directories that are reached through
directories that are neither links nor hidden nor generated, each once, and the structure of a checkout counts them.
That structure is found unless the kind of an entry at the top cannot be told. -/
theorem layoutOf_account (checkout : Checkout) (sound : checkout.IsSound) :
    (∀ visit : Visit, visit ∈ checkout.visits ↔ ∃ place last, checkout.directory? = some place ∧
      place.Reaches visit.directories last ∧ last.Shows visit) ∧
    (checkout.visits.map Visit.key).Nodup ∧
    Counts (Structure.ofCheckout checkout) checkout.visits ∧
    ((Analysis.Running.layoutOf checkout = pure (Structure.ofCheckout checkout) ∧
        ∀ name, ¬IsObstructedBy checkout name) ∨
      ∃ name, Analysis.Running.layoutOf checkout = throw (.overlongPath (checkout.path.child name)) ∧
        IsObstructedBy checkout name) := by
  refine ⟨fun visit => Checkout.mem_visits_iff sound, Checkout.nodup_visits sound, counts_ofCheckout sound, ?_⟩
  unfold Analysis.Running.layoutOf
  rcases obstacle?_account checkout with ⟨none, free⟩ | ⟨name, some, obstructed⟩
  · rw [none]
    exact .inl ⟨rfl, free⟩
  · rw [some]
    exact .inr ⟨name, rfl, obstructed⟩

/-- A directory with a link to a name that is too long, and a source file one directory down. -/
def obstructedPlace : Place :=
  ⟨[("l", .link (Files.lengthyName 256)), ("src", .directory [("b.PY", .file .empty)])], [], Files.linkLimit⟩

/-- The checkout of that directory. -/
def obstructedCheckout : Checkout := ⟨⟨false, ["repo"]⟩, .ok (.directory obstructedPlace)⟩

/-- The source file is visited, but the structure is not found, as the kind of the link cannot be told. -/
theorem obstructedCheckout_stops :
    obstructedCheckout.IsSound ∧ (⟨["src"], "b.PY", some .empty⟩ : Visit) ∈ obstructedCheckout.visits ∧
      ∃ name, Analysis.Running.layoutOf obstructedCheckout =
        throw (.overlongPath (obstructedCheckout.path.child name)) := by
  have isName : Files.IsName "b.PY" := ⟨by decide, by decide, by decide, by decide⟩
  have isLink : Files.IsName "l" := ⟨by decide, by decide, by decide, by decide⟩
  have isDirectory : Files.IsName "src" := ⟨by decide, by decide, by decide, by decide⟩
  have sound : obstructedPlace.IsSound := by
    refine .directory (by simp [obstructedPlace]) ?_ ?_
    · exact List.forall_mem_cons.mpr ⟨isLink, List.forall_mem_singleton.mpr isDirectory⟩
    · refine List.forall_mem_cons.mpr ⟨.link _, List.forall_mem_singleton.mpr ?_⟩
      exact .directory (List.nodup_singleton _) (List.forall_mem_singleton.mpr isName)
        (List.forall_mem_singleton.mpr (.file _))
  have isSound : obstructedCheckout.IsSound := fun place found => Option.some.inj found ▸ sound
  obtain ⟨visited, -, -, result⟩ := layoutOf_account obstructedCheckout isSound
  have shows : (obstructedPlace.inner [("b.PY", .file .empty)]).Shows ⟨["src"], "b.PY", some .empty⟩ := by
    have found : (obstructedPlace.inner [("b.PY", .file .empty)]).follow ["b.PY"] = .ok (.file .empty) := by
      rw [Place.follow_name isName]
      rfl
    have notHidden : Files.isHidden "b.PY" = false := by cbv
    refine ⟨List.mem_singleton_self _, notHidden, ?_, ?_⟩
    · rw [Place.isDirectory, Place.enter?, found]
      rfl
    · rw [Place.content?, Place.enter?, found]
      rfl
  have reaches : obstructedPlace.Reaches ["src"] (obstructedPlace.inner [("b.PY", .file .empty)]) :=
    .within (.tail _ (.head _)) (by cbv) (.here _)
  have obstructs : IsObstructedBy obstructedCheckout "l" := by
    have found : obstructedPlace.entries.find? "l" = some (.link (Files.lengthyName 256)) := by
      simp [obstructedPlace, Files.Entries.find?]
    have tooLong : Files.nameLimit < (Files.lengthyName 256).utf8ByteSize := by
      rw [Files.utf8ByteSize_lengthyName]
      decide
    exact ⟨obstructedPlace, .link (Files.lengthyName 256), rfl, .head _, by cbv,
      Place.isOverlong_link isLink found (by decide) (Files.notMem_lengthyName 256) tooLong⟩
  refine ⟨isSound, (visited _).mpr ⟨obstructedPlace, _, rfl, reaches, shows⟩, ?_⟩
  rcases result with ⟨-, free⟩ | ⟨name, thrown, -⟩
  · exact absurd obstructs (free "l")
  · exact ⟨name, thrown⟩

end RepoSurvey.Survey

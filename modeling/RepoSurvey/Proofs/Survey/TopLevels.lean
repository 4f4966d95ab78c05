import Mathlib
import RepoSurvey.Proofs.Files.Walks
import RepoSurvey.Survey.Structure

/-!
# Top levels of structures

The files of a structure are counted on a walk, but its top level is listed from the directory itself. A walk looks
for names of generated directories among directories only, while the listing leaves out everything of such a name. So
a file at the top that is counted is listed just when it does not have such a name, and every directory at the top in
which a file is counted is listed (`topLevel_account`). Nothing is claimed about the order of the listing.
-/

namespace RepoSurvey.Survey

open Files (Checkout Entries Node Place Visit)

variable {checkout : Checkout} {place : Place} {text name : String}

/-! ## Listings -/

/-- The top level of a directory lists its entries that are neither hidden nor generated, directories with a slash. -/
theorem mem_topLevelOf : text ∈ topLevelOf place ↔ ∃ name ∈ place.entries.map Prod.fst, Files.isEntered name = true ∧
    text = name ++ if place.isDirectory name then "/" else "" := by
  unfold topLevelOf
  simp only [List.mem_mergeSort, List.mem_map, List.mem_filter]
  constructor
  · rintro ⟨entry, ⟨member, entered⟩, rfl⟩
    exact ⟨entry.1, ⟨entry, member, rfl⟩, entered, rfl⟩
  · rintro ⟨_, ⟨entry, member, rfl⟩, entered, rfl⟩
    exact ⟨entry, ⟨member, entered⟩, rfl⟩

/-- The top level of a structure is that of the directory of its checkout. -/
theorem topLevel_eq (found : checkout.directory? = some place) :
    (Structure.ofCheckout checkout).topLevel = topLevelOf place := by
  unfold Structure.ofCheckout
  rw [found]
  rfl

/-- A file is listed under its name, unless it has the name of a generated directory. -/
theorem mem_topLevelOf_file (isEntry : name ∈ place.entries.map Prod.fst) (isName : Files.IsName name)
    (notHidden : Files.isHidden name = false) (notDirectory : place.isDirectory name = false) :
    name ∈ topLevelOf place ↔ name ∉ Files.generatedDirectories := by
  rw [mem_topLevelOf]
  constructor
  · rintro ⟨other, -, entered, isText⟩
    by_cases isDirectory : place.isDirectory other = true
    · -- What is listed with a slash is no name.
      rw [if_pos isDirectory] at isText
      have slash : '/' ∈ name.toList := by
        rw [isText, String.toList_append]
        exact List.mem_append_right _ (List.mem_singleton_self _)
      exact absurd slash isName.whole
    · rw [if_neg isDirectory, String.append_empty] at isText
      rw [isText]
      simpa [Files.isEntered] using (Bool.and_eq_true_iff.mp entered).2
  · intro notGenerated
    have entered : Files.isEntered name = true := by simp [Files.isEntered, notHidden, notGenerated]
    exact ⟨name, isEntry, entered, by rw [notDirectory, if_neg Bool.false_ne_true, String.append_empty]⟩

/-- A directory that is entered is listed with a slash. -/
theorem mem_topLevelOf_directory (sound : place.IsSound) {entries : Entries}
    (member : (name, .directory entries) ∈ place.entries) (entered : Files.isEntered name = true) :
    name ++ "/" ∈ topLevelOf place := by
  have isFile := sound.isFile_eq member
  have isDirectory : place.isDirectory name = true := by
    rw [← Bool.not_eq_false', ← isFile]
    rfl
  exact mem_topLevelOf.mpr ⟨name, List.mem_map_of_mem member, entered, by rw [if_pos isDirectory]⟩

/-! ## Walks and listings -/

/-- What a walk visits at the top of a checkout is shown there. -/
theorem shows_of_visited (sound : checkout.IsSound) {visit : Visit} (visited : visit ∈ checkout.visits)
    (atTop : visit.directories = []) : ∃ place, checkout.directory? = some place ∧ place.Shows visit := by
  obtain ⟨place, last, found, reaches, shows⟩ := (Checkout.mem_visits_iff sound).mp visited
  rw [atTop] at reaches
  cases reaches with
  | here => exact ⟨place, found, shows⟩

/-- The first directory on the way to a visited file is a directory at the top that is entered. -/
theorem directory_of_visited (sound : checkout.IsSound) {visit : Visit} (visited : visit ∈ checkout.visits)
    (below : visit.directories.head? = some name) : ∃ place entries, checkout.directory? = some place ∧
      (name, .directory entries) ∈ place.entries ∧ Files.isEntered name = true := by
  obtain ⟨place, last, found, reaches, -⟩ := (Checkout.mem_visits_iff sound).mp visited
  obtain ⟨path, isPath⟩ := List.head?_eq_some_iff.mp below
  rw [isPath] at reaches
  cases reaches with
  | within member entered onward => exact ⟨place, _, found, member, entered⟩

/-- Of the files that are counted at the top, those are listed there that do not have the name of a generated
directory. Every directory at the top in which a file is counted is listed with a slash. Nothing else is listed than
counted files, and directories with a slash that are neither hidden nor generated, links followed. -/
theorem topLevel_account (checkout : Checkout) (sound : checkout.IsSound) :
    (Structure.ofCheckout checkout).totalFiles = checkout.visits.length ∧
    (∀ visit ∈ checkout.visits, visit.directories = [] ->
      (visit.name ∈ (Structure.ofCheckout checkout).topLevel ↔ visit.name ∉ Files.generatedDirectories)) ∧
    (∀ visit ∈ checkout.visits, ∀ name, visit.directories.head? = some name ->
      name ++ "/" ∈ (Structure.ofCheckout checkout).topLevel) ∧
    ∀ text ∈ (Structure.ofCheckout checkout).topLevel,
      (∃ visit ∈ checkout.visits, visit.directories = [] ∧ visit.name = text) ∨
        ∃ place name, checkout.directory? = some place ∧ place.isDirectory name = true ∧
          Files.isEntered name = true ∧ text = name ++ "/" := by
  refine ⟨rfl, fun visit visited atTop => ?_, fun visit visited name below => ?_, fun text listed => ?_⟩
  · obtain ⟨place, found, shows⟩ := shows_of_visited sound visited atTop
    have named := Checkout.named_of_mem_visits sound visited visit.name (by simp)
    rw [topLevel_eq found]
    exact mem_topLevelOf_file shows.member named shows.notHidden shows.notDirectory
  · obtain ⟨place, entries, found, member, entered⟩ := directory_of_visited sound visited below
    rw [topLevel_eq found]
    exact mem_topLevelOf_directory (sound place found) member entered
  · cases found : checkout.directory? with
    | none =>
      unfold Structure.ofCheckout at listed
      rw [found] at listed
      nomatch listed
    | some place =>
      rw [topLevel_eq found] at listed
      obtain ⟨name, isEntry, entered, rfl⟩ := mem_topLevelOf.mp listed
      by_cases isDirectory : place.isDirectory name = true
      · rw [if_pos isDirectory]
        exact .inr ⟨place, name, rfl, isDirectory, entered, rfl⟩
      · have notHidden : Files.isHidden name = false := by
          simpa using (Bool.and_eq_true_iff.mp entered).1
        rw [if_neg isDirectory, String.append_empty]
        refine .inl ⟨⟨[], name, place.content? name⟩, (Checkout.mem_visits_iff sound).mpr ?_, rfl, rfl⟩
        exact ⟨place, place, found, .here place, isEntry, notHidden, Bool.eq_false_iff.mpr isDirectory, rfl⟩

/-- A directory with a file that has the name of a generated directory, and a file one directory down. -/
def builtPlace : Place := ⟨[("build", .file .empty), ("src", .directory [("a", .file .empty)])], [], Files.linkLimit⟩

/-- The checkout of that directory. -/
def builtCheckout : Checkout := ⟨⟨false, ["repo"]⟩, .ok (.directory builtPlace)⟩

/-- Both files are counted, but of the top level only the directory of the second one is listed. -/
theorem builtCheckout_lacks : builtCheckout.IsSound ∧
    (⟨[], "build", some .empty⟩ : Visit) ∈ builtCheckout.visits ∧
    (⟨["src"], "a", some .empty⟩ : Visit) ∈ builtCheckout.visits ∧
    "build" ∉ (Structure.ofCheckout builtCheckout).topLevel ∧
    "src" ++ "/" ∈ (Structure.ofCheckout builtCheckout).topLevel := by
  have isBuild : Files.IsName "build" := ⟨by decide, by decide, by decide, by decide⟩
  have isDirectory : Files.IsName "src" := ⟨by decide, by decide, by decide, by decide⟩
  have isFile : Files.IsName "a" := ⟨by decide, by decide, by decide, by decide⟩
  have sound : builtPlace.IsSound := by
    refine .directory (by simp [builtPlace]) ?_ ?_
    · exact List.forall_mem_cons.mpr ⟨isBuild, List.forall_mem_singleton.mpr isDirectory⟩
    · refine List.forall_mem_cons.mpr ⟨.file _, List.forall_mem_singleton.mpr ?_⟩
      exact .directory (List.nodup_singleton _) (List.forall_mem_singleton.mpr isFile)
        (List.forall_mem_singleton.mpr (.file _))
  have isSound : builtCheckout.IsSound := fun place found => Option.some.inj found ▸ sound
  have visits : builtCheckout.visits = [⟨[], "build", some .empty⟩, ⟨["src"], "a", some .empty⟩] := by
    cbv
  obtain ⟨-, files, directories, -⟩ := topLevel_account builtCheckout isSound
  rw [visits] at files directories ⊢
  have unlisted := mt (files _ (.head _) rfl).mp (not_not_intro (by decide))
  exact ⟨isSound, .head _, .tail _ (.head _), unlisted, directories _ (.tail _ (.head _)) "src" rfl⟩

end RepoSurvey.Survey

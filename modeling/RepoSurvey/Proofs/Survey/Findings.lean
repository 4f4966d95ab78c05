import RepoSurvey.Proofs.Schema.Faithful
import RepoSurvey.Proofs.Survey.Manifests
import RepoSurvey.Survey.Quality
import RepoSurvey.Survey.Structure

/-!
# Findings and their records

The findings about a checkout are written as sound records: languages are counted once each, measures are
rounded to doubles in canonical form, and dependencies are proper. Structures and measures are read back from
their records; declared dependencies are when all their versions are texts, and only then.
-/

namespace RepoSurvey.Number.Binary64

/-- A number that is rounded to decimal places is in canonical form. -/
theorem isCanonical_roundPlaces (places : Nat) (value : Binary64) : (value.roundPlaces places).IsCanonical := by
  cases value with
  | finite negative significand exponent => exact isCanonical_ofRatio _ _ (Nat.pow_pos (by decide))
  | infinite negative => trivial
  | nan => trivial

/-- Zero is in canonical form. -/
theorem isCanonical_zero : zero.IsCanonical := ⟨by decide, le_refl _, by decide, .inr rfl⟩

end RepoSurvey.Number.Binary64

namespace RepoSurvey.Survey

open Json (Dictionary)
open Number (Binary64)
open Schema
open Schema.Part (faithful_named restores_named writesSound_named)

/-! ## Tallies -/

/-- A new name is added with a count of one. -/
theorem countOne_of_notMem {counts : List (String × Nat)} {name : String} (isNew : name ∉ counts.map Prod.fst) :
    countOne name counts = counts ++ [(name, 1)] := by
  induction counts with
  | nil => rfl
  | cons entry rest inductionHypothesis =>
    rw [List.map_cons, List.mem_cons, not_or] at isNew
    rw [countOne, if_neg (Ne.symm isNew.1), inductionHypothesis isNew.2]
    rfl

/-- The count of a name that is there goes up by one, and no other count. -/
theorem countOne_of_mem {counts : List (String × Nat)} {name : String} (distinct : (counts.map Prod.fst).Nodup)
    (isOld : name ∈ counts.map Prod.fst) :
    countOne name counts =
      counts.map fun entry => (entry.1, if entry.1 = name then entry.2 + 1 else entry.2) := by
  induction counts with
  | nil => cases isOld
  | cons entry rest inductionHypothesis =>
    obtain ⟨apart, distinct⟩ := List.nodup_cons.mp distinct
    rw [countOne, List.map_cons]
    by_cases same : entry.1 = name
    · have others : ∀ other ∈ rest, (other.1, if other.1 = name then other.2 + 1 else other.2) = other := by
        intro other member
        have differs : other.1 ≠ name := fun isName => apart (same.trans isName.symm ▸ List.mem_map_of_mem member)
        rw [if_neg differs]
      rw [if_pos same, if_pos same, List.map_congr_left others, List.map_id']
    · have isLater := (List.mem_cons.mp isOld).resolve_left (Ne.symm same)
      rw [if_neg same, if_neg same, inductionHypothesis distinct isLater]

/-- A name that is added to a list is a further one when the list does not have it. -/
theorem eraseDups_concat (names : List String) (last : String) :
    (names ++ [last]).eraseDups = if last ∈ names then names.eraseDups else names.eraseDups ++ [last] := by
  rw [List.eraseDups_append]
  split
  · next isOld => simp [List.removeAll, isOld]
  · next isNew => simp [List.removeAll, isNew, List.eraseDups_cons]

/-- Distinct names stand in the order in which they occur first. -/
theorem pairwise_eraseDups (names : List String) :
    names.eraseDups.Pairwise fun earlier later => names.idxOf earlier < names.idxOf later := by
  induction names using List.reverseRecOn with
  | nil => exact .nil
  | append_singleton names last inductionHypothesis =>
    have kept : names.eraseDups.Pairwise fun earlier later =>
        (names ++ [last]).idxOf earlier < (names ++ [last]).idxOf later := by
      refine inductionHypothesis.imp_of_mem fun isEarlier isLater before => ?_
      rw [List.idxOf_append_of_mem (List.mem_eraseDups.mp isEarlier),
        List.idxOf_append_of_mem (List.mem_eraseDups.mp isLater)]
      exact before
    rw [eraseDups_concat]
    split
    · exact kept
    · next isNew =>
      refine List.pairwise_append.mpr ⟨kept, List.pairwise_singleton _ _, fun earlier isEarlier later isLast => ?_⟩
      obtain rfl := List.mem_singleton.mp isLast
      have isEarlier := List.mem_eraseDups.mp isEarlier
      rw [List.idxOf_append_of_mem isEarlier, List.idxOf_append, if_neg isNew]
      exact Nat.lt_of_lt_of_le (List.idxOf_lt_length_of_mem isEarlier) (Nat.le_add_left _ _)

/-- Distinct names are distinct. -/
theorem nodup_eraseDups (names : List String) : names.eraseDups.Nodup :=
  (pairwise_eraseDups names).imp fun before same => absurd (same ▸ before) (Nat.lt_irrefl _)

/-- Names are tallied once each, in the order in which they occur first, with the number of times that they occur. -/
theorem tally_eq (names : List String) :
    tally names = names.eraseDups.map fun name => (name, names.count name) := by
  induction names using List.reverseRecOn with
  | nil => rfl
  | append_singleton names last inductionHypothesis =>
    have isTally : tally (names ++ [last]) = countOne last (tally names) := by
      rw [tally, List.foldl_append]
      rfl
    have isNames : (tally names).map Prod.fst = names.eraseDups := by
      rw [inductionHypothesis, List.map_map]
      exact List.map_id' _
    rw [isTally, eraseDups_concat]
    by_cases isOld : last ∈ names
    · rw [countOne_of_mem (isNames ▸ nodup_eraseDups names) (isNames ▸ List.mem_eraseDups.mpr isOld), inductionHypothesis,
        List.map_map, if_pos isOld]
      refine List.map_congr_left fun name _ => ?_
      by_cases isLast : name = last
      · simp [isLast]
      · simp [isLast, Ne.symm isLast]
    · rw [countOne_of_notMem (isNames ▸ mt List.mem_eraseDups.mp isOld), inductionHypothesis, if_neg isOld,
        List.map_append]
      congr 1
      · refine List.map_congr_left fun name isName => ?_
        have differs : last ≠ name := fun same => isOld (same ▸ List.mem_eraseDups.mp isName)
        simp [differs]
      · simp [List.count_eq_zero.mpr isOld]

/-- Names are counted once each. -/
theorem nodup_tally (names : List String) : ((tally names).map Prod.fst).Nodup := by
  rw [tally_eq, List.map_map]
  exact (List.map_id' names.eraseDups).symm ▸ nodup_eraseDups names

/-! ## Structures -/

/-- The structure of a checkout is written as a sound value. -/
theorem writesSound_structure (checkout : Files.Checkout) :
    Structure.codec.WritesSound (Structure.ofCheckout checkout) := by
  have distinct : ((Structure.ofCheckout checkout).languages.map Prod.fst).Nodup := by
    unfold Structure.ofCheckout mostCommon
    dsimp only
    rw [List.map_map]
    exact ((List.mergeSort_perm _ _).map _).nodup_iff.mpr (nodup_tally _)
  have languages := Codec.writesSound_dictionary distinct fun _ _ => Codec.faithful_integer.writesSound _
  have number := Codec.faithful_integer.writesSound
  have texts := Codec.faithful_text.list.writesSound
  exact Codec.writesSound_record (by decide)
    ((writesSound_named (number _)).map Structure.mk |>.seq (writesSound_named (number _)) |>.seq
      (writesSound_named (number _)) |>.seq (writesSound_named languages) |>.seq
      (writesSound_named (texts _)) |>.seq (writesSound_named (texts _)))

/-- Structures are read back. -/
theorem restores_structure (layout : Structure) : Structure.codec.Restores layout :=
  Codec.restores_record (by decide) (by decide)
    ((restores_named (Codec.restores_integer _)).map Structure.mk |>.seq
      (restores_named (Codec.restores_integer _)) |>.seq (restores_named (Codec.restores_integer _)) |>.seq
      (restores_named (Codec.restores_dictionary fun _ _ => Codec.restores_integer _)) |>.seq
      (restores_named (Codec.faithful_text.list.restores _)) |>.seq
      (restores_named (Codec.faithful_text.list.restores _)))

/-! ## Dependencies -/

/-- Dictionaries of sound values are written as sound values. -/
theorem writesSound_versions {versions : Dictionary} (proper : versions.IsProper) :
    versionsCodec.WritesSound versions := Json.sound_finite _ (Dictionary.sound_toMembers proper.sound)

/-- Dictionaries of texts are read back. -/
theorem restores_versions {dictionary : Dictionary} (proper : dictionary.IsProper)
    (textual : dictionary.IsTextual) : versionsCodec.Restores dictionary := by
  obtain ⟨versions, distinct, rfl⟩ := Dictionary.exists_versions textual proper.distinct
  have members : Dictionary.toMembers (versions.map fun version => (.str version.1, .str version.2)) =
      versions.map fun version => (version.1, .str version.2) := by
    unfold Dictionary.toMembers
    rw [List.foldl_map]
    refine (List.foldl_map (f := fun version : String × String => (version.1, Json.str version.2))
      (g := fun members member => Json.assign member.1 member.2 members)).symm.trans ?_
    refine Json.mergeMembers_of_nodup ?_
    rwa [List.map_map]
  have finite : Json.membersAreFinite (versions.map fun version => (version.1, Json.str version.2)) = true := by
    clear members distinct proper textual
    induction versions with
    | nil => rfl
    | cons version versions inductionHypothesis => exact inductionHypothesis
  have entries : (Codec.dictionary .text).Restores versions := Codec.restores_dictionary fun _ _ => rfl
  unfold Codec.Restores versionsCodec
  dsimp only
  rw [members, Json.finiteMembers_of_membersAreFinite _ finite]
  exact Checked.map_eq_valid.mpr ⟨versions, entries, rfl⟩

/-- Only dictionaries of texts are read back. -/
theorem isTextual_of_restores {dictionary : Dictionary} (restores : versionsCodec.Restores dictionary) :
    dictionary.IsTextual := by
  obtain ⟨versions, -, rfl⟩ := Checked.map_eq_valid.mp restores
  intro entry member
  obtain ⟨version, -, rfl⟩ := List.mem_map.mp member
  exact ⟨version.1, version.2, rfl⟩

/-- Proper dependencies are written as a sound value. -/
theorem writesSound_dependencies {found : Dependencies} (proper : found.IsProper) :
    Dependencies.codec.WritesSound found := by
  have texts := Codec.faithful_text.list.writesSound
  exact Codec.writesSound_record (by decide)
    ((writesSound_named (texts _)).map Dependencies.mk |>.seq (writesSound_named (texts _)) |>.seq
      (writesSound_named (writesSound_versions proper.dependencies)) |>.seq
      (writesSound_named (writesSound_versions proper.devDependencies)))

/-- Whether the versions of all dependencies are texts. -/
def Dependencies.IsTextual (found : Dependencies) : Prop :=
  found.dependencies.IsTextual ∧ found.devDependencies.IsTextual

/-- Proper dependencies are read back when all versions are texts, and only then. -/
theorem restores_dependencies_iff {found : Dependencies} (proper : found.IsProper) :
    Dependencies.codec.Restores found ↔ found.IsTextual := by
  have texts := Codec.faithful_text.list.restores
  constructor
  · intro restores
    have distinct := (writesSound_dependencies proper).1
    have parts := Codec.read_of_record restores
    simp only [Part.read_seq_eq_valid, Part.read_map_eq_valid] at parts
    obtain ⟨_, devDependencies, ⟨_, dependencies, ⟨_, _, ⟨_, -, rfl⟩, -, rfl⟩, read, rfl⟩, devRead, rfl⟩ := parts
    exact ⟨isTextual_of_restores (Part.read_of_read_named distinct (by simp) (Part.unnamed_of_eq rfl) read),
      isTextual_of_restores (Part.read_of_read_named distinct (by simp) (Part.unnamed_of_eq rfl) devRead)⟩
  · intro textual
    exact Codec.restores_record (by decide) (by decide)
      ((restores_named (texts _)).map Dependencies.mk |>.seq (restores_named (texts _)) |>.seq
        (restores_named (restores_versions proper.dependencies textual.1)) |>.seq
        (restores_named (restores_versions proper.devDependencies textual.2)))

/-! ## Measures -/

/-- Complexities are kept by their codec. -/
theorem faithful_complexity : FileComplexity.codec.IsFaithful :=
  Codec.faithful_record (by decide) (by decide)
    ((faithful_named Codec.faithful_text).map FileComplexity.mk |>.seq (faithful_named Codec.faithful_integer)
      |>.seq (faithful_named Codec.faithful_integer))

/-- Findings are kept by their codec. -/
theorem faithful_finding : Finding.codec.IsFaithful :=
  Codec.faithful_record (by decide) (by decide)
    ((faithful_named Codec.faithful_text).map Finding.mk |>.seq (faithful_named Codec.faithful_integer)
      |>.seq (faithful_named Codec.faithful_text))

/-- Whether all measures that are doubles are in canonical form. -/
structure Quality.IsCanonical (quality : Quality) : Prop where
  averageFileLines : quality.averageFileLines.IsCanonical
  averageComplexity : quality.averageComplexity.IsCanonical
  duplicateLineRatio : quality.duplicateLineRatio.IsCanonical
  maintainabilityIndex : quality.maintainabilityIndex.IsCanonical

/-- The measures of a checkout are in canonical form. -/
theorem isCanonical_quality (checkout : Files.Checkout) : (Quality.ofCheckout checkout).IsCanonical := by
  unfold Quality.ofCheckout Quality.ofFiles
  split
  · exact ⟨Binary64.isCanonical_zero, Binary64.isCanonical_zero, Binary64.isCanonical_zero,
      Binary64.isCanonical_ofInt 100⟩
  · exact ⟨Binary64.isCanonical_roundPlaces _ _, Binary64.isCanonical_roundPlaces _ _,
      Binary64.isCanonical_roundPlaces _ _, Binary64.isCanonical_roundPlaces _ _⟩

/-- Measures in canonical form are written as a sound value. -/
theorem writesSound_quality {quality : Quality} (canonical : quality.IsCanonical) :
    Quality.codec.WritesSound quality := by
  have number := Codec.faithful_integer.writesSound
  exact Codec.writesSound_record (by decide)
    ((writesSound_named (number _)).map Quality.mk |>.seq (writesSound_named (number _)) |>.seq
      (writesSound_named (Codec.writesSound_number canonical.averageFileLines)) |>.seq
      (writesSound_named (Codec.writesSound_number canonical.averageComplexity)) |>.seq
      (writesSound_named (number _)) |>.seq (writesSound_named (faithful_complexity.list.writesSound _)) |>.seq
      (writesSound_named (Codec.writesSound_number canonical.duplicateLineRatio)) |>.seq
      (writesSound_named (Codec.writesSound_number canonical.maintainabilityIndex)) |>.seq
      (writesSound_named (faithful_finding.list.writesSound _)))

/-- Measures are read back. -/
theorem restores_quality (quality : Quality) : Quality.codec.Restores quality :=
  Codec.restores_record (by decide) (by decide)
    ((restores_named (Codec.restores_integer _)).map Quality.mk |>.seq
      (restores_named (Codec.restores_integer _)) |>.seq (restores_named (Codec.restores_number _)) |>.seq
      (restores_named (Codec.restores_number _)) |>.seq (restores_named (Codec.restores_integer _)) |>.seq
      (restores_named (faithful_complexity.list.restores _)) |>.seq
      (restores_named (Codec.restores_number _)) |>.seq (restores_named (Codec.restores_number _)) |>.seq
      (restores_named (faithful_finding.list.restores _)))

end RepoSurvey.Survey

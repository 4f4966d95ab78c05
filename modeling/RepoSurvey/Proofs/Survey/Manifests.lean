import RepoSurvey.Proofs.Json.Soundness
import RepoSurvey.Proofs.Outcomes
import RepoSurvey.Proofs.Schema.Restoring
import RepoSurvey.Survey.Dependencies

/-!
# What manifests declare

Whatever the manifests of a checkout hold, the names of the dependencies that are found are told apart, and
their versions are sound values: `isProper_ofCheckout`. The versions need not be texts, as those of a package
manifest are taken as they stand there.
-/

namespace RepoSurvey.Json

/-! ## Dictionaries -/

namespace Dictionary

variable {dictionary : Dictionary} {name value : Json}

/-- Whether the names of a dictionary are told apart and its values are sound. -/
structure IsProper (dictionary : Dictionary) : Prop where
  distinct : (dictionary.map Prod.fst).Pairwise fun left right => sameName left right = false
  sound : ∀ entry ∈ dictionary, entry.2.Sound

/-- A dictionary without entries is proper. -/
theorem isProper_nil : IsProper [] := ⟨List.Pairwise.nil, List.forall_mem_nil _⟩

/-- Putting a value leaves the names as they are, or adds one that was missing. -/
theorem names_put (name value : Json) (dictionary : Dictionary) :
    (dictionary.put name value).map Prod.fst = dictionary.map Prod.fst ∨
      (dictionary.put name value).map Prod.fst = dictionary.map Prod.fst ++ [name] ∧
        ∀ other ∈ dictionary.map Prod.fst, sameName other name = false := by
  induction dictionary with
  | nil => exact .inr ⟨rfl, List.forall_mem_nil _⟩
  | cons entry entries inductionHypothesis =>
    obtain ⟨other, old⟩ := entry
    unfold put
    by_cases same : sameName other name = true
    · rw [if_pos same]
      exact .inl rfl
    · rw [if_neg same]
      simp only [List.map_cons, List.cons_append, List.forall_mem_cons]
      refine inductionHypothesis.imp (congrArg _) fun added => ?_
      exact ⟨congrArg _ added.1, Bool.eq_false_iff.mpr same, added.2⟩

/-- An entry after a value was put was there before, or it holds the value. -/
theorem mem_put {entry : Json × Json} (member : entry ∈ dictionary.put name value) :
    entry ∈ dictionary ∨ entry.2 = value := by
  induction dictionary with
  | nil =>
    obtain rfl := List.mem_singleton.mp member
    exact .inr rfl
  | cons first entries inductionHypothesis =>
    obtain ⟨other, old⟩ := first
    unfold put at member
    split at member
    · rcases List.mem_cons.mp member with rfl | member
      · exact .inr rfl
      · exact .inl (.tail _ member)
    · rcases List.mem_cons.mp member with rfl | member
      · exact .inl (.head _)
      · exact (inductionHypothesis member).imp_left (.tail _)

/-- Putting a sound value keeps a dictionary proper. -/
theorem IsProper.put (proper : dictionary.IsProper) (sound : value.Sound) (name : Json) :
    (dictionary.put name value).IsProper where
  distinct := by
    rcases names_put name value dictionary with same | ⟨added, apart⟩
    · exact same ▸ proper.distinct
    · rw [added, List.pairwise_append]
      refine ⟨proper.distinct, List.pairwise_singleton _ _, fun other member last isLast => ?_⟩
      exact List.mem_singleton.mp isLast ▸ apart other member
  sound entry member := by
    rcases mem_put member with member | rfl
    · exact proper.sound entry member
    · exact sound

/-- The members that a dictionary of sound values is written as are sound. -/
theorem sound_toMembers (sound : ∀ entry ∈ dictionary, entry.2.Sound) : (Json.obj dictionary.toMembers).Sound := by
  have merged : dictionary.toMembers =
      mergeMembers (dictionary.map fun entry => (memberName entry.1, entry.2)) := by
    unfold toMembers mergeMembers
    rw [List.foldl_map]
  rw [merged]
  refine sound_mergeMembers (soundMembers_iff.mpr fun member isMember => ?_)
  obtain ⟨entry, isEntry, rfl⟩ := List.mem_map.mp isMember
  exact sound entry isEntry

/-- Whether all names and values of a dictionary are texts. -/
def IsTextual (dictionary : Dictionary) : Prop :=
  ∀ entry ∈ dictionary, ∃ name version : String, entry = (.str name, .str version)

/-- Names that are the same text are one name. -/
theorem sameName_str (name : String) : sameName (.str name) (.str name) = true := by
  simp [sameName, exactValue?]

/-- A proper dictionary of texts lists texts under distinct texts. -/
theorem exists_versions (textual : dictionary.IsTextual)
    (distinct : (dictionary.map Prod.fst).Pairwise fun left right => sameName left right = false) :
    ∃ versions : List (String × String), (versions.map Prod.fst).Nodup ∧
      dictionary = versions.map fun version => (.str version.1, .str version.2) := by
  induction dictionary with
  | nil => exact ⟨[], List.nodup_nil, rfl⟩
  | cons entry entries inductionHypothesis =>
    obtain ⟨⟨name, version, rfl⟩, later⟩ := List.forall_mem_cons.mp textual
    rw [List.map_cons, List.pairwise_cons] at distinct
    obtain ⟨versions, nodup, rfl⟩ := inductionHypothesis later distinct.2
    refine ⟨(name, version) :: versions, List.nodup_cons.mpr ⟨fun member => ?_, nodup⟩, rfl⟩
    obtain ⟨other, isOther, rfl⟩ := List.mem_map.mp member
    have apart := distinct.1 (.str other.1) (by
      rw [List.map_map]
      exact List.mem_map_of_mem (f := fun version : String × String => Json.str version.1) isOther)
    rw [sameName_str] at apart
    nomatch apart

end Dictionary

/-! ## Parts of sound values -/

/-- The parts of a sound value are sound. -/
theorem sound_parts {value : Json} {parts : List Json} (sound : value.Sound) (are : value.parts? = some parts) :
    ∀ part ∈ parts, part.Sound := by
  cases value with
  | arr items =>
    obtain rfl := Option.some.inj are
    exact soundItems_iff.mp sound
  | obj members =>
    obtain rfl := Option.some.inj are
    intro part member
    obtain ⟨_, -, rfl⟩ := List.mem_map.mp member
    trivial
  | str text =>
    obtain rfl := Option.some.inj are
    intro part member
    obtain ⟨_, -, rfl⟩ := List.mem_map.mp member
    trivial
  | _ => nomatch are

/-- The values of pairs of sound parts are sound. -/
theorem sound_pairsFrom {entries : List Json} (sound : ∀ entry ∈ entries, entry.Sound) (position : Nat) :
    ∀ pair ∈ (Dictionary.pairsFrom position entries).1, pair.2.Sound := by
  induction entries generalizing position with
  | nil => exact List.forall_mem_nil _
  | cons entry entries inductionHypothesis =>
    obtain ⟨first, later⟩ := List.forall_mem_cons.mp sound
    unfold Dictionary.pairsFrom
    split
    · exact List.forall_mem_nil _
    · next name value are =>
      have isSound := sound_parts first are value (.tail _ (.head _))
      split
      · exact List.forall_mem_nil _
      · exact List.forall_mem_nil _
      · exact List.forall_mem_cons.mpr ⟨isSound, inductionHypothesis later _⟩
    · exact List.forall_mem_nil _

/-- The values that a sound value lists are sound. -/
theorem sound_entriesOf {value : Json} (sound : value.Sound) :
    ∀ entry ∈ (Dictionary.entriesOf value).1, entry.2.Sound := by
  unfold Dictionary.entriesOf
  split
  · next members =>
    intro entry member
    obtain ⟨named, isMember, rfl⟩ := List.mem_map.mp member
    exact soundMembers_iff.mp sound.2 named isMember
  · split
    · exact List.forall_mem_nil _
    · next parts are =>
      refine sound_pairsFrom (sound_parts sound ?_) 0
      unfold Json.parts at are
      split at are
      · next found => exact found.trans (congrArg some (Except.ok.inj are))
      · nomatch are

end RepoSurvey.Json

namespace RepoSurvey.Survey

open Json (Dictionary)

namespace Dependencies

/-- Whether the dependencies of both kinds are proper. -/
structure IsProper (found : Dependencies) : Prop where
  dependencies : found.dependencies.IsProper
  devDependencies : found.devDependencies.IsProper

variable {found : Dependencies} {development : Bool}

/-- No dependencies are proper. -/
theorem isProper_empty : empty.IsProper := ⟨Dictionary.isProper_nil, Dictionary.isProper_nil⟩

/-- A dependency with a sound version keeps dependencies proper. -/
theorem IsProper.withDependency (proper : found.IsProper) {version : Json} (sound : version.Sound)
    (name : Json) : (found.withDependency development name version).IsProper := by
  unfold Dependencies.withDependency
  split
  · exact ⟨proper.dependencies, proper.devDependencies.put sound name⟩
  · exact ⟨proper.dependencies.put sound name, proper.devDependencies⟩

/-- A dependency whose version is a text keeps dependencies proper. -/
theorem IsProper.withText (proper : found.IsProper) (name version : String) :
    (found.withDependency development (.str name) (.str version)).IsProper :=
  proper.withDependency (show Json.Sound (.str version) from trivial) _

/-- A manifest keeps dependencies proper. -/
theorem IsProper.withManifest (proper : found.IsProper) (name : String) : (found.withManifest name).IsProper :=
  ⟨proper.dependencies, proper.devDependencies⟩

/-- An ecosystem keeps dependencies proper. -/
theorem IsProper.withEcosystem (proper : found.IsProper) (name : String) : (found.withEcosystem name).IsProper :=
  ⟨proper.dependencies, proper.devDependencies⟩

/-- Dependencies with sound versions keep dependencies proper, one after another. -/
theorem IsProper.foldl {α : Type} {name version : α -> Json} {entries : List α} (proper : found.IsProper)
    (sound : ∀ entry ∈ entries, (version entry).Sound) : (entries.foldl (fun found entry =>
      found.withDependency development (name entry) (version entry)) found).IsProper := by
  induction entries generalizing found with
  | nil => exact proper
  | cons entry entries inductionHypothesis =>
    obtain ⟨first, later⟩ := List.forall_mem_cons.mp sound
    exact inductionHypothesis (proper.withDependency first _) later

end Dependencies

open Dependencies (IsProper)

variable {found after : Dependencies} {development : Bool}

/-! ## Manifests in JSON and in lines -/

/-- Declared versions that are sound keep dependencies proper. -/
theorem isProper_noteDeclared {declared : Option Json} {noted : Noted} (proper : found.IsProper)
    (sound : ∀ value ∈ declared, value.Sound) (notes : noteDeclared development found declared = .ok noted) :
    noted.found.IsProper := by
  unfold noteDeclared at notes
  split at notes
  · obtain rfl := Except.ok.inj notes
    exact proper
  · next value isValue =>
    have isSound := sound value (Option.filter_eq_some_iff.mp isValue).1
    have listed := @IsProper.foldl _ development _ Prod.fst _ _ proper (Json.sound_entriesOf isSound)
    dsimp only at notes
    split at notes
    · obtain rfl := Except.ok.inj notes
      exact listed
    · obtain rfl := Except.ok.inj notes
      exact listed
    · nomatch notes

/-- The members of a sound value that declare versions keep dependencies proper. -/
theorem isProper_noteMembers {data : Json} (sound : data.Sound) {wanted : List (String × Bool)}
    (proper : found.IsProper) (notes : noteMembers data wanted found = .ok after) : after.IsProper := by
  induction wanted generalizing found with
  | nil => exact Except.ok.inj notes ▸ proper
  | cons first wanted inductionHypothesis =>
    obtain ⟨name, development⟩ := first
    unfold noteMembers at notes
    split at notes
    · nomatch notes
    · next declared isDeclared =>
      split at notes
      · nomatch notes
      · next noted declares =>
        have isNoted : noted.found.IsProper := by
          refine isProper_noteDeclared proper (fun value isValue => ?_) declares
          cases data with
          | obj members =>
            have isMember : Json.lookup name members = some value := (Except.ok.inj isDeclared).trans isValue
            exact Json.soundMembers_iff.mp sound.2 _ (Schema.mem_of_lookup isMember)
          | _ => nomatch isDeclared
        split at notes
        · exact inductionHypothesis isNoted notes
        · exact Except.ok.inj notes ▸ isNoted

/-- A package manifest keeps dependencies proper. -/
theorem isProper_notePackage {content : ByteArray} (proper : found.IsProper)
    (notes : notePackage content found = .ok after) : after.IsProper := by
  unfold notePackage at notes
  split at notes
  · exact Except.ok.inj notes ▸ proper
  · split at notes
    · exact Except.ok.inj notes ▸ proper
    · next read =>
      exact isProper_noteMembers (Json.sound_readAll read) ((proper.withManifest _).withEcosystem _) notes

/-- Requirement files keep dependencies proper. -/
theorem isProper_noteAllRequirements {files : List (String × Option ByteArray)} (proper : found.IsProper)
    (notes : noteAllRequirements files found = .ok after) : after.IsProper := by
  induction files generalizing found with
  | nil => exact Except.ok.inj notes ▸ proper
  | cons file files inductionHypothesis =>
    obtain ⟨name, - | content⟩ := file
    · exact inductionHypothesis proper notes
    · unfold noteAllRequirements at notes
      split at notes
      · nomatch notes
      · next noted isNoted =>
        refine inductionHypothesis ?_ notes
        unfold noteRequirements at isNoted
        split at isNoted
        · nomatch isNoted
        · exact Except.ok.inj isNoted ▸ (proper.withManifest name).foldl fun _ _ => trivial

/-- A module file keeps dependencies proper. -/
theorem isProper_noteModules {content : ByteArray} (proper : found.IsProper)
    (notes : noteModules content found = .ok after) : after.IsProper := by
  unfold noteModules at notes
  split at notes
  · nomatch notes
  · exact Except.ok.inj notes ▸ ((proper.withManifest _).withEcosystem _).foldl fun _ _ => trivial

/-! ## Manifests in TOML -/

/-- Requirements given as texts keep dependencies proper. -/
theorem isProper_noteTexts {lines : List Toml.Value} (proper : found.IsProper)
    (notes : noteTexts development lines found = .ok after) : after.IsProper := by
  induction lines generalizing found with
  | nil => exact Except.ok.inj notes ▸ proper
  | cons line lines inductionHypothesis =>
    unfold noteTexts at notes
    split at notes
    · next same => nomatch same
    · next text later same =>
      obtain ⟨rfl, rfl⟩ := List.cons.inj same
      exact inductionHypothesis (proper.withText _ _) notes
    · nomatch notes

/-- Lists of requirements keep dependencies proper. -/
theorem isProper_noteExtras {extras : List Toml.Value} (proper : found.IsProper)
    (notes : noteExtras extras found = .ok after) : after.IsProper := by
  induction extras generalizing found with
  | nil => exact Except.ok.inj notes ▸ proper
  | cons extra extras inductionHypothesis =>
    obtain ⟨parts, -, notes⟩ := bind_eq_ok.mp notes
    obtain ⟨noted, isNoted, notes⟩ := bind_eq_ok.mp notes
    exact inductionHypothesis (isProper_noteTexts proper isNoted) notes

/-- A project table keeps dependencies proper. -/
theorem isProper_noteProject {data : Toml.Members} (proper : found.IsProper)
    (notes : noteProject data found = .ok after) : after.IsProper := by
  unfold noteProject at notes
  obtain ⟨declared, -, notes⟩ := bind_eq_ok.mp notes
  obtain ⟨parts, -, notes⟩ := bind_eq_ok.mp notes
  obtain ⟨noted, isNoted, notes⟩ := bind_eq_ok.mp notes
  obtain ⟨extras, -, notes⟩ := bind_eq_ok.mp notes
  dsimp only at notes
  split at notes
  · exact isProper_noteExtras (isProper_noteTexts proper isNoted) notes
  · nomatch notes

/-- The crates of a table keep dependencies proper. -/
theorem isProper_noteCrates {members : Toml.Members} (proper : found.IsProper)
    (notes : noteCrates development members found = .ok after) : after.IsProper := by
  induction members generalizing found with
  | nil => exact Except.ok.inj notes ▸ proper
  | cons member members inductionHypothesis =>
    obtain ⟨version, -, notes⟩ := bind_eq_ok.mp notes
    exact inductionHypothesis (proper.withText _ _) notes

/-- The crates of sections keep dependencies proper. -/
theorem isProper_noteSections {data : Toml.Members} {sections : List (String × Bool)} (proper : found.IsProper)
    (notes : noteSections data sections found = .ok after) : after.IsProper := by
  induction sections generalizing found with
  | nil => exact Except.ok.inj notes ▸ proper
  | cons first sections inductionHypothesis =>
    unfold noteSections at notes
    split at notes
    · exact inductionHypothesis proper notes
    · obtain ⟨noted, isNoted, notes⟩ := bind_eq_ok.mp notes
      exact inductionHypothesis (isProper_noteCrates proper isNoted) notes
    · nomatch notes

/-- A manifest in TOML keeps dependencies proper when what is made of its data does. -/
theorem isProper_noteToml {name : String} {content : ByteArray}
    {note : Toml.Members -> Dependencies -> Except ManifestProblem Dependencies}
    (keeps : ∀ {data found after}, IsProper found -> note data found = .ok after -> IsProper after)
    (proper : found.IsProper) (notes : noteToml name note content found = .ok after) : after.IsProper := by
  unfold noteToml at notes
  split at notes
  · nomatch notes
  · split at notes
    · exact Except.ok.inj notes ▸ proper
    · nomatch notes
    · exact keeps (proper.withManifest name) notes

/-- A crate manifest keeps dependencies proper. -/
theorem isProper_noteCrateManifest {data : Toml.Members} (proper : found.IsProper)
    (notes : noteCrateManifest data found = .ok after) : after.IsProper :=
  isProper_noteSections (proper.withEcosystem _) notes

/-! ## All manifests -/

/-- A file keeps dependencies proper when what is made of its content does. -/
theorem isProper_noteFile {checkout : Files.Checkout} {name : String}
    {note : ByteArray -> Dependencies -> Except ManifestProblem Dependencies}
    (keeps : ∀ {content found after}, IsProper found -> note content found = .ok after -> IsProper after)
    (proper : found.IsProper) (notes : noteFile checkout name note found = .ok after) : after.IsProper := by
  unfold noteFile at notes
  split at notes
  · nomatch notes
  · exact Except.ok.inj notes ▸ proper
  · exact keeps proper notes

/-- The dependencies that are declared in a checkout are proper. -/
theorem isProper_ofCheckout {checkout : Files.Checkout} (are : Dependencies.ofCheckout checkout = .ok found) :
    found.IsProper := by
  unfold Dependencies.ofCheckout at are
  obtain ⟨package, isPackage, are⟩ := bind_eq_ok.mp are
  obtain ⟨required, isRequired, are⟩ := bind_eq_ok.mp are
  obtain ⟨project, isProject, are⟩ := bind_eq_ok.mp are
  obtain ⟨modules, isModules, are⟩ := bind_eq_ok.mp are
  have packageProper := isProper_noteFile isProper_notePackage Dependencies.isProper_empty isPackage
  have projectProper := isProper_noteFile (isProper_noteToml isProper_noteProject)
    (isProper_noteAllRequirements packageProper isRequired) isProject
  have ecosystemProper : (noteRequirementEcosystem project).IsProper := by
    unfold noteRequirementEcosystem
    split
    · exact projectProper.withEcosystem _
    · exact projectProper
  have modulesProper := isProper_noteFile isProper_noteModules ecosystemProper isModules
  exact isProper_noteFile (isProper_noteToml isProper_noteCrateManifest) modulesProper are

end RepoSurvey.Survey

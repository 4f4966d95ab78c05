import RepoSurvey.Proofs.Survey.Declarations

/-!
# Dependencies from manifests

The dependencies of a checkout are put together from what its manifests declare, each read for itself
(`ofCheckout_eq`): manifests and dependencies in turn, every ecosystem once. A manifest that is skipped leaves no
trace, and the first one that cannot be dealt with makes the survey fail.
-/

namespace RepoSurvey.Survey

open Files (Checkout)
open Json (Dictionary)

/-! ## Manifests -/

/-- A manifest at the top of a checkout. The content of a file of requirements is missing where its name leads to no
file. -/
inductive Manifest where
  | package (content : ByteArray)
  | requirements (name : String) (content : Option ByteArray)
  | project (content : ByteArray)
  | modules (content : ByteArray)
  | crates (content : ByteArray)
  /-- A link to a path that is too long. -/
  | overlong (path : Files.Path)

/-- What a manifest in TOML declares, or nothing when it is malformed. -/
def readToml (manifest ecosystem : String) (entries : Toml.Members -> Except ManifestProblem (List Entry))
    (content : ByteArray) : Except ManifestProblem (Option Declaration) :=
  match fileText content with
  | .error fault => .error (.undecodable fault)
  | .ok text =>
    match Toml.readDocument text with
    | .error .malformed => .ok none
    | .error (.overlongInteger digits) => .error (.overlongInteger digits)
    | .ok data => (entries data).map fun entries => some ⟨manifest, ecosystem, entries⟩

/-- What a manifest declares, or nothing when it is skipped. -/
def Manifest.read : Manifest -> Except ManifestProblem (Option Declaration)
  | .package content =>
    match fileText content with
    | .error _ => .ok none
    | .ok text =>
      match Json.readAll text with
      | .error _ => .ok none
      | .ok data => (memberEntries data packageMembers).map fun entries => some ⟨"package.json", "npm", entries⟩
  | .requirements _ none => .ok none
  | .requirements name (some content) =>
    match fileText content with
    | .error fault => .error (.undecodable fault)
    | .ok text => .ok (some ⟨name, "pypi", requirementEntries name text⟩)
  | .project content => readToml "pyproject.toml" "pypi" projectEntries content
  | .modules content =>
    match fileText content with
    | .error fault => .error (.undecodable fault)
    | .ok text => .ok (some ⟨"go.mod", "go", moduleEntries text⟩)
  | .crates content => readToml "Cargo.toml" "cargo" crateEntries content
  | .overlong path => .error (.overlongPath path)

/-- The manifest of a name at the top of a checkout, if there is one. -/
def fileManifest? (checkout : Checkout) (name : String) (manifest : ByteArray -> Manifest) : Option Manifest :=
  match checkout.overlongLink? (· = name) with
  | some path => some (.overlong path)
  | none => (checkout.topFile? name).map manifest

/-- The files of requirements at the top of a checkout. -/
def requirementManifests (checkout : Checkout) : List Manifest :=
  (requirementFiles checkout).map fun file => .requirements file.1 file.2

/-- The manifests at the top of a checkout, in the order in which they are looked at. -/
def manifests (checkout : Checkout) : List Manifest :=
  (fileManifest? checkout "package.json" .package).toList ++ requirementManifests checkout ++
    (fileManifest? checkout "pyproject.toml" .project).toList ++
    (fileManifest? checkout "go.mod" .modules).toList ++ (fileManifest? checkout "Cargo.toml" .crates).toList

namespace Dependencies

/-- Note a manifest and all it declares. -/
def withWhole (found : Dependencies) (declaration : Declaration) : Dependencies :=
  (found.withDeclaration declaration).withEcosystems [declaration.ecosystem]

/-- What declarations come to: manifests and dependencies in turn, and every ecosystem once. -/
def assembled (declarations : List Declaration) : Dependencies :=
  (declarations.foldl withDeclaration empty).withEcosystems (declarations.map (·.ecosystem)).dedup

end Dependencies

/-! ## Single manifests -/

section Single

variable (content : ByteArray) (found : Dependencies)

/-- A package manifest is noted as it reads. -/
theorem notePackage_eq : notePackage content found =
    (Manifest.package content).read.map fun declaration => declaration.elim found found.withWhole := by
  unfold notePackage Manifest.read
  dsimp only
  cases fileText content with
  | error fault => rfl
  | ok text =>
    dsimp only
    cases Json.readAll text with
    | error flaw => rfl
    | ok data =>
      dsimp only
      rw [noteMembers_eq]
      cases memberEntries data packageMembers with
      | error problem => rfl
      | ok entries =>
        exact congrArg Except.ok ((found.withManifest "package.json").withEntries_withEcosystems entries ["npm"])

/-- Files of requirements are noted as they read. -/
theorem noteAllRequirements_eq (checkout : Checkout) : noteAllRequirements (requirementFiles checkout) found =
    ((requirementManifests checkout).filterMapM Manifest.read).map fun declarations =>
      declarations.foldl Dependencies.withDeclaration found := by
  rw [requirementManifests, filterMapM_map]
  refine noteSome_eq noteAllRequirements _ Dependencies.withDeclaration (fun _ => rfl) ?_ _ found
  rintro ⟨name, - | content⟩ files found
  · rfl
  · unfold noteAllRequirements noteRequirements Manifest.read
    dsimp only
    cases fileText content with
    | error fault => rfl
    | ok text =>
      have listed := (found.withManifest name).withEntries_requirements (holds "dev" name || holds "test" name)
      exact congrArg (· >>= noteAllRequirements files) (congrArg Except.ok (listed _).symm)

/-- A module file is noted as it reads. -/
theorem noteModules_eq : noteModules content found =
    (Manifest.modules content).read.map fun declaration => declaration.elim found found.withWhole := by
  unfold noteModules Manifest.read
  dsimp only
  cases fileText content with
  | error fault => rfl
  | ok text =>
    have listed := (found.withManifest "go.mod").withEntries_withEcosystems (moduleEntries text) ["go"]
    rw [moduleEntries, Dependencies.withEntries, List.foldl_map] at listed
    exact congrArg Except.ok listed

/-- A manifest in TOML is noted as it reads when its data is. -/
theorem noteToml_eq {manifest : String} (ecosystem : String)
    {note : Toml.Members -> Dependencies -> Except ManifestProblem Dependencies}
    {entries : Toml.Members -> Except ManifestProblem (List Entry)}
    {put : Dependencies -> Declaration -> Dependencies}
    (notes : ∀ data found, note data (Dependencies.withManifest found manifest) =
      (entries data).map fun entries => put found ⟨manifest, ecosystem, entries⟩) :
    noteToml manifest note content found =
      (readToml manifest ecosystem entries content).map fun declaration => declaration.elim found (put found) := by
  unfold noteToml readToml
  cases fileText content with
  | error fault => rfl
  | ok text =>
    dsimp only
    cases Toml.readDocument text with
    | error flaw => cases flaw <;> rfl
    | ok data =>
      dsimp only
      rw [notes]
      cases entries data <;> rfl

/-- A project table is noted as it reads. -/
theorem noteToml_project : noteToml "pyproject.toml" noteProject content found =
    (Manifest.project content).read.map fun declaration => declaration.elim found found.withDeclaration :=
  noteToml_eq content found "pypi" fun data found => noteProject_eq data (found.withManifest "pyproject.toml")

/-- A crate manifest is noted as it reads. -/
theorem noteToml_crates : noteToml "Cargo.toml" noteCrateManifest content found =
    (Manifest.crates content).read.map fun declaration => declaration.elim found found.withWhole := by
  refine noteToml_eq content found "cargo" fun data found => ?_
  unfold noteCrateManifest crateEntries
  rw [noteSections_eq]
  cases [("dependencies", false), ("dev-dependencies", true)].mapM (sectionEntries data) with
  | error problem => rfl
  | ok lists =>
    exact congrArg Except.ok
      ((found.withManifest "Cargo.toml").withEntries_withEcosystems lists.flatten ["cargo"])

end Single

/-- A file that is noted as it reads is noted as it reads when it is there. -/
theorem noteFile_eq (checkout : Checkout) (name : String) (manifest : ByteArray -> Manifest)
    {note : ByteArray -> Dependencies -> Except ManifestProblem Dependencies}
    {put : Dependencies -> Declaration -> Dependencies}
    (notes : ∀ content found, note content found =
      (manifest content).read.map fun declaration => declaration.elim found (put found)) (found : Dependencies) :
    noteFile checkout name note found =
      ((fileManifest? checkout name manifest).toList.filterMapM Manifest.read).map fun declarations =>
        declarations.foldl put found := by
  unfold noteFile fileManifest?
  cases checkout.overlongLink? (· = name) with
  | some path => rfl
  | none =>
    cases checkout.topFile? name with
    | none => rfl
    | some content =>
      dsimp only [Option.map, Option.toList]
      rw [notes, List.filterMapM_cons]
      rcases (manifest content).read with problem | - | declaration <;> rfl

/-! ## All manifests -/

namespace Dependencies

variable (found : Dependencies) (declarations : List Declaration)

/-- Declarations are noted whatever ecosystems there are. -/
theorem foldl_withEcosystems (names : List String) :
    declarations.foldl withDeclaration (found.withEcosystems names) =
      (declarations.foldl withDeclaration found).withEcosystems names := by
  induction declarations generalizing found with
  | nil => rfl
  | cons declaration declarations inductionHypothesis =>
    have first : (found.withEcosystems names).withDeclaration declaration =
        (found.withDeclaration declaration).withEcosystems names :=
      withEntries_withEcosystems (found.withManifest declaration.manifest) declaration.entries names
    rw [List.foldl_cons, first, inductionHypothesis, List.foldl_cons]

/-- Some ecosystems and others. -/
theorem withEcosystems_append (earlier later : List String) :
    (found.withEcosystems earlier).withEcosystems later = found.withEcosystems (earlier ++ later) := by
  unfold withEcosystems
  rw [List.append_assoc]

/-- The ecosystems of declarations that are noted whole can be noted at the end. -/
theorem foldl_withWhole : declarations.foldl withWhole found =
    (declarations.foldl withDeclaration found).withEcosystems (declarations.map (·.ecosystem)) := by
  induction declarations generalizing found with
  | nil => exact congrArg (Dependencies.mk _ · _ _) (List.append_nil _).symm
  | cons declaration declarations inductionHypothesis =>
    rw [List.foldl_cons, inductionHypothesis, withWhole, foldl_withEcosystems, withEcosystems_append]
    rfl

/-- Noting dependencies leaves the manifests alone. -/
theorem manifests_withEntries (entries : List Entry) : (found.withEntries entries).manifests = found.manifests := by
  induction entries generalizing found with
  | nil => rfl
  | cons entry entries inductionHypothesis =>
    have first : (found.withDependency entry.development entry.name entry.version).manifests = found.manifests := by
      unfold withDependency
      split <;> rfl
    exact (inductionHypothesis _).trans first

/-- The manifests of declarations are noted in turn. -/
theorem manifests_foldl :
    (declarations.foldl withDeclaration found).manifests = found.manifests ++ declarations.map (·.manifest) := by
  induction declarations generalizing found with
  | nil => exact (List.append_nil _).symm
  | cons declaration declarations inductionHypothesis =>
    rw [List.foldl_cons, inductionHypothesis, withDeclaration, manifests_withEntries]
    exact List.append_assoc _ _ _

end Dependencies

/-- Whether a manifest of a name makes for the ecosystem of requirements. -/
def isPypiManifest (name : String) : Bool := name.startsWith "requirements" || name = "pyproject.toml"

/-- The ecosystem of requirements is noted once, if there is a manifest that makes for it. -/
theorem noteRequirementEcosystem_eq (found : Dependencies) : noteRequirementEcosystem found =
    found.withEcosystems (if found.manifests.any isPypiManifest then ["pypi"] else []) := by
  unfold noteRequirementEcosystem isPypiManifest
  split
  · rfl
  · exact congrArg (Dependencies.mk _ · _ _) (List.append_nil _).symm

/-- Whether declarations are none or a single one, of a manifest and an ecosystem. -/
def IsSingle (manifest ecosystem : String) (declarations : List Declaration) : Prop :=
  declarations = [] ∨ ∃ entries, declarations = [⟨manifest, ecosystem, entries⟩]

/-- Whether declarations are of manifests that make for the ecosystem of requirements. -/
def ArePypi (declarations : List Declaration) : Prop :=
  ∀ declaration ∈ declarations, declaration.ecosystem = "pypi" ∧ isPypiManifest declaration.manifest = true

section Labels

variable {checkout : Checkout} {name ecosystem : String} {manifest : ByteArray -> Manifest}
  {declaration : Declaration} {declarations : List Declaration}

/-- A single declaration makes for its ecosystem. -/
theorem IsSingle.ecosystems (single : IsSingle name ecosystem declarations) :
    declarations.map (·.ecosystem) = [] ∨ declarations.map (·.ecosystem) = [ecosystem] := by
  rcases single with rfl | ⟨entries, rfl⟩
  · exact .inl rfl
  · exact .inr rfl

/-- A project table makes for the ecosystem of requirements. -/
theorem IsSingle.arePypi (single : IsSingle "pyproject.toml" "pypi" declarations) : ArePypi declarations := by
  rcases single with rfl | ⟨entries, rfl⟩
  · exact List.forall_mem_nil _
  · exact List.forall_mem_singleton.mpr ⟨rfl, by simp [isPypiManifest]⟩

/-- What is read in TOML is the manifest of a name and an ecosystem. -/
theorem isSingle_readToml {entries : Toml.Members -> Except ManifestProblem (List Entry)} {content : ByteArray}
    (reads : readToml name ecosystem entries content = .ok (some declaration)) :
    IsSingle name ecosystem [declaration] := by
  unfold readToml at reads
  split at reads
  · nomatch reads
  · split at reads
    · nomatch reads
    · nomatch reads
    · obtain ⟨entries, -, same⟩ := map_eq_ok.mp reads
      obtain rfl := Option.some.inj same
      exact .inr ⟨entries, rfl⟩

/-- What a package manifest declares is the manifest of its name and ecosystem. -/
theorem isSingle_package {content : ByteArray} (reads : (Manifest.package content).read = .ok (some declaration)) :
    IsSingle "package.json" "npm" [declaration] := by
  unfold Manifest.read at reads
  dsimp only at reads
  split at reads
  · nomatch reads
  · split at reads
    · nomatch reads
    · obtain ⟨entries, -, same⟩ := map_eq_ok.mp reads
      obtain rfl := Option.some.inj same
      exact .inr ⟨entries, rfl⟩

/-- What a module file declares is the manifest of its name and ecosystem. -/
theorem isSingle_modules {content : ByteArray} (reads : (Manifest.modules content).read = .ok (some declaration)) :
    IsSingle "go.mod" "go" [declaration] := by
  unfold Manifest.read at reads
  dsimp only at reads
  split at reads
  · nomatch reads
  · obtain rfl := Option.some.inj (Except.ok.inj reads)
    exact .inr ⟨_, rfl⟩

/-- A file that is looked at makes for a single declaration at most. -/
theorem isSingle_fileManifest
    (reads : (fileManifest? checkout name manifest).toList.filterMapM Manifest.read = .ok declarations)
    (each : ∀ {content declaration}, (manifest content).read = .ok (some declaration) ->
      IsSingle name ecosystem [declaration]) :
    IsSingle name ecosystem declarations := by
  obtain ⟨-, rfl⟩ := filterMapM_eq_ok.mp reads
  unfold fileManifest?
  split
  · exact .inl rfl
  · cases checkout.topFile? name with
    | none => exact .inl rfl
    | some content =>
      rw [Option.map_some, Option.toList_some, List.filterMap_cons]
      cases isRead : (manifest content).read with
      | error problem => exact .inl rfl
      | ok declared =>
        cases declared with
        | none => exact .inl rfl
        | some declaration => exact each isRead

/-- Files of requirements are named as such. -/
theorem isPypiManifest_requirements {file : String × Option ByteArray} (isFile : file ∈ requirementFiles checkout) :
    isPypiManifest file.1 = true := by
  unfold requirementFiles at isFile
  split at isFile
  · exact absurd isFile List.not_mem_nil
  · obtain ⟨name, isName, rfl⟩ := List.mem_map.mp isFile
    have named := (List.mem_filter.mp (List.mem_mergeSort.mp isName)).2
    unfold isRequirementsFile at named
    simp only [Bool.and_eq_true] at named
    exact Bool.or_eq_true_iff.mpr (.inl named.1.1)

/-- Files of requirements make for the ecosystem of requirements. -/
theorem arePypi_requirements (reads : (requirementManifests checkout).filterMapM Manifest.read = .ok declarations) :
    ArePypi declarations := by
  obtain ⟨each, rfl⟩ := filterMapM_eq_ok.mp reads
  intro declaration member
  obtain ⟨manifest, isManifest, reads⟩ := List.mem_filterMap.mp member
  obtain ⟨file, isFile, rfl⟩ := List.mem_map.mp isManifest
  obtain ⟨name, - | content⟩ := file
  · nomatch reads
  · unfold Manifest.read at reads
    dsimp only at reads
    split at reads
    · nomatch reads
    · obtain rfl := Option.some.inj reads
      exact ⟨rfl, isPypiManifest_requirements isFile⟩

end Labels

/-- Names that are there once or more stand for one name. -/
theorem dedup_replicate_append (count : Nat) (name : String) (names : List String) :
    (List.replicate (count + 1) name ++ names).dedup = (name :: names).dedup := by
  induction count with
  | zero => rfl
  | succ count inductionHypothesis =>
    rw [List.replicate_succ, List.cons_append, List.dedup_cons_of_mem, inductionHypothesis]
    exact List.mem_append_left _ (.head _)

/-- Ecosystems that are noted at the right time are there once each. -/
theorem dedup_ecosystems {packages modules crates : List String} (count : Nat)
    (isPackage : packages = [] ∨ packages = ["npm"]) (isModules : modules = [] ∨ modules = ["go"])
    (isCrates : crates = [] ∨ crates = ["cargo"]) :
    (packages ++ List.replicate count "pypi" ++ modules ++ crates).dedup =
      packages ++ (if count = 0 then [] else ["pypi"]) ++ modules ++ crates := by
  have later : (List.replicate count "pypi" ++ (modules ++ crates)).dedup =
      (if count = 0 then [] else ["pypi"]) ++ (modules ++ crates) := by
    cases count with
    | zero => rcases isModules with rfl | rfl <;> rcases isCrates with rfl | rfl <;> decide
    | succ count =>
      rw [dedup_replicate_append]
      rcases isModules with rfl | rfl <;> rcases isCrates with rfl | rfl <;> simp
  simp only [List.append_assoc]
  rcases isPackage with rfl | rfl
  · exact later
  · rw [List.singleton_append, List.dedup_cons_of_notMem, later, List.singleton_append]
    rcases isModules with rfl | rfl <;> rcases isCrates with rfl | rfl <;> simp

/-- Declarations that are noted in turn are noted as they are put together. -/
theorem assembled_eq {packages listed modules crates : List Declaration}
    (isPackage : IsSingle "package.json" "npm" packages) (arePypi : ArePypi listed)
    (isModules : IsSingle "go.mod" "go" modules) (isCrates : IsSingle "Cargo.toml" "cargo" crates) :
    crates.foldl Dependencies.withWhole (modules.foldl Dependencies.withWhole
      (noteRequirementEcosystem (listed.foldl Dependencies.withDeclaration
        (packages.foldl Dependencies.withWhole Dependencies.empty)))) =
      Dependencies.assembled (packages ++ listed ++ modules ++ crates) := by
  have ofPackages : (packages.map (·.manifest)).any isPypiManifest = false := by
    rcases isPackage with rfl | ⟨entries, rfl⟩
    · rfl
    · simp [isPypiManifest]
  have ofListed : (listed.map (·.manifest)).any isPypiManifest = decide (listed.length ≠ 0) := by
    cases listed with
    | nil => rfl
    | cons first later => simp [(arePypi first (.head _)).2]
  have noted : (listed.foldl Dependencies.withDeclaration
      ((packages.foldl Dependencies.withDeclaration .empty).withEcosystems
        (packages.map (·.ecosystem)))).manifests.any isPypiManifest = decide (listed.length ≠ 0) := by
    rw [Dependencies.manifests_foldl, Dependencies.withEcosystems, Dependencies.manifests_foldl]
    simp [Dependencies.empty, ofPackages, ofListed]
  have ecosystems : listed.map (·.ecosystem) = List.replicate listed.length "pypi" := by
    refine List.eq_replicate_iff.mpr ⟨List.length_map _, fun name member => ?_⟩
    obtain ⟨declaration, isListed, rfl⟩ := List.mem_map.mp member
    exact (arePypi declaration isListed).1
  rw [Dependencies.foldl_withWhole, Dependencies.foldl_withWhole, Dependencies.foldl_withWhole,
    noteRequirementEcosystem_eq, noted, Dependencies.assembled]
  simp only [Dependencies.foldl_withEcosystems, Dependencies.withEcosystems_append, List.foldl_append,
    List.map_append]
  rw [ecosystems, dedup_ecosystems _ isPackage.ecosystems isModules.ecosystems isCrates.ecosystems]
  simp

/-- The dependencies of a checkout are put together from what its manifests declare, each read for itself. -/
theorem ofCheckout_eq (checkout : Checkout) : Dependencies.ofCheckout checkout =
    ((manifests checkout).filterMapM Manifest.read).map Dependencies.assembled := by
  unfold Dependencies.ofCheckout manifests
  simp only [filterMapM_append, noteFile_eq checkout "package.json" .package notePackage_eq,
    noteFile_eq checkout "pyproject.toml" .project noteToml_project,
    noteFile_eq checkout "go.mod" .modules noteModules_eq, noteFile_eq checkout "Cargo.toml" .crates noteToml_crates,
    noteAllRequirements_eq]
  -- Both sides read the same groups in the same order, so they fail alike; what is left is the order of notes.
  cases readsPackage : (fileManifest? checkout "package.json" .package).toList.filterMapM Manifest.read with
  | error problem => rfl
  | ok packages =>
    cases readsRequired : (requirementManifests checkout).filterMapM Manifest.read with
    | error problem => rfl
    | ok required =>
      cases readsProject : (fileManifest? checkout "pyproject.toml" .project).toList.filterMapM Manifest.read with
      | error problem => rfl
      | ok projects =>
        cases readsModules : (fileManifest? checkout "go.mod" .modules).toList.filterMapM Manifest.read with
        | error problem => rfl
        | ok modules =>
          cases readsCrates : (fileManifest? checkout "Cargo.toml" .crates).toList.filterMapM Manifest.read with
          | error problem => rfl
          | ok crates =>
            have isPackage := isSingle_fileManifest readsPackage isSingle_package
            have isProject := isSingle_fileManifest readsProject isSingle_readToml
            have isModules := isSingle_fileManifest readsModules isSingle_modules
            have isCrates := isSingle_fileManifest readsCrates isSingle_readToml
            have arePypi : ArePypi (required ++ projects) :=
              fun declaration member => (List.mem_append.mp member).elim
                (arePypi_requirements readsRequired declaration) (isProject.arePypi declaration)
            have together := assembled_eq isPackage arePypi isModules isCrates
            rw [List.foldl_append, ← List.append_assoc] at together
            exact congrArg Except.ok together

end RepoSurvey.Survey

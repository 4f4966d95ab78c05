import RepoSurvey.Proofs.Survey.Assembly

/-!
# Which manifests are skipped

A manifest that cannot be read as its format is skipped only where that is looked after: a file of requirements whose
name leads to no file, a package manifest that is no text or no JSON, a project table or a crate manifest that is a
text but malformed. Any other manifest that is no text makes the survey fail, and so does data of a strange shape, but
for a list in a package manifest that is cut off by a part that is no pair: the package manifest is noted with what
comes before that part. `ofCheckout_account` says all of this.
-/

namespace RepoSurvey

variable {α : Type}

/-- Items of which the first ones have a property and the next one has another. -/
inductive CutOff (whole cut : α -> Prop) : List α -> Prop
  | here {item items} (isCut : cut item) : CutOff whole cut (item :: items)
  | later {item items} (isWhole : whole item) (rest : CutOff whole cut items) : CutOff whole cut (item :: items)

/-- Items are cut off at the first one or behind it. -/
theorem cutOff_cons {whole cut : α -> Prop} {item : α} {items : List α} :
    CutOff whole cut (item :: items) ↔ cut item ∨ whole item ∧ CutOff whole cut items := by
  constructor
  · rintro (isCut | ⟨isWhole, rest⟩)
    · exact .inl isCut
    · exact .inr ⟨isWhole, rest⟩
  · rintro (isCut | ⟨isWhole, rest⟩)
    · exact .here isCut
    · exact .later isWhole rest

end RepoSurvey

namespace RepoSurvey.Json

/-! ## Listings in JSON -/

/-- Whether a value may be a name. -/
def MayBeName : Json -> Prop
  | .arr _ | .obj _ => False
  | _ => True

/-- Whether a value has two parts, a name and a version. -/
def IsPair (value : Json) : Prop := ∃ name version, value.parts? = some [name, version] ∧ name.MayBeName

/-- Whether a value has parts, but not two of them. -/
def IsNoPair (value : Json) : Prop := ∃ parts, value.parts? = some parts ∧ parts.length ≠ 2

/-- Whether a value lists versions: it is an object, or its parts are pairs. -/
def IsListing : Json -> Prop
  | .obj _ => True
  | value => ∃ parts, value.parts? = some parts ∧ ∀ part ∈ parts, part.IsPair

/-- Whether a value lists versions up to a part that is no pair. -/
def IsCutListing : Json -> Prop
  | .obj _ => False
  | value => ∃ parts, value.parts? = some parts ∧ CutOff IsPair IsNoPair parts

/-- What a part does to the pairs that are read: a pair is passed, and anything else ends them. -/
theorem pairsFrom_cons (position : Nat) (part : Json) (parts : List Json) :
    (part.IsPair ∧ ¬part.IsNoPair ∧
        (Dictionary.pairsFrom position (part :: parts)).2 = (Dictionary.pairsFrom (position + 1) parts).2) ∨
      (¬part.IsPair ∧ part.IsNoPair ∧
        ∃ length, (Dictionary.pairsFrom position (part :: parts)).2 = some (.notPair position length)) ∨
      ¬part.IsPair ∧ ¬part.IsNoPair ∧ ∃ fault, (Dictionary.pairsFrom position (part :: parts)).2 = some fault ∧
        ∀ place length, fault ≠ .notPair place length := by
  rw [Dictionary.pairsFrom]
  unfold IsPair IsNoPair
  rcases part.parts? with - | ⟨- | ⟨name, - | ⟨version, - | ⟨further, rest⟩⟩⟩⟩
  · simp
  · simp
  · simp
  · cases name <;> simp [MayBeName]
  · simp

/-- Nothing is wrong with parts that are pairs, and only with those. -/
theorem pairsFrom_whole (position : Nat) (parts : List Json) :
    (Dictionary.pairsFrom position parts).2 = none ↔ ∀ part ∈ parts, part.IsPair := by
  induction parts generalizing position with
  | nil => simp [Dictionary.pairsFrom]
  | cons part parts inductionHypothesis =>
    rw [List.forall_mem_cons]
    rcases pairsFrom_cons position part parts with
      ⟨isPair, -, same⟩ | ⟨isNone, -, length, same⟩ | ⟨isNone, -, fault, same, -⟩
    · rw [same, inductionHypothesis, and_iff_right isPair]
    · simp [same, isNone]
    · simp [same, isNone]

/-- Parts are cut off by one that is no pair when that is what is wrong with them. -/
theorem pairsFrom_cut (position : Nat) (parts : List Json) :
    (∃ place length, (Dictionary.pairsFrom position parts).2 = some (.notPair place length)) ↔
      CutOff IsPair IsNoPair parts := by
  induction parts generalizing position with
  | nil =>
    constructor
    · rintro ⟨place, length, same⟩
      nomatch same
    · intro isCut
      nomatch isCut
  | cons part parts inductionHypothesis =>
    rw [cutOff_cons]
    rcases pairsFrom_cons position part parts with
      ⟨isPair, isNone, same⟩ | ⟨-, isNoPair, length, same⟩ | ⟨isNone, isNoPair, fault, same, other⟩
    · rw [same, inductionHypothesis]
      simp [isPair, isNone]
    · simp [same, isNoPair]
    · simp [same, isNone, isNoPair, other]

/-- Nothing is wrong with what lists versions, and only with that. -/
theorem entriesOf_whole (value : Json) : (Dictionary.entriesOf value).2 = none ↔ value.IsListing := by
  cases value with
  | obj members => exact iff_of_true rfl trivial
  | arr items => simp [Dictionary.entriesOf, parts, parts?, IsListing, pairsFrom_whole]
  | str text => simp [Dictionary.entriesOf, parts, parts?, IsListing, pairsFrom_whole]
  | _ => simp [Dictionary.entriesOf, parts, parts?, IsListing]

/-- What lists versions is cut off by a part that is no pair when that is what is wrong with it. -/
theorem entriesOf_cut (value : Json) :
    (∃ place length, (Dictionary.entriesOf value).2 = some (.notPair place length)) ↔ value.IsCutListing := by
  cases value with
  | obj members => simp [Dictionary.entriesOf, IsCutListing]
  | arr items => simp [Dictionary.entriesOf, parts, parts?, IsCutListing, pairsFrom_cut]
  | str text => simp [Dictionary.entriesOf, parts, parts?, IsCutListing, pairsFrom_cut]
  | _ => simp [Dictionary.entriesOf, parts, parts?, IsCutListing]

end RepoSurvey.Json

namespace RepoSurvey.Survey

open Files (Checkout)
open Json (Dictionary)

/-! ## Package manifests -/

/-- Whether a member of an object lists versions, if it is present. -/
def ListsVersions (members : List (String × Json)) (name : String) : Prop :=
  ∀ value ∈ (Json.lookup name members).filter Json.isPresent, value.IsListing

/-- Whether a member of an object lists versions up to a part that is no pair. -/
def CutsVersions (members : List (String × Json)) (name : String) : Prop :=
  ∃ value ∈ (Json.lookup name members).filter Json.isPresent, value.IsCutListing

/-- Whether data declares the dependencies of a package: an object whose members list versions, all of them or those
before one that is cut off. -/
def IsPackage (data : Json) : Prop :=
  ∃ members, data = .obj members ∧
    ((∀ name ∈ packageMembers.map Prod.fst, ListsVersions members name) ∨
      CutOff (ListsVersions members) (CutsVersions members) (packageMembers.map Prod.fst))

section Members

variable {members : List (String × Json)} {name : String} {development : Bool}

/-- A member declares versions to its end when it lists them, and only then. -/
theorem declaredEntries_whole :
    (∃ entries, declaredEntries development (Json.lookup name members) = .ok (entries, true)) ↔
      ListsVersions members name := by
  unfold declaredEntries ListsVersions
  cases (Json.lookup name members).filter Json.isPresent with
  | none => simp
  | some value =>
    simp only [Option.mem_some_iff, forall_eq', ← Json.entriesOf_whole]
    rcases (Dictionary.entriesOf value).2 with - | fault
    · simp
    · cases fault <;> simp

/-- A member declares versions up to some part when it lists them up to one that is no pair, and only then. -/
theorem declaredEntries_cut :
    (∃ entries, declaredEntries development (Json.lookup name members) = .ok (entries, false)) ↔
      CutsVersions members name := by
  unfold declaredEntries CutsVersions
  cases (Json.lookup name members).filter Json.isPresent with
  | none => simp
  | some value =>
    simp only [Option.mem_some_iff, exists_eq_left', ← Json.entriesOf_cut]
    rcases (Dictionary.entriesOf value).2 with - | fault
    · simp
    · cases fault <;> simp

/-- The members of an object declare versions when they list them, all of them or those before one that is cut off. -/
theorem memberEntries_eq_ok {wanted : List (String × Bool)} :
    (∃ entries, memberEntries (.obj members) wanted = .ok entries) ↔
      (∀ name ∈ wanted.map Prod.fst, ListsVersions members name) ∨
        CutOff (ListsVersions members) (CutsVersions members) (wanted.map Prod.fst) := by
  induction wanted with
  | nil => exact iff_of_true ⟨[], rfl⟩ (.inl (List.forall_mem_nil _))
  | cons first wanted inductionHypothesis =>
    obtain ⟨name, development⟩ := first
    rw [List.map_cons, List.forall_mem_cons, cutOff_cons, ← @declaredEntries_whole _ _ development,
      ← @declaredEntries_cut _ _ development, memberEntries, Json.memberOf]
    dsimp only
    rcases declaredEntries development (Json.lookup name members) with problem | ⟨entries, - | -⟩
    · simp
    · simp
    · simpa [map_eq_ok] using inductionHypothesis

end Members

/-! ## Projects and crates -/

/-- Whether a value is taken for a list of requirements: an array of texts, a table for its names or a text for its
characters. -/
def IsRequirementList : Toml.Value -> Prop
  | .array items => ∀ item ∈ items, ∃ line, item = .text line
  | .table _ | .text _ => True
  | _ => False

/-- Whether data declares the dependencies of a project. -/
def IsProject (data : Toml.Members) : Prop :=
  ∃ project : Toml.Members, (data.find? "project").getD (.table []) = .table project ∧
    (∀ list ∈ project.find? "dependencies", IsRequirementList list) ∧
    ∀ extras ∈ project.find? "optional-dependencies",
      ∃ lists, extras = .table lists ∧ ∀ list ∈ lists, IsRequirementList list.2

/-- Whether a value is a version or a table that may hold one. -/
def IsCrateVersion : Toml.Value -> Prop
  | .text _ | .table _ => True
  | _ => False

/-- Whether data declares the dependencies of crates. -/
def IsCrates (data : Toml.Members) : Prop :=
  ∀ name ∈ ["dependencies", "dev-dependencies"], ∀ value ∈ (data.find? name).filter Toml.Value.isPresent,
    ∃ crates, value = .table crates ∧ ∀ crate ∈ crates, IsCrateVersion crate.2

/-- A list of requirements declares dependencies. -/
theorem textEntries_eq_ok {development : Bool} {value : Toml.Value} :
    (∃ entries, textEntries development value = .ok entries) ↔ IsRequirementList value := by
  have single : ∀ item, (∃ entry, textEntry development item = .ok entry) ↔ ∃ line, item = .text line := by
    intro item
    cases item <;> simp [textEntry]
  cases value with
  | array items => exact mapM_eq_ok.trans (forall₂_congr fun item _ => single item)
  | table members =>
    refine iff_of_true (mapM_eq_ok.mpr fun item member => (single item).mpr ?_) trivial
    obtain ⟨named, -, rfl⟩ := List.mem_map.mp member
    exact ⟨named.1, rfl⟩
  | text text =>
    refine iff_of_true (mapM_eq_ok.mpr fun item member => (single item).mpr ?_) trivial
    obtain ⟨c, -, rfl⟩ := List.mem_map.mp member
    exact ⟨String.singleton c, rfl⟩
  | _ => simp [textEntries, tomlParts, IsRequirementList, bind, Except.bind]

/-- A project table declares dependencies when its members list requirements, and only then. -/
theorem projectEntries_eq_ok {data : Toml.Members} :
    (∃ entries, projectEntries data = .ok entries) ↔ IsProject data := by
  unfold projectEntries IsProject
  dsimp only
  cases (data.find? "project").getD (.table []) with
  | table project =>
    have required : IsRequirementList ((Toml.Members.find? "dependencies" project).getD (.array [])) ↔
        ∀ list ∈ Toml.Members.find? "dependencies" project, IsRequirementList list := by
      cases Toml.Members.find? "dependencies" project <;> simp [IsRequirementList]
    simp only [tableMember, ok_bind, Toml.Value.table.injEq, exists_eq_left', ← required]
    rw [← @textEntries_eq_ok false]
    rcases textEntries false ((Toml.Members.find? "dependencies" project).getD (.array [])) with problem | listed
    · simp [bind, Except.bind]
    · have further : (∃ lists, (Toml.Members.find? "optional-dependencies" project).getD (.table []) = .table lists ∧
          ∀ list ∈ lists, IsRequirementList list.2) ↔
          ∀ extras ∈ Toml.Members.find? "optional-dependencies" project,
            ∃ lists, extras = .table lists ∧ ∀ list ∈ lists, IsRequirementList list.2 := by
        cases Toml.Members.find? "optional-dependencies" project <;> simp
      rw [ok_bind, and_iff_right ⟨listed, rfl⟩, ← further]
      cases (Toml.Members.find? "optional-dependencies" project).getD (.table []) with
      | table lists =>
        simp only [exists_map_eq_ok, mapM_eq_ok, textEntries_eq_ok, List.forall_mem_map, Toml.Value.table.injEq,
          exists_eq_left']
      | _ => simp
  | _ => simp [tableMember, bind, Except.bind]

/-- Sections declare dependencies when they are tables of crates, and only then. -/
theorem crateEntries_eq_ok {data : Toml.Members} : (∃ entries, crateEntries data = .ok entries) ↔ IsCrates data := by
  have single : ∀ development (crate : String × Toml.Value),
      (∃ entry, crateEntry development crate = .ok entry) ↔ IsCrateVersion crate.2 := by
    rintro development ⟨name, spec⟩
    rw [crateEntry, exists_map_eq_ok]
    cases spec <;> simp [crateVersion, tableMember, IsCrateVersion, Except.map]
  have each : ∀ name development, (∃ entries, sectionEntries data (name, development) = .ok entries) ↔
      ∀ value ∈ (data.find? name).filter Toml.Value.isPresent,
        ∃ crates, value = .table crates ∧ ∀ crate ∈ crates, IsCrateVersion crate.2 := by
    intro name development
    unfold sectionEntries
    rcases (data.find? name).filter Toml.Value.isPresent with - | value
    · simp
    · cases value with
      | table crates => simp [mapM_eq_ok, single]
      | _ => simp
  rw [crateEntries, exists_map_eq_ok, mapM_eq_ok, IsCrates]
  simp only [List.forall_mem_cons, each, List.not_mem_nil, false_implies, implies_true]

/-! ## Manifests -/

/-- Whether a manifest cannot be read and that is looked after. -/
def Manifest.IsUnreadable : Manifest -> Prop
  | .package content => ¬∃ text data, fileText content = .ok text ∧ Json.readAll text = .ok data
  | .requirements _ content => content = none
  | .project content | .crates content =>
    ∃ text, fileText content = .ok text ∧ Toml.readDocument text = .error .malformed
  | .modules _ | .overlong _ => False

/-- Whether a manifest is read and has a shape that declares dependencies. -/
def Manifest.IsShaped : Manifest -> Prop
  | .package content => ∃ text data, fileText content = .ok text ∧ Json.readAll text = .ok data ∧ IsPackage data
  | .requirements _ content => ∃ bytes ∈ content, ∃ text, fileText bytes = .ok text
  | .project content =>
    ∃ text data, fileText content = .ok text ∧ Toml.readDocument text = .ok data ∧ IsProject data
  | .modules content => ∃ text, fileText content = .ok text
  | .crates content =>
    ∃ text data, fileText content = .ok text ∧ Toml.readDocument text = .ok data ∧ IsCrates data
  | .overlong _ => False

/-- What in TOML is skipped is malformed. -/
theorem readToml_eq_none {manifest ecosystem : String} {content : ByteArray}
    {entries : Toml.Members -> Except ManifestProblem (List Entry)} :
    readToml manifest ecosystem entries content = .ok none ↔
      ∃ text, fileText content = .ok text ∧ Toml.readDocument text = .error .malformed := by
  unfold readToml
  rcases fileText content with fault | text
  · simp
  · rcases isRead : Toml.readDocument text with (- | digits) | data <;> simp [isRead, map_eq_ok]

/-- What in TOML is noted is read and declares dependencies. -/
theorem readToml_eq_some {manifest ecosystem : String} {content : ByteArray}
    {entries : Toml.Members -> Except ManifestProblem (List Entry)} :
    (∃ declaration, readToml manifest ecosystem entries content = .ok (some declaration)) ↔
      ∃ text data, fileText content = .ok text ∧ Toml.readDocument text = .ok data ∧
        ∃ listed, entries data = .ok listed := by
  unfold readToml
  rcases fileText content with fault | text
  · simp
  · rcases isRead : Toml.readDocument text with (- | digits) | data <;> simp [isRead, map_eq_ok]

/-- The manifests that are skipped are those that cannot be read where that is looked after. -/
theorem Manifest.read_eq_none (manifest : Manifest) : manifest.read = .ok none ↔ manifest.IsUnreadable := by
  cases manifest with
  | package content =>
    unfold Manifest.read IsUnreadable
    rcases isText : fileText content with fault | text
    · simp [isText]
    · rcases isRead : Json.readAll text with flaw | data <;> simp [isText, isRead, map_eq_ok]
  | requirements name content =>
    unfold Manifest.read IsUnreadable
    rcases content with - | content
    · simp
    · rcases isText : fileText content with fault | text <;> simp [isText]
  | project content => exact readToml_eq_none
  | modules content =>
    unfold Manifest.read IsUnreadable
    rcases isText : fileText content with fault | text <;> simp [isText]
  | crates content => exact readToml_eq_none
  | overlong path => simp [Manifest.read, IsUnreadable]

/-- Data declares the dependencies of a package when it is an object that lists versions, and only then. -/
theorem memberEntries_package {data : Json} :
    (∃ entries, memberEntries data packageMembers = .ok entries) ↔ IsPackage data := by
  cases data with
  | obj members => exact memberEntries_eq_ok.trans (by simp [IsPackage])
  | _ => simp [memberEntries, packageMembers, Json.memberOf, IsPackage]

/-- The manifests that are noted are those that have a shape that declares dependencies. -/
theorem Manifest.read_eq_some (manifest : Manifest) :
    (∃ declaration, manifest.read = .ok (some declaration)) ↔ manifest.IsShaped := by
  cases manifest with
  | package content =>
    unfold Manifest.read IsShaped
    simp only [← memberEntries_package]
    rcases fileText content with fault | text
    · simp
    · rcases isRead : Json.readAll text with flaw | data <;> simp [isRead, map_eq_ok]
  | requirements name content =>
    unfold Manifest.read IsShaped
    rcases content with - | content
    · simp
    · rcases isText : fileText content with fault | text <;> simp [isText]
  | project content => exact readToml_eq_some.trans (by simp only [projectEntries_eq_ok, IsShaped])
  | modules content =>
    unfold Manifest.read IsShaped
    rcases isText : fileText content with fault | text <;> simp [isText]
  | crates content => exact readToml_eq_some.trans (by simp only [crateEntries_eq_ok, IsShaped])
  | overlong path => simp [Manifest.read, IsShaped]

/-- A file of requirements that is no text is not looked after. -/
example : (Manifest.requirements "requirements.txt" (some ⟨#[0xFF]⟩)).read =
    .error (.undecodable ⟨.invalidStart, 0, 1, 0xFF⟩) := by
  cbv

/-- A list that is cut off by a part that is no pair declares what comes before that. -/
example : (memberEntries (.obj [("dependencies", .arr [.arr [.str "left", .str "1"], .str "pad"])])
    packageMembers).toOption = some [⟨false, .str "left", .str "1"⟩] := by
  rfl

end RepoSurvey.Survey

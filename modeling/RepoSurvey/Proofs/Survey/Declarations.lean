import RepoSurvey.Proofs.Outcomes
import RepoSurvey.Survey.Dependencies

/-!
# What single manifests declare

The manifests of a checkout are noted one after another, each on top of what was found before. What a manifest
declares does not depend on that: it can be read for itself, and noting it adds what it declares, or fails as reading
it does.
-/

namespace RepoSurvey.Survey

open Json (Dictionary)

/-! ## Declarations -/

/-- A dependency that is declared; true for the development kind. -/
structure Entry where
  development : Bool
  name : Json
  version : Json

/-- What a manifest declares. -/
structure Declaration where
  manifest : String
  ecosystem : String
  entries : List Entry

namespace Dependencies

/-- Note declared dependencies. -/
def withEntries (found : Dependencies) (entries : List Entry) : Dependencies :=
  entries.foldl (fun found entry => found.withDependency entry.development entry.name entry.version) found

/-- Note a manifest and what it declares, but for its ecosystem. -/
def withDeclaration (found : Dependencies) (declaration : Declaration) : Dependencies :=
  (found.withManifest declaration.manifest).withEntries declaration.entries

/-- Note some ecosystems. -/
def withEcosystems (found : Dependencies) (names : List String) : Dependencies :=
  { found with ecosystems := found.ecosystems ++ names }

variable (found : Dependencies)

/-- Dependencies and further ones. -/
theorem withEntries_append (earlier later : List Entry) :
    found.withEntries (earlier ++ later) = (found.withEntries earlier).withEntries later :=
  List.foldl_append

/-- Lists of dependencies one after another. -/
theorem foldl_withEntries (lists : List (List Entry)) :
    lists.foldl withEntries found = found.withEntries lists.flatten :=
  List.foldl_flatten.symm

/-- Dependencies are noted whatever ecosystems there are. -/
theorem withEntries_withEcosystems (entries : List Entry) (names : List String) :
    (found.withEcosystems names).withEntries entries = (found.withEntries entries).withEcosystems names := by
  induction entries generalizing found with
  | nil => rfl
  | cons entry entries inductionHypothesis =>
    have first : (found.withEcosystems names).withDependency entry.development entry.name entry.version =
        (found.withDependency entry.development entry.name entry.version).withEcosystems names := by
      unfold withDependency
      split <;> rfl
    calc (found.withEcosystems names).withEntries (entry :: entries)
        = ((found.withEcosystems names).withDependency entry.development entry.name entry.version).withEntries
            entries := rfl
      _ = (found.withEntries (entry :: entries)).withEcosystems names := by rw [first, inductionHypothesis]; rfl

end Dependencies

/-! ## Manifests in JSON -/

/-- The dependencies that a value declares, up to the first part that is no pair, and whether there is none. -/
def declaredEntries (development : Bool) (declared : Option Json) : Except ManifestProblem (List Entry × Bool) :=
  match declared.filter Json.isPresent with
  | none => .ok ([], true)
  | some value =>
    let entries := (Dictionary.entriesOf value).1.map fun entry => ⟨development, entry.1, entry.2⟩
    match (Dictionary.entriesOf value).2 with
    | none => .ok (entries, true)
    | some (.notPair ..) => .ok (entries, false)
    | some fault => .error (.shape fault)

/-- The dependencies that some members declare, as long as they are complete. -/
def memberEntries (data : Json) : List (String × Bool) -> Except ManifestProblem (List Entry)
  | [] => .ok []
  | (name, development) :: wanted =>
    match data.memberOf name with
    | .error fault => .error (.shape fault)
    | .ok declared =>
      match declaredEntries development declared with
      | .error problem => .error problem
      | .ok (entries, complete) =>
        if complete then (memberEntries data wanted).map (entries ++ ·) else .ok entries

/-- Declared versions are noted as they are declared. -/
theorem noteDeclared_eq (development : Bool) (declared : Option Json) (found : Dependencies) :
    noteDeclared development found declared =
      (declaredEntries development declared).map fun entries => ⟨found.withEntries entries.1, entries.2⟩ := by
  unfold noteDeclared declaredEntries
  cases declared.filter Json.isPresent with
  | none => rfl
  | some value =>
    have listed : (Dictionary.entriesOf value).1.foldl
        (fun found entry => found.withDependency development entry.1 entry.2) found =
        found.withEntries ((Dictionary.entriesOf value).1.map fun entry => ⟨development, entry.1, entry.2⟩) := by
      rw [Dependencies.withEntries, List.foldl_map]
    dsimp only
    rw [listed]
    cases (Dictionary.entriesOf value).2 with
    | none => rfl
    | some fault => cases fault <;> rfl

/-- The declarations of members are noted as they are declared. -/
theorem noteMembers_eq (data : Json) (wanted : List (String × Bool)) (found : Dependencies) :
    noteMembers data wanted found = (memberEntries data wanted).map found.withEntries := by
  induction wanted generalizing found with
  | nil => rfl
  | cons first wanted inductionHypothesis =>
    obtain ⟨name, development⟩ := first
    unfold noteMembers memberEntries
    cases data.memberOf name with
    | error fault => rfl
    | ok declared =>
      dsimp only
      rw [noteDeclared_eq]
      cases declaredEntries development declared with
      | error problem => rfl
      | ok listed =>
        obtain ⟨entries, - | -⟩ := listed
        · rfl
        · change noteMembers data wanted (found.withEntries entries) =
            ((memberEntries data wanted).map (entries ++ ·)).map found.withEntries
          rw [inductionHypothesis]
          cases memberEntries data wanted with
          | error problem => rfl
          | ok further => exact congrArg Except.ok (found.withEntries_append entries further).symm

/-! ## Manifests in lines -/

/-- The dependency that a requirement declares. -/
def Requirement.entry (development : Bool) (requirement : Requirement) : Entry :=
  ⟨development, .str requirement.name, .str requirement.spec⟩

/-- The dependencies that a file of requirements declares. -/
def requirementEntries (name : String) (text : List Char) : List Entry :=
  let lines := (Text.lines text).map fun line => Text.trim (line.takeWhile (· != '#'))
  let stated := lines.filter fun line => !line.isEmpty && line.head? != some '-'
  (stated.map fun line => Requirement.ofLine (String.ofList line)).map
    (Requirement.entry (holds "dev" name || holds "test" name))

/-- Requirements are noted as the dependencies they declare. -/
theorem Dependencies.withEntries_requirements (found : Dependencies) (development : Bool)
    (requirements : List Requirement) : found.withEntries (requirements.map (Requirement.entry development)) =
      requirements.foldl (Dependencies.withRequirement development) found := by
  rw [withEntries, List.foldl_map]
  rfl

/-- The dependencies that a module file declares. -/
def moduleEntries (text : List Char) : List Entry :=
  (moduleVersions text.length true text).map fun found => ⟨false, .str found.1, .str found.2⟩

/-! ## Manifests in TOML -/

/-- The dependency that a requirement given as a text declares. -/
def textEntry (development : Bool) : Toml.Value -> Except ManifestProblem Entry
  | .text line => .ok ((Requirement.ofLine line).entry development)
  | other => .error (.shape (.notText other.kindName))

/-- The dependencies that a list of requirements declares. -/
def textEntries (development : Bool) (value : Toml.Value) : Except ManifestProblem (List Entry) := do
  (<- tomlParts value).mapM (textEntry development)

/-- The dependencies that a project table declares. -/
def projectEntries (data : Toml.Members) : Except ManifestProblem (List Entry) := do
  let project := (data.find? "project").getD (.table [])
  let required <- textEntries false ((<- tableMember project "dependencies").getD (.array []))
  match (<- tableMember project "optional-dependencies").getD (.table []) with
  | .table members =>
    ((members.map (·.2)).mapM (textEntries true)).map fun further => required ++ further.flatten
  | other => throw (.shape (.noOperation other.kindName "values"))

/-- The dependency that a crate declares. -/
def crateEntry (development : Bool) (member : String × Toml.Value) : Except ManifestProblem Entry :=
  (crateVersion member.2).map fun version => ⟨development, .str member.1, .str version⟩

/-- The dependencies that a section of crates declares; true for the development kind. -/
def sectionEntries (data : Toml.Members) (part : String × Bool) : Except ManifestProblem (List Entry) :=
  match (data.find? part.1).filter Toml.Value.isPresent with
  | none => .ok []
  | some (.table members) => members.mapM (crateEntry part.2)
  | some other => .error (.shape (.noOperation other.kindName "items"))

/-- The dependencies that a crate manifest declares. -/
def crateEntries (data : Toml.Members) : Except ManifestProblem (List Entry) :=
  ([("dependencies", false), ("dev-dependencies", true)].mapM (sectionEntries data)).map List.flatten

/-- Requirements given as texts are noted as they are declared. -/
theorem noteTexts_eq (development : Bool) (lines : List Toml.Value) (found : Dependencies) :
    noteTexts development lines found = (lines.mapM (textEntry development)).map found.withEntries :=
  noteAll_eq (noteTexts development) (textEntry development)
    (fun found entry => found.withDependency entry.development entry.name entry.version) (fun _ => rfl)
    (fun line lines found => by cases line <;> rfl) lines found

/-- A list of requirements is noted as it is declared. -/
theorem noteList_eq (development : Bool) (value : Toml.Value) (found : Dependencies) :
    (tomlParts value >>= fun lines => noteTexts development lines found) =
      (textEntries development value).map found.withEntries := by
  unfold textEntries
  cases tomlParts value with
  | error problem => rfl
  | ok lines => exact noteTexts_eq development lines found

/-- Lists of requirements are noted as they are declared. -/
theorem noteExtras_eq (extras : List Toml.Value) (found : Dependencies) :
    noteExtras extras found = (extras.mapM (textEntries true)).map fun lists => found.withEntries lists.flatten := by
  have each := noteAll_eq noteExtras (textEntries true) Dependencies.withEntries (fun _ => rfl)
    (fun extra extras found => by
      rw [← noteList_eq]
      change (tomlParts extra >>= fun lines => noteTexts true lines found >>= noteExtras extras) = _
      rw [bind_assoc]) extras found
  simpa only [Dependencies.foldl_withEntries] using each

/-- What a project table declares is noted as it is declared. -/
theorem noteProject_eq (data : Toml.Members) (found : Dependencies) :
    noteProject data found = (projectEntries data).map found.withEntries := by
  unfold noteProject projectEntries
  dsimp only
  generalize (data.find? "project").getD (.table []) = project
  cases tableMember project "dependencies" with
  | error problem => rfl
  | ok declared =>
    rw [ok_bind, ok_bind, ← bind_assoc, noteList_eq]
    cases textEntries false (declared.getD (.array [])) with
    | error problem => rfl
    | ok required =>
      cases tableMember project "optional-dependencies" with
      | error problem => rfl
      | ok declared =>
        rw [Except.map, ok_bind, ok_bind, ok_bind, ok_bind]
        cases declared.getD (.table []) with
        | table members =>
          dsimp only
          rw [noteExtras_eq]
          cases (members.map (·.2)).mapM (textEntries true) with
          | error problem => rfl
          | ok further => exact congrArg Except.ok (Dependencies.withEntries_append found required _).symm
        | _ => rfl

/-- The crates of a table are noted as they are declared. -/
theorem noteCrates_eq (development : Bool) (members : Toml.Members) (found : Dependencies) :
    noteCrates development members found = (members.mapM (crateEntry development)).map found.withEntries :=
  noteAll_eq (noteCrates development) (crateEntry development)
    (fun found entry => found.withDependency entry.development entry.name entry.version) (fun _ => rfl)
    (fun member members found => by
      change (crateVersion member.2 >>= _) = _
      unfold crateEntry
      cases crateVersion member.2 <;> rfl) members found

/-- The crates of sections are noted as they are declared. -/
theorem noteSections_eq (data : Toml.Members) (sections : List (String × Bool)) (found : Dependencies) :
    noteSections data sections found =
      (sections.mapM (sectionEntries data)).map fun lists => found.withEntries lists.flatten := by
  have each := noteAll_eq (noteSections data) (sectionEntries data) Dependencies.withEntries (fun _ => rfl)
    (fun part sections found => by
      obtain ⟨name, development⟩ := part
      unfold sectionEntries
      rw [noteSections]
      cases (data.find? name).filter Toml.Value.isPresent with
      | none => rfl
      | some held =>
        cases held with
        | table members => exact congrArg (· >>= noteSections data sections) (noteCrates_eq development members found)
        | _ => rfl) sections found
  simpa only [Dependencies.foldl_withEntries] using each

end RepoSurvey.Survey

import RepoSurvey.Files.Tree
import RepoSurvey.Json.Reader
import RepoSurvey.Json.Shape
import RepoSurvey.Survey.Record
import RepoSurvey.Text.Blank
import RepoSurvey.Text.Caseless
import RepoSurvey.Text.Utf8
import RepoSurvey.Toml.Document

/-!
# Declared dependencies

The manifests at the top of a checkout are read in a fixed order. A manifest that cannot be read as
its format is skipped; one that can be read but has a strange shape makes the survey fail, and so does
one in the line formats that is no text.

A requirement is a name, possibly with extras in brackets, followed by what is asked of its version.
-/

namespace RepoSurvey.Survey

/-- A requirement: its name and what follows it. -/
structure Requirement where
  name : String
  spec : String
  deriving DecidableEq, Repr

namespace Requirement

/-- Whether a character may stand in a name with extras. -/
def isNameChar (c : Char) : Bool :=
  (c.toNat < 128 && c.isAlphanum) || c == '_' || c == '.' || c == '-' || c == '[' || c == ']'

/-- Whether a text is a single line, a line end after it allowed. -/
def isOneLine (text : List Char) : Bool :=
  !(if text.getLast? = some '\n' then text.dropLast else text).contains '\n'

/-- The requirement of a line. A line that starts with no name, or goes on over several lines, is a
name as a whole. -/
def ofLine (line : String) : Requirement :=
  let chars := line.toList
  let name := chars.takeWhile isNameChar
  let spec := (chars.drop name.length).dropWhile Text.isBlank
  if name.isEmpty || !isOneLine spec then ⟨line, ""⟩
  else ⟨String.ofList name, String.ofList (Text.trim spec)⟩

end Requirement

end RepoSurvey.Survey

namespace RepoSurvey.Survey

open Files (Checkout)
open Json (ShapeFault)

/-- Why the dependencies of a checkout cannot be found. -/
inductive ManifestProblem where
  | undecodable (fault : Text.Utf8.Fault)
  | overlongInteger (digits : Nat)
  | shape (fault : ShapeFault)
  /-- A manifest is a link to a path that is too long. -/
  | overlongPath (path : Files.Path)
  deriving DecidableEq, Repr

/-- The wording of a problem. -/
def ManifestProblem.message : ManifestProblem -> String
  | .undecodable fault => fault.message
  | .overlongInteger digits => (Json.Flaw.overlongInteger digits).message
  | .shape fault => fault.message
  | .overlongPath path => Files.overlongReport path

namespace Dependencies

/-- No dependencies. -/
def empty : Dependencies := ⟨[], [], [], []⟩

/-- Note a manifest. -/
def withManifest (found : Dependencies) (name : String) : Dependencies :=
  { found with manifests := found.manifests ++ [name] }

/-- Note an ecosystem. -/
def withEcosystem (found : Dependencies) (name : String) : Dependencies :=
  { found with ecosystems := found.ecosystems ++ [name] }

/-- Note a dependency, of the development kind or not. A dependency noted before keeps its place. -/
def withDependency (development : Bool) (name version : Json) (found : Dependencies) :
    Dependencies :=
  if development then { found with devDependencies := found.devDependencies.put name version }
  else { found with dependencies := found.dependencies.put name version }

/-- Note a requirement. -/
def withRequirement (development : Bool) (found : Dependencies) (requirement : Requirement) :
    Dependencies :=
  found.withDependency development (.str requirement.name) (.str requirement.spec)

end Dependencies

/-- The text of a file, its lines ending in line feeds. -/
def fileText (content : ByteArray) : Except Text.Utf8.Fault (List Char) :=
  (Text.Utf8.decode content.toList).map Text.unixEndings

/-! ## Manifests in JSON -/

/-- What came of noting declared versions: all of them, or those before an entry that is no pair. -/
structure Noted where
  found : Dependencies
  complete : Bool

/-- Note declared versions: the members of an object, or a list of pairs. A pair with another number of
parts ends them. -/
def noteDeclared (development : Bool) (found : Dependencies) (declared : Option Json) :
    Except ManifestProblem Noted :=
  match declared.filter Json.isPresent with
  | none => .ok ⟨found, true⟩
  | some value =>
    let (entries, fault) := Json.Dictionary.entriesOf value
    let noted := entries.foldl (fun found entry =>
      found.withDependency development entry.1 entry.2) found
    match fault with
    | none => .ok ⟨noted, true⟩
    | some (.notPair ..) => .ok ⟨noted, false⟩
    | some fault => .error (.shape fault)

/-- Note the declarations of some members, as long as they are complete. -/
def noteMembers (data : Json) : (wanted : List (String × Bool)) -> Dependencies ->
    Except ManifestProblem Dependencies
  | [], found => .ok found
  | (name, development) :: wanted, found =>
    match data.memberOf name with
    | .error fault => .error (.shape fault)
    | .ok declared =>
      match noteDeclared development found declared with
      | .error problem => .error problem
      | .ok noted =>
        if noted.complete then noteMembers data wanted noted.found else .ok noted.found

/-- The members of a package manifest that declare dependencies; true for the development kind. -/
def packageMembers : List (String × Bool) :=
  [("dependencies", false), ("peerDependencies", false), ("devDependencies", true)]

/-- Note what a package manifest declares. -/
def notePackage (content : ByteArray) (found : Dependencies) :
    Except ManifestProblem Dependencies :=
  match fileText content with
  | .error _ => .ok found
  | .ok text =>
    match Json.readAll text with
    | .error _ => .ok found
    | .ok data =>
      noteMembers data packageMembers ((found.withManifest "package.json").withEcosystem "npm")

/-! ## Manifests in lines -/

/-- Whether a file of a name lists requirements. -/
def isRequirementsFile (name : String) : Bool :=
  name.startsWith "requirements" && name.endsWith ".txt" && decide (16 ≤ name.length)

/-- Whether some text stands inside another. -/
def holds (part text : String) : Bool :=
  Text.holdsWithin part.toList text.toList

/-- Note the requirements of a file. -/
def noteRequirements (name : String) (content : ByteArray) (found : Dependencies) :
    Except ManifestProblem Dependencies :=
  match fileText content with
  | .error fault => .error (.undecodable fault)
  | .ok text =>
    let development := holds "dev" name || holds "test" name
    let lines := (Text.lines text).map fun line => Text.trim (line.takeWhile (· != '#'))
    let stated := lines.filter fun line => !line.isEmpty && line.head? != some '-'
    .ok ((stated.map fun line => Requirement.ofLine (String.ofList line)).foldl
      (Dependencies.withRequirement development) (found.withManifest name))

/-- Note the requirements of all files that list them, in the order of their names. -/
def noteAllRequirements : List (String × Option ByteArray) -> Dependencies ->
    Except ManifestProblem Dependencies
  | [], found => .ok found
  | (_, none) :: files, found => noteAllRequirements files found
  | (name, some content) :: files, found =>
    match noteRequirements name content found with
    | .error problem => .error problem
    | .ok found => noteAllRequirements files found

/-- Whether a character may stand in the path of a module. -/
def isModuleChar (c : Char) : Bool := Text.isWord c || c == '.' || c == '-' || c == '/'

/-- Whether a character may stand in the version of a module. -/
def isVersionChar (c : Char) : Bool := Text.isWord c || c == '.' || c == '-' || c == '+'

/-- A module and its version at the start of a line, and the text after them. Blank lines before them
are stepped over. The path has a point inside. -/
def moduleVersion? (text : List Char) : Option ((String × String) × List Char) :=
  let start := text.dropWhile Text.isBlank
  let path := start.takeWhile isModuleChar
  let afterPath := start.drop path.length
  let afterBlank := afterPath.dropWhile Text.isBlank
  match afterBlank with
  | 'v' :: rest =>
    let version := rest.takeWhile isVersionChar
    if ((path.drop 1).dropLast).contains '.' && (afterPath.head?.map Text.isBlank).getD false &&
        !version.isEmpty then
      some ((String.ofList path, String.ofList ('v' :: version)), rest.drop version.length)
    else none
  | _ => none

/-- The modules and versions at the starts of lines. -/
def moduleVersions : (fuel : Nat) -> (atLineStart : Bool) -> List Char -> List (String × String)
  | 0, _, _ | _, _, [] => []
  | fuel + 1, atLineStart, c :: rest =>
    match if atLineStart then moduleVersion? (c :: rest) else none with
    | some (found, after) => found :: moduleVersions fuel false after
    | none => moduleVersions fuel (c == '\n') rest

/-- Note the modules a module file requires. -/
def noteModules (content : ByteArray) (found : Dependencies) :
    Except ManifestProblem Dependencies :=
  match fileText content with
  | .error fault => .error (.undecodable fault)
  | .ok text =>
    .ok ((moduleVersions text.length true text).foldl
      (fun found (name, version) => found.withDependency false (.str name) (.str version))
      ((found.withManifest "go.mod").withEcosystem "go"))

/-! ## Manifests in TOML -/

/-- A member of a value that has to be a table. -/
def tableMember (value : Toml.Value) (name : String) :
    Except ManifestProblem (Option Toml.Value) :=
  match value with
  | .table members => .ok (Toml.Members.find? name members)
  | other => .error (.shape (.noOperation other.kindName "get"))

/-- The parts of a value that has to have parts. -/
def tomlParts : Toml.Value -> Except ManifestProblem (List Toml.Value)
  | .array items => .ok items
  | .table members => .ok (members.map fun member => .text member.1)
  | .text text => .ok (text.toList.map fun c => .text (String.singleton c))
  | other => .error (.shape (.notIterable other.kindName))

/-- Note requirements given as texts. -/
def noteTexts (development : Bool) : List Toml.Value -> Dependencies ->
    Except ManifestProblem Dependencies
  | [], found => .ok found
  | .text line :: lines, found =>
    noteTexts development lines (found.withRequirement development (Requirement.ofLine line))
  | other :: _, _ => .error (.shape (.notText other.kindName))

/-- Note several lists of requirements of the development kind. -/
def noteExtras : List Toml.Value -> Dependencies -> Except ManifestProblem Dependencies
  | [], found => .ok found
  | extra :: extras, found => do
    let found <- noteTexts true (<- tomlParts extra) found
    noteExtras extras found

/-- Note what a project table declares. -/
def noteProject (data : Toml.Members) (found : Dependencies) :
    Except ManifestProblem Dependencies := do
  let project := (data.find? "project").getD (.table [])
  let declared := (<- tableMember project "dependencies").getD (.array [])
  let found <- noteTexts false (<- tomlParts declared) found
  let extras := (<- tableMember project "optional-dependencies").getD (.table [])
  match extras with
  | .table members => noteExtras (members.map (·.2)) found
  | other => throw (.shape (.noOperation other.kindName "values"))

/-- The version a crate is required at: its text, or the version member of its table. -/
def crateVersion (spec : Toml.Value) : Except ManifestProblem String :=
  match spec with
  | .text version => .ok version
  | _ => (tableMember spec "version").map fun version => (version.getD (.text "")).display

/-- Note the crates of a table. -/
def noteCrates (development : Bool) : Toml.Members -> Dependencies ->
    Except ManifestProblem Dependencies
  | [], found => .ok found
  | (name, spec) :: members, found => do
    let version <- crateVersion spec
    noteCrates development members (found.withDependency development (.str name) (.str version))

/-- Note the crates of some sections; true for the development kind. -/
def noteSections (data : Toml.Members) : (sections : List (String × Bool)) -> Dependencies ->
    Except ManifestProblem Dependencies
  | [], found => .ok found
  | (name, development) :: sections, found =>
    match (data.find? name).filter Toml.Value.isPresent with
    | none => noteSections data sections found
    | some (.table members) => do
      noteSections data sections (<- noteCrates development members found)
    | some other => .error (.shape (.noOperation other.kindName "items"))

/-- Note what a manifest in TOML declares. -/
def noteToml (name : String)
    (note : Toml.Members -> Dependencies -> Except ManifestProblem Dependencies)
    (content : ByteArray) (found : Dependencies) : Except ManifestProblem Dependencies :=
  match fileText content with
  | .error fault => .error (.undecodable fault)
  | .ok text =>
    match Toml.readDocument text with
    | .error .malformed => .ok found
    | .error (.overlongInteger digits) => .error (.overlongInteger digits)
    | .ok data => note data (found.withManifest name)

/-- Note what a crate manifest declares. -/
def noteCrateManifest (data : Toml.Members) (found : Dependencies) :
    Except ManifestProblem Dependencies :=
  noteSections data [("dependencies", false), ("dev-dependencies", true)]
    (found.withEcosystem "cargo")

/-! ## All manifests -/

/-- Note what a file at the top of a checkout declares, if it is there. -/
def noteFile (checkout : Checkout) (name : String)
    (note : ByteArray -> Dependencies -> Except ManifestProblem Dependencies)
    (found : Dependencies) : Except ManifestProblem Dependencies :=
  match checkout.overlongLink? (· = name), checkout.topFile? name with
  | some path, _ => .error (.overlongPath path)
  | none, none => .ok found
  | none, some content => note content found

/-- The files of a checkout that list requirements, in the order of their names. -/
def requirementFiles (checkout : Checkout) : List (String × Option ByteArray) :=
  match checkout.directory? with
  | none => []
  | some place =>
    (((place.entries.map (·.1)).filter isRequirementsFile).mergeSort fun left right =>
      left ≤ right).map fun name => (name, place.content? name)

/-- Note the ecosystem of requirement files and project tables, if there was one. -/
def noteRequirementEcosystem (found : Dependencies) : Dependencies :=
  if found.manifests.any fun name => name.startsWith "requirements" || name = "pyproject.toml" then
    found.withEcosystem "pypi"
  else found

/-- The dependencies declared in a checkout. -/
def Dependencies.ofCheckout (checkout : Checkout) : Except ManifestProblem Dependencies := do
  let found <- noteFile checkout "package.json" notePackage .empty
  let found <- noteAllRequirements (requirementFiles checkout) found
  let found <- noteFile checkout "pyproject.toml" (noteToml "pyproject.toml" noteProject) found
  let found := noteRequirementEcosystem found
  let found <- noteFile checkout "go.mod" noteModules found
  noteFile checkout "Cargo.toml" (noteToml "Cargo.toml" noteCrateManifest) found

end RepoSurvey.Survey

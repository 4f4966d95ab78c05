import RepoSurvey.Files.Tree
import RepoSurvey.Text.Lower

/-!
# Walks over a checkout

A walk visits the files of a directory in the order of their names, then each directory in it in the
order of the names. Hidden entries and directories of generated files are left out, and links to
directories are not followed. Links to files and links that lead nowhere count as files.
-/

namespace RepoSurvey.Files

/-- Names of directories that hold generated or foreign files. -/
def generatedDirectories : List String :=
  ["node_modules", "dist", "build", "__pycache__", "venv", ".venv", "target", "vendor", "coverage"]

/-- A file met on a walk. -/
structure Visit where
  directories : List String
  name : String
  content : Option ByteArray

namespace Visit

/-- The path of a visited file, from where the walk started. -/
def path (visit : Visit) : String := String.intercalate "/" (visit.directories ++ [visit.name])

/-- The suffix of a visited file in lower case. -/
def lowerSuffix (visit : Visit) : String := Text.lower (suffix visit.name)

end Visit

/-- Sort by name. -/
def sortByName {α : Type} (named : List (String × α)) : List (String × α) :=
  named.mergeSort fun left right => left.1 ≤ right.1

/-- Whether a walk enters a directory of a name. -/
def isEntered (name : String) : Bool := !isHidden name && !generatedDirectories.contains name

/-- Whether an entry counts as a file. -/
def Place.isFile (place : Place) (entry : String × Node) : Bool :=
  match entry.2 with
  | .directory _ => false
  | .file _ => true
  | .link _ => !place.isDirectory entry.1

/-- The files visited in a directory itself. -/
def Place.ownVisits (place : Place) (path : List String) : List Visit :=
  (sortByName (place.entries.filter fun entry => !isHidden entry.1 && place.isFile entry)).map
    fun entry => ⟨path, entry.1, place.content? entry.1⟩

mutual

/-- The files visited from an entry on. -/
def Node.visits (links : Nat) (above : List Entries) (path : List String) : Node -> List Visit
  | .directory entries =>
    (⟨entries, above, links⟩ : Place).ownVisits path ++
      (sortByName (branches links (entries :: above) path entries)).flatMap (·.2)
  | .file _ | .link _ => []

/-- The files visited in each directory that is entered, under its name. -/
def branches (links : Nat) (above : List Entries) (path : List String) :
    List (String × Node) -> List (String × List Visit)
  | [] => []
  | (name, .directory inner) :: rest =>
    if isEntered name then
      (name, Node.visits links above (path ++ [name]) (.directory inner)) ::
        branches links above path rest
    else branches links above path rest
  | (_, .file _) :: rest | (_, .link _) :: rest => branches links above path rest

end

/-- The files visited from a place on. -/
def Place.visits (place : Place) : List Visit :=
  Node.visits place.links place.above [] (.directory place.entries)

/-- The files visited in a checkout; none when it is no directory. -/
def Checkout.visits (checkout : Checkout) : List Visit :=
  (checkout.directory?.map Place.visits).getD []

end RepoSurvey.Files

import RepoSurvey.Files.Path
import RepoSurvey.Text.Quoted

/-!
# File trees

A tree of directories, files and links. A link names another place, from the top or relative to its own
directory; it may lead nowhere. A directory is looked at together with those above it, so that links
can be followed. On the way from the start of a path to its end only so many links may be followed, so a
directory comes with the number of those that may still be.
-/

namespace RepoSurvey.Files

/-- A directory entry. -/
inductive Node where
  | file (content : ByteArray)
  | link (target : String)
  | directory (entries : List (String × Node))
  deriving Inhabited

/-- The entries of a directory. -/
abbrev Entries := List (String × Node)

/-- The entry of a name. -/
def Entries.find? (name : String) : Entries -> Option Node
  | [] => none
  | (other, node) :: entries => if other = name then some node else find? name entries

/-- Put an entry under a name, in place of one of the same name. -/
def Entries.put (name : String) (node : Node) : Entries -> Entries
  | [] => [(name, node)]
  | (other, old) :: entries =>
    if other = name then (other, node) :: entries else (other, old) :: put name node entries

/-- Put an entry under a path, making the directories on the way. Whatever else stands in the way is
replaced by a directory. -/
def Entries.putAt (node : Node) : (path : List String) -> Entries -> Entries
  | [], entries => entries
  | [name], entries => entries.put name node
  | name :: rest, entries =>
    let inner : Entries :=
      match entries.find? name with
      | some (.directory inner) => inner
      | _ => []
    entries.put name (.directory (putAt node rest inner))

/-- A directory, the directories above it, nearest first, and the number of links that may be followed on
the way onward from it. -/
structure Place where
  entries : Entries
  above : List Entries
  links : Nat
  deriving Inhabited

/-- The names of directories at the top of every file system. -/
def topDirectories : List String :=
  [ "bin", "boot", "etc", "home", "lib", "media", "mnt", "opt", "proc", "root", "run", "sbin", "srv",
    "sys", "tmp", "usr", "var" ]

namespace Place

/-- The top of every file system, as far as it is known: directories, and a file that stays empty. -/
def top (links : Nat) : Place :=
  ⟨("dev", .directory [("null", .file .empty)]) ::
    topDirectories.map fun name => (name, .directory []), [], links⟩

/-- The directory above a place. What is above the directories that are known is the top. -/
def parent (place : Place) : Place :=
  match place.above with
  | [] => top place.links
  | entries :: above => ⟨entries, above, place.links⟩

/-- No link is followed on the way to the directory above. -/
@[simp] theorem links_parent (place : Place) : place.parent.links = place.links := by
  unfold parent
  split <;> rfl

/-- A directory in a place. -/
def inner (place : Place) (entries : Entries) : Place :=
  ⟨entries, place.entries :: place.above, place.links⟩

/-- Where the target of a link in a place leads on from, once the link is followed. -/
def afterLink (place : Place) (target : String) (links : Nat) : Place :=
  if target.startsWith "/" then top links else { place with links := links }

/-- The links that may be followed after a link are those that are said to be left. -/
@[simp] theorem links_afterLink (place : Place) (target : String) (links : Nat) :
    (place.afterLink target links).links = links := by
  unfold afterLink
  split <;> rfl

end Place

/-- What a path leads to. -/
inductive Found where
  | file (content : ByteArray)
  | directory (place : Place)
  deriving Inhabited

/-- Why a path leads nowhere. -/
inductive Lost where
  /-- Nothing is there. -/
  | absent
  /-- Too many links have to be followed. -/
  | loop
  /-- The path or one of its names is too long. -/
  | overlong
  /-- The path holds a character that ends every path. -/
  | unnameable
  deriving DecidableEq, Repr, Inhabited

/-- The report about a path that is too long or has too long a name. -/
def overlongReport (path : Path) : String := "[Errno 36] File name too long: " ++ Text.quoted path.text

/-- The report about a path that holds the character that ends every path. -/
def unnameableReport : String := "embedded null byte"

/-- The number of links that may be followed on the way of one path. -/
def linkLimit : Nat := 40

/-- The greatest number of bytes in a name. -/
def nameLimit : Nat := 255

/-- The number of bytes that every path has to stay below. -/
def pathLimit : Nat := 4096

/-- Follow names from a place. Empty names and single points ask for a directory to stay in. -/
def Place.follow (place : Place) : List String -> Except Lost Found
  | [] => .ok (.directory place)
  | name :: rest =>
    if Path.isIdle name then follow place rest
    else if name = ".." then follow place.parent rest
    else if nameLimit < name.utf8ByteSize then .error .overlong
    else
      match place.entries.find? name with
      | none => .error .absent
      | some (.directory entries) => follow (place.inner entries) rest
      | some (.file content) => if rest.isEmpty then .ok (.file content) else .error .absent
      | some (.link target) =>
        match _ : place.links with
        | 0 => .error .loop
        | links + 1 => follow (place.afterLink target links) (target.splitOn "/" ++ rest)
termination_by names => (place.links, names.length)
decreasing_by
  · exact Prod.Lex.right _ (Nat.lt_succ_self _)
  · rw [Place.links_parent]
    exact Prod.Lex.right _ (Nat.lt_succ_self _)
  · exact Prod.Lex.right _ (Nat.lt_succ_self _)
  · next isLeft =>
    rw [Place.links_afterLink, isLeft]
    exact Prod.Lex.left _ _ (Nat.lt_succ_self _)

/-- What an entry of a place is, links followed; nothing for a link that leads nowhere. -/
def Place.enter? (place : Place) (name : String) : Option Found :=
  (place.follow [name]).toOption

/-- Whether an entry of a place is a directory, links followed. -/
def Place.isDirectory (place : Place) (name : String) : Bool :=
  match place.enter? name with
  | some (.directory _) => true
  | _ => false

/-- Whether an entry is a link to a path that is too long or has too long a name. -/
def Place.isOverlong (place : Place) (entry : String × Node) : Bool :=
  match entry.2 with
  | .directory _ | .file _ => false
  | .link _ =>
    match place.follow [entry.1] with
    | .error .overlong => true
    | _ => false

/-- The content of an entry of a place, links followed. -/
def Place.content? (place : Place) (name : String) : Option ByteArray :=
  match place.enter? name with
  | some (.file content) => some content
  | _ => none

/-- What a path leads to, seen from the entries of a directory. Of other absolute paths no more is known
than of the top. -/
def Path.find (path directory : Path) (working : Entries) : Except Lost Found :=
  let text := path.text
  if text.contains '\x00' then .error .unnameable
  else if pathLimit ≤ text.utf8ByteSize then .error .overlong
  else
    match path.within? directory with
    | some names => (⟨working, [], linkLimit⟩ : Place).follow names
    | none => (Place.top linkLimit).follow path.names

/-- A checkout: the path it was named by and what that leads to. -/
structure Checkout where
  path : Path
  found : Except Lost Found
  deriving Inhabited

namespace Checkout

/-- The checkout at a path, seen from the entries of a directory. -/
def ofPath (working : Entries) (directory : Path) (text : String) : Checkout :=
  let path := Path.ofText text
  ⟨path, path.find directory working⟩

/-- The directory of a checkout, if it is one. -/
def directory? (checkout : Checkout) : Option Place :=
  match checkout.found with
  | .ok (.directory place) => some place
  | _ => none

/-- The path of the first link at the top of a checkout, among the entries of some names, that leads to
a path that is too long or has too long a name. -/
def overlongLink? (checkout : Checkout) (isLookedAt : String -> Bool) : Option Path := do
  let place <- checkout.directory?
  let entry <- List.find? (fun (entry : String × Node) =>
    isLookedAt entry.1 && place.isOverlong entry) place.entries
  pure (checkout.path.child entry.1)

/-- The content of a file at the top of a checkout. -/
def topFile? (checkout : Checkout) (name : String) : Option ByteArray :=
  checkout.directory?.bind (·.content? name)

end Checkout

end RepoSurvey.Files

/-!
# Paths

A path is a list of names joined by slashes. Empty names and single points are of no consequence and
are dropped; two points stand for the directory above and are kept.
-/

namespace RepoSurvey.Files

/-- A path: whether it starts at the top of the file system, and its names. -/
structure Path where
  absolute : Bool
  names : List String
  deriving DecidableEq, Repr, Inhabited

namespace Path

/-- Whether a name is of no consequence. -/
def isIdle (name : String) : Bool := name = "" || name = "."

/-- The path of a text. -/
def ofText (text : String) : Path :=
  ⟨text.startsWith "/", (text.splitOn "/").filter fun name => !isIdle name⟩

/-- The text of a path; an empty relative path is a point. -/
def text (path : Path) : String :=
  let joined := String.intercalate "/" path.names
  if path.absolute then "/" ++ joined else if path.names.isEmpty then "." else joined

/-- The path of an entry of the directory at a path. -/
def child (path : Path) (name : String) : Path := { path with names := path.names ++ [name] }

/-- The last name of a path; nothing when it has none. -/
def name (path : Path) : String := path.names.getLastD ""

/-- The names that lead to a path from a directory; nothing for an absolute path that is not in it. -/
def within? (path directory : Path) : Option (List String) :=
  if !path.absolute then some path.names
  else if directory.names.isPrefixOf path.names then
    some (path.names.drop directory.names.length)
  else none

/-- Drop names of no consequence and each name that two points take back. -/
def collapse (names : List String) : List String :=
  (names.filter fun name => !isIdle name).foldl
    (fun kept name => if name = ".." then kept.dropLast else kept ++ [name]) []

end Path

/-- The part of a name from its last point on, unless the point stands at an end. -/
def suffix (name : String) : String :=
  let chars := name.toList
  let reversed := (chars.reverse.takeWhile (· != '.'))
  if reversed.isEmpty || chars.length ≤ reversed.length + 1 then ""
  else String.ofList ('.' :: reversed.reverse)

/-- Whether a name is hidden. -/
def isHidden (name : String) : Bool := name.startsWith "."

end RepoSurvey.Files

import RepoSurvey.Files.Tree

/-!
# Resolved paths

A path is resolved by following its links name by name, up to the first link that leads back to itself;
what follows that one is kept as it is. Names that are not there are kept too, and two points take back
the name before them.
-/

namespace RepoSurvey.Files

mutual

/-- The number of links in an entry. -/
def Node.linkCount : Node -> Nat
  | .file _ => 0
  | .link _ => 1
  | .directory entries => linkCounts entries

/-- The number of links in some entries. -/
def linkCounts : List (String × Node) -> Nat
  | [] => 0
  | (_, node) :: entries => node.linkCount + linkCounts entries

end

/-- The target of the link at the end of names that lead through directories. -/
def Entries.linkAt? : (names : List String) -> Entries -> Option String
  | [], _ => none
  | [name], entries =>
    match entries.find? name with
    | some (.link target) => some target
    | _ => none
  | name :: rest, entries =>
    match entries.find? name with
    | some (.directory inner) => linkAt? rest inner
    | _ => none

/-- Names from the top on, and whether all links among them were followed. -/
structure Resolution where
  names : List String
  complete : Bool
  deriving DecidableEq, Repr

/-- Follow the links among names from resolved names on. `links` bounds how many links can be followed
inside each other, and `active` holds the links that are being followed. -/
def Resolution.follow (linkAt? : List String -> Option String) (links : Nat)
    (active : List (List String)) (resolved : List String) : List String -> Resolution
  | [] => ⟨resolved, true⟩
  | name :: rest =>
    if Path.isIdle name then follow linkAt? links active resolved rest
    else if name = ".." then follow linkAt? links active resolved.dropLast rest
    else
      let next := resolved ++ [name]
      match linkAt? next with
      | none => follow linkAt? links active next rest
      | some target =>
        match links with
        | 0 => ⟨next ++ rest, false⟩
        | links + 1 =>
          if active.contains next then ⟨next ++ rest, false⟩
          else
            let start := if target.startsWith "/" then [] else resolved
            let inner := follow linkAt? links (next :: active) start (target.splitOn "/")
            if inner.complete then follow linkAt? (links + 1) active inner.names rest
            else ⟨inner.names ++ rest, false⟩
termination_by names => (links, names.length)

/-- A path made absolute from a directory with some entries, and its links followed. -/
def Path.resolve (path directory : Path) (working : Entries) : Path :=
  let linkAt? (names : List String) : Option String :=
    ((⟨true, names⟩ : Path).within? directory).bind fun names => working.linkAt? names
  let start := if path.absolute then [] else directory.names
  ⟨true, Path.collapse (Resolution.follow linkAt? (linkCounts working) [] start path.names).names⟩

end RepoSurvey.Files

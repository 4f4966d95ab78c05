import RepoSurvey.Clock.Moment
import RepoSurvey.Files.Tree
import RepoSurvey.Json.Shape
import RepoSurvey.Text.Lower

/-!
# Folder listings

A listing shows the entries of a directory, directories first and names in lower-case order, each
directory followed by its own entries one step further in. Links to directories are entered as well,
so the depth is bounded. The number of lines is bounded too; `outline` is the listing without that
bound.
-/

namespace RepoSurvey.Survey

open Files (Checkout Place Found)
open Json (ShapeFault)

/-- Names of directories that are not listed. -/
def unlistedDirectories : List String :=
  ["node_modules", "dist", "build", "__pycache__", "venv", ".venv", "target"]

/-- The default depth of a listing. -/
def defaultDepth : Int := 3

/-- The default number of lines of a listing. -/
def defaultLineLimit : Int := 200

/-- An entry to be listed: its name and, for a directory, its place. -/
structure Listed where
  name : String
  inside : Option Place

/-- The entries of a place that are listed, in order. None is when the kind of one cannot be told. -/
def listedIn (place : Place) : List Listed :=
  let shown := if place.entries.any place.isOverlong then [] else place.entries.filter fun entry =>
    !Files.isHidden entry.1 && !unlistedDirectories.contains entry.1
  let keyed := shown.map fun entry =>
    let inside :=
      match place.enter? entry.1 with
      | some (.directory inner) => some inner
      | _ => none
    (Text.lower entry.1, (⟨entry.1, inside⟩ : Listed))
  (keyed.mergeSort fun left right =>
    match left.2.inside, right.2.inside with
    | some _, none => true
    | none, some _ => false
    | _, _ => left.1 ≤ right.1).map (·.2)

/-- The line of an entry. -/
def Listed.line (indent : Nat) (listed : Listed) : String :=
  String.ofList (List.replicate (2 * indent) ' ') ++ listed.name ++
    (if listed.inside.isSome then "/" else "")

mutual

/-- The lines below a place without a bound on their number. -/
def outline (depth indent : Nat) (place : Place) : List String :=
  match depth with
  | 0 => []
  | depth + 1 => outlineEntries depth indent (listedIn place)
termination_by (depth, 0)

/-- The lines of entries and of what is below them. -/
def outlineEntries (depth indent : Nat) : List Listed -> List String
  | [] => []
  | listed :: rest =>
    let inner :=
      match listed.inside with
      | none => []
      | some place => outline depth (indent + 1) place
    listed.line indent :: (inner ++ outlineEntries depth indent rest)
termination_by entries => (depth, entries.length + 1)

end

/-- Lines listed so far, with the number of lines that may follow; nothing may follow once an entry
found no room. -/
structure Progress where
  reversed : List String
  room : Nat
  truncated : Bool

mutual

/-- List the entries of a place as long as there is room. -/
def listPlace (depth indent : Nat) (place : Place) (progress : Progress) : Progress :=
  match depth with
  | 0 => progress
  | depth + 1 =>
    if progress.truncated then progress else listEntries depth indent (listedIn place) progress
termination_by (depth, 0)

/-- List entries, and what is below them, as long as there is room. -/
def listEntries (depth indent : Nat) : List Listed -> Progress -> Progress
  | [], progress => progress
  | listed :: rest, progress =>
    match progress.room with
    | 0 => { progress with truncated := true }
    | room + 1 =>
      let progress : Progress := ⟨listed.line indent :: progress.reversed, room, progress.truncated⟩
      let progress :=
        match listed.inside with
        | none => progress
        | some place => listPlace depth (indent + 1) place progress
      listEntries depth indent rest progress
termination_by entries => (depth, entries.length + 1)

end

/-- The last line of a listing that is cut off. -/
def truncationMark : String := "... (listing truncated)"

/-- The lines of the listing of a checkout. -/
def listingLines (checkout : Checkout) (depth lineLimit : Int) : List String :=
  let root := (if checkout.path.names.isEmpty then checkout.path.text else checkout.path.name) ++ "/"
  let progress : Progress := ⟨[], (lineLimit - 1).toNat, false⟩
  let progress :=
    match checkout.directory? with
    | none => progress
    | some place => listPlace depth.toNat 1 place progress
  root :: (progress.reversed.reverse ++ (if progress.truncated then [truncationMark] else []))

/-- The listing of a checkout. -/
def listing (checkout : Checkout) (depth lineLimit : Int) : String :=
  String.intercalate "\n" (listingLines checkout depth lineLimit)

/-- The depth that a value stands for. -/
def depthOf : Json -> Except ShapeFault Int
  | .float depth => .ok depth.toRat.floor
  | value => value.countBound ">"

/-- The listing of a checkout with bounds from outside. The number of lines is not looked at when
there is nothing to list. -/
def givenListing (checkout : Checkout) (depth lineLimit : Json) : Except ShapeFault String := do
  let depth <- depthOf depth
  match lineLimit.countBound ">=" with
  | .ok lineLimit => pure (listing checkout depth lineLimit)
  | .error fault =>
    if (listingLines checkout depth 1).length = 1 then pure (listing checkout depth 1)
    else throw fault

/-- Where an agent works. -/
structure Environment where
  checkout : Checkout
  operatingSystem : String
  processDirectory : String

/-- The part of a system prompt that describes where an agent works. -/
def Environment.preamble (environment : Environment) (today : Clock.Date) : String :=
  "This is the environment you are working in.\n" ++
  "Today's date: " ++ today.text ++ "\n" ++
  "Operating system: " ++ environment.operatingSystem ++ "\n" ++
  "Current working directory: " ++ environment.checkout.path.text ++ "\n" ++
  "Process directory: " ++ environment.processDirectory ++ "\n" ++
  "Folder structure of the repository (hidden and build directories omitted, depth " ++
    Number.intText defaultDepth ++ "):\n" ++
  listing environment.checkout defaultDepth defaultLineLimit

/-- A system prompt: where the agent works, then its role. -/
def Environment.systemPrompt (environment : Environment) (today : Clock.Date) (role : String) :
    String :=
  environment.preamble today ++ "\n\n---\n\n" ++ role

end RepoSurvey.Survey

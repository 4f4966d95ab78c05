import RepoSurvey.Analysis.Context
import RepoSurvey.Analysis.Progress
import RepoSurvey.Json.Access
import RepoSurvey.Rehearsal.Script
import RepoSurvey.Session.Entry

/-!
# Described rehearsals

A rehearsal, the files it works on and the context of its runs can be described by a JSON object. A
text can be described as repeated, a file by its bytes, and many files by a pattern of their names.
What a description does not mention has a default.
-/

namespace RepoSurvey.Rehearsal.Description

open Analysis (Context World)
open Chat (KeyPool SettingsProblem ToolCall ToolDefinition)
open Clock (Moment)
open Files (Entries Node)
open Schema (Report)
open Store (Lifetime)

/-- A text, or one that is repeated a number of times; empty for other values. -/
def text (value : Json) : String :=
  match value, value.member "repeat", value.member "times" with
  | .str text, _, _ => text
  | _, .str text, .int times => String.join (List.replicate times.toNat text)
  | _, _, _ => ""

/-- A value in which a repeated text is spelled out. -/
def spelled (value : Json) : Json :=
  if (value.member "repeat").string?.isSome then .str (text value) else value

/-- The text of a member, or else a default. -/
def textOr (description : Json) (name otherwise : String) : String :=
  ((description.get? name).map text).getD otherwise

/-- A list of texts. -/
def texts (value : Json) : List String := value.items.map text

/-- A number of seconds, in microseconds; zero for other values. -/
def microseconds : Json -> Int
  | .int seconds => seconds * Moment.perSecond
  | .float seconds => (seconds.toRat * Moment.perSecond + 1 / 2).floor
  | .bool true => Moment.perSecond
  | _ => 0

/-! ## Files -/

/-- The value of a hexadecimal digit. -/
def hexDigit (c : Char) : UInt8 :=
  (if c.isDigit then c.toNat - '0'.toNat else c.toLower.toNat - 'a'.toNat + 10).toUInt8

/-- The bytes written by pairs of hexadecimal digits. -/
def hexBytes : List Char -> List UInt8
  | high :: low :: rest => (hexDigit high * 16 + hexDigit low) :: hexBytes rest
  | _ => []

/-- A directory entry. -/
def node (value : Json) : Node :=
  match value.member "hex", value.member "link", value.member "dir" with
  | .str digits, _, _ => .file ⟨(hexBytes digits.toList).toArray⟩
  | _, .str target, _ => .link target
  | _, _, .bool _ => .directory []
  | _, _, _ => .file (text value).toUTF8

/-- The name of the directory in which the described files are. -/
def checkoutName : String := "repo"

/-- Put an entry under a path in the checkout. -/
def place (path : String) (entry : Node) (entries : Entries) : Entries :=
  entries.putAt entry (checkoutName :: (Files.Path.ofText path).names)

/-- Put described files into the checkout. -/
def placeFiles (files : Json) (entries : Entries) : Entries :=
  files.members.foldl (fun entries (path, value) => place path (node value) entries) entries

/-- Put many files of one content into the checkout. -/
def placeBulk (bulk : Json) (entries : Entries) : Entries :=
  let content := Node.file (text (bulk.member "text")).toUTF8
  (List.range (bulk.integerOr "count" 0).toNat).foldl
    (fun entries index =>
      let number := Number.padZeros 5 (Number.natText index)
      place (text (bulk.member "prefix") ++ number ++ text (bulk.member "suffix")) content entries)
    entries

/-- The described files. -/
def entries (description : Json) : Entries :=
  (description.member "bulk").items.foldl (fun entries bulk => placeBulk bulk entries)
    (placeFiles (description.member "files") [(checkoutName, .directory [])])

/-! ## What the model and the tools do -/

/-- A cue. -/
def cue (value : Json) : Cue :=
  let fires := value.member "abort" != .null
  match value.member "abort", value.member "raise" with
  | .str "hang", _ => .hangs
  | _, .str report => .refuses report fires
  | _, _ =>
    let calls := (value.member "tool_calls").items.filterMap fun call =>
      (ToolCall.codec.read call).toOption
    .replies ⟨value.string?.getD (text (value.member "content")), calls⟩ fires

/-- What a described tool does. -/
def behaviour (value : Json) : Behaviour :=
  match value.member "raise", value.member "abort", value.member "echo" with
  | .str report, _, _ => .raises report
  | _, .bool true, _ => .hangs
  | _, _, .bool true => .echoes
  | _, _, _ => .returns (value.member "return")

/-- A tool and what it does. A schema that does not count as present is left out. -/
def tool (value : Json) : Except Report (ToolDefinition × Behaviour) :=
  let schema := (value.get? "schema").filter Json.isPresent
  let declaration := ((value.get? "name").map fun name => ("name", name)).toList ++
    ((value.get? "description").map fun text => ("description", text)).toList ++
    (schema.map fun schema => ("parameter_schema", schema)).toList
  ((ToolDefinition.codec.read (.obj declaration)).toExcept ToolDefinition.recordName).map
    fun definition => (definition, behaviour value)

/-- The described tools and what they do. -/
def tools (description : Json) : Except Report (List (ToolDefinition × Behaviour)) :=
  (description.member "tools").items.mapM tool

/-- The described tools as far as all of them can be declared. -/
def usableTools (description : Json) : List (ToolDefinition × Behaviour) :=
  (tools description).toOption.getD []

/-- The described tools. -/
def registry (description : Json) : Agent.Registry :=
  .ofList ((usableTools description).map (·.1))

/-- How it is decided whether a turn is kept. -/
def continuation (description : Json) : Agent.Continuation :=
  match description.get? "continuation" with
  | some (.str "heuristic") => .rules Agent.Continuation.defaultTailLength
  | some (.str "llm") | some (.str "default") | some .null => .model
  | some (.arr _) => .outside
  | _ => .never

/-- The prepared trouble. -/
def trouble (description : Json) : Trouble where
  reports := (description.member "faults").members.map fun (name, report) => (name, text report)
  events := texts (description.member "sink_raises")
  settlements :=
    (description.member "settled_raises").items.filterMap fun count =>
      count.integer?.map Int.toNat

/-- The scripts by name, or one script for every conversation. A script without cues is none. -/
def scripts (description : Json) : List (String × List Cue) :=
  match description.get? "script" with
  | some cues => [(universalName, cues.items.map cue)]
  | none =>
    let named := (description.member "replies").members.filter fun entry => !entry.2.items.isEmpty
    named.map fun (name, cues) => (name, cues.items.map cue)

/-- The described rehearsal. -/
def rehearsal (description : Json) : Rehearsal where
  universal := (description.get? "script").isSome
  scripts := scripts description
  tools := (usableTools description).reverse.map fun (tool, behaviour) => (tool.name, behaviour)
  verdicts := (description.member "continuation").items.map (· == .bool true)
  trouble := trouble description
  requests := []
  choices := 0

/-! ## Contexts and worlds -/

/-- The number of iterations of agents when none is described. -/
def defaultIterations : Int := 10

/-- The described number of writers at work. -/
def concurrency (description : Json) : Int := description.integerOr "concurrency" 1

/-- A described lifetime, or else some seconds. -/
def lifetime (description : Json) (name : String) (seconds : Int) : Lifetime :=
  ((description.get? name).map Lifetime.ofJson).getD (.ofSeconds seconds)

/-- How long progress records are kept. -/
def progressLifetime (description : Json) : Lifetime :=
  lifetime description "ttl" Analysis.Progress.defaultSeconds

/-- The described time limit of sessions. -/
def timeLimit (description : Json) : Except Session.LimitFault Int :=
  ((description.get? "timeout_seconds").map Session.limitOf).getD (.ok Session.defaultTimeLimit)

/-- How many sessions are kept, as it is described. -/
def capacity (description : Json) : Json :=
  (description.get? "max_sessions").getD (.int Session.defaultMaxSessions)

/-- The described context of runs. -/
def context (operatingSystem processDirectory : String) (description : Json) : Context where
  working := entries description
  operatingSystem := operatingSystem
  processDirectory := processDirectory
  registry := registry description
  continuation := continuation description
  maxIterations := description.integerOr "max_iterations" defaultIterations
  prompts := Prompt.library
  concurrency := (concurrency description).toNat
  primaryLanguage := textOr description "primary_language" Context.defaultPrimaryLanguage
  secondaryLanguage := textOr description "secondary_language" Context.defaultSecondaryLanguage
  resultLifetime := lifetime description "result_cache_ttl" Context.defaultResultSeconds
  progressLifetime := progressLifetime description

/-- The described keys. -/
def keys (description : Json) : Except SettingsProblem KeyPool :=
  KeyPool.ofKeys (((description.get? "keys").map texts).getD ["k1"])

/-- A world at a moment in which nothing was done yet. -/
def world (start : Moment) (keys : KeyPool) (description : Json) : World Rehearsal where
  clock := start
  identifiers := 0
  keys := keys
  cache := if description.member "kind" = .str "sql" then .table .empty else .memory .empty
  documents := []
  sessions :=
    .empty (Session.roomFor (capacity description))
      ((timeLimit description).toOption.getD Session.defaultTimeLimit)
  calls := []
  ended := []
  outside := rehearsal description

end RepoSurvey.Rehearsal.Description

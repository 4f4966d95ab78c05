import RepoSurvey.Analysis.Run
import RepoSurvey.Analysis.World
import RepoSurvey.CommandLine.Arguments
import RepoSurvey.Files.Resolution
import RepoSurvey.Text.Encoding

/-!
# The program

The program runs one analysis of a checkout. It prints every event as a line and a summary at the end;
a failed run is reported on the error output. Settings that cannot be used keep it from running.
-/

namespace RepoSurvey.CommandLine

open Analysis (Context Event Listening Problem Result Surroundings World)
open Chat (KeyPool Settings SettingsProblem)

/-- What the program leaves behind. -/
structure Outcome where
  code : Nat
  output : String
  errors : String
  deriving DecidableEq, Repr

/-- Why the program does not run. -/
inductive Hindrance where
  /-- The path of the checkout cannot be a path. -/
  | unnameable
  /-- Links on the path of the checkout lead back to themselves. -/
  | loop (path : String)
  | settings (problem : SettingsProblem)
  | concurrency
  /-- A problem of which no report is made. -/
  | breakdown (problem : Problem)
  deriving Repr

/-- The wording of a hindrance. -/
def Hindrance.message : Hindrance -> String
  | .unnameable => Files.unnameableReport
  | .loop path => "Symlink loop from " ++ Text.quoted path
  | .settings problem => problem.message
  | .concurrency => Context.concurrencyRequired
  | .breakdown problem => problem.message

/-- Where the program runs. -/
structure Site where
  working : Files.Entries
  directory : String
  operatingSystem : String

namespace Site

/-- The context of a run at a site, without tools. -/
def context (site : Site) (concurrency : Nat) : Context where
  working := site.working
  operatingSystem := site.operatingSystem
  processDirectory := site.directory
  registry := []
  continuation := .model
  maxIterations := Agent.defaultMaxIterations
  prompts := Prompt.library
  concurrency := concurrency
  primaryLanguage := Context.defaultPrimaryLanguage
  secondaryLanguage := Context.defaultSecondaryLanguage
  resultLifetime := .ofSeconds Context.defaultResultSeconds
  progressLifetime := .ofSeconds Analysis.Progress.defaultSeconds

/-- The path of the site. -/
def path (site : Site) : Files.Path := .ofText site.directory

/-- What databases begin with. -/
def databaseMark : List UInt8 := "SQLite format 3".toUTF8.toList

/-- The report about a database that cannot be opened. -/
def unopened : String := "unable to open database file"

/-- What a place tells about its use for a database: what is there already has to be a database. -/
def troubleWith : Except Files.Lost Files.Found -> Option String
  | .error .absent => none
  | .error _ | .ok (.directory _) => some unopened
  | .ok (.file content) =>
    if content.isEmpty || databaseMark.isPrefixOf content.toList then none
    else some "file is not a database"

/-- Why a database cannot be opened: its directory has to be there. -/
def databaseTrouble? (site : Site) (database : Files.Path) : Option String :=
  let find (path : Files.Path) := path.find site.path site.working
  let resolved := database.resolve site.path site.working
  match find database, find { resolved with names := resolved.names.dropLast } with
  | .error .unnameable, _ => some Files.unnameableReport
  | found, .ok (.directory _) => troubleWith found
  | _, _ => some unopened

/-- The path of a checkout, its links followed. -/
def locate (site : Site) (text : String) : Except Hindrance String :=
  let path := Files.Path.ofText text
  let resolved := path.resolve site.path site.working
  match path.find site.path site.working, resolved.find site.path site.working with
  | .error .unnameable, _ => .error .unnameable
  | _, .error .loop => .error (.loop resolved.text)
  | _, _ => .ok resolved.text

end Site

/-- Surroundings in which no call to the stored documents is accepted. -/
def withoutDocuments {σ : Type} (report : String) (surroundings : Surroundings σ) :
    Surroundings σ where
  agent := surroundings.agent
  refusal
    | .saveDocument .., state | .discardDrafts .., state | .countDrafts _, state
    | .promoteDrafts _, state => (some report, state)
    | call, state => surroundings.refusal call state
  choose := surroundings.choose
  elapsed := surroundings.elapsed

/-- A number in at least three places. -/
def inThreePlaces (number : Int) : String :=
  let digits := Number.intText number
  String.ofList (List.replicate (3 - digits.length) ' ') ++ digits

/-- An event as a line. -/
def eventLine (event : Event) : String :=
  let details := (event.details.filter (· != "")).map fun details => " (" ++ details ++ ")"
  "[" ++ inThreePlaces event.progress ++ "%] " ++ event.stage ++ details.getD "" ++ "\n"

/-- The summary of a result. -/
def summary (result : Result) (database : String) : String :=
  let counted {α : Type} (list : List α) : String := Number.natText list.length
  "\nProject:   " ++ result.projectKey ++ "\nFeatures:  " ++
    counted result.coreFeatures.features ++ "\nDocuments: " ++ counted result.documents ++
    " written, " ++ counted result.failedDocuments ++ " failed\n" ++
    String.join (result.documents.map fun document =>
      "  - " ++ document.docName ++ ".md  (" ++ document.title ++ ")\n") ++
    String.join (result.failedDocuments.map fun failed =>
      "  ! " ++ failed.title ++ ": " ++ failed.error ++ "\n") ++
    "Database:  " ++ database ++ "\n"

/-- The report of a failed run. -/
def failureReport (problem : Problem) : String := "\nAnalysis failed: " ++ problem.message ++ "\n"

/-- The usage of the program. -/
def usage : String :=
  "usage: [-h] [--url URL] [--type TYPE] [--db DB] [--concurrency CONCURRENCY] [-v] repo_path\n"

/-- The request for a checkout at a path. Its URL defaults to the address of the path. -/
def Options.request (options : Options) (path : String) : Analysis.Request :=
  let address := "file://" ++ String.ofList (Text.Percent.encode path.toList)
  ⟨(options.url.filter (· != "")).getD address, path, options.analysisType, []⟩

/-- The events a run reports, in order. -/
def output {σ : Type} (before : Nat) (world : World σ) : String :=
  String.join ((world.events.drop before).map eventLine)

/-- Run the analysis that the options ask for, of the checkout at a path. -/
def analyze {σ : Type} (surroundings : Surroundings σ) (site : Site) (options : Options)
    (path : String) (world : World σ) : Except Hindrance Outcome × World σ :=
  let database := Files.Path.ofText options.database
  let surroundings :=
    match site.databaseTrouble? database with
    | some report => withoutDocuments report surroundings
    | none => surroundings
  let before := world.events.length
  let attempt :=
    Analysis.runRequest (site.context options.concurrency.toNat) ⟨true⟩ (options.request path)
  let (result, world) := world.run surroundings attempt.run
  match result with
  | .ok result => (.ok ⟨0, output before world ++ summary result database.text, ""⟩, world)
  | .error (.overlongPath path) => (.error (.breakdown (.overlongPath path)), world)
  | .error problem => (.ok ⟨1, output before world, failureReport problem⟩, world)

/-- Run the program with options. `world` is the world for given keys. -/
def runOptions {σ : Type} (surroundings : Surroundings σ) (site : Site)
    (environment : String -> Option String) (world : KeyPool -> World σ) (options : Options) :
    Except Hindrance Outcome := do
  let path <- site.locate options.repositoryPath
  let settings <- (Settings.ofEnvironment environment).mapError .settings
  let keys <- (KeyPool.ofKeys settings.apiKeys).mapError .settings
  if options.concurrency < 1 then throw .concurrency
  (analyze surroundings site options path (world keys)).1

/-- Run the program on a command line. `world` is the world for given keys. -/
def run {σ : Type} (surroundings : Surroundings σ) (site : Site)
    (environment : String -> Option String) (world : KeyPool -> World σ)
    (arguments : List String) : Except Hindrance Outcome :=
  match Options.ofTexts arguments with
  | .error .help => .ok ⟨0, usage, ""⟩
  | .error .usage => .ok ⟨2, "", usage⟩
  | .ok options => runOptions surroundings site environment world options

end RepoSurvey.CommandLine

import RepoSurvey.CommandLine.Program
import RepoSurvey.Json.Reader
import RepoSurvey.Rehearsal.Description

/-!
# Running the program

The program is given its command line and, on the standard input, a description of the files and of the
rehearsal it works with. The description may hold an environment and the moment at which it starts.
-/

namespace RepoSurvey

open Rehearsal (Description.entries Description.text Description.textOr Description.world)

/-- The site of a description. -/
def describedSite (description : Json) : CommandLine.Site :=
  ⟨Description.entries description, Description.textOr description "directory" "/work",
    Description.textOr description "system" "Linux"⟩

/-- The environment of a description. -/
def describedEnvironment (description : Json) (name : String) : Option String :=
  ((description.member "env").get? name).map Description.text

/-- The moment at which a description starts, given in seconds. -/
def describedStart (description : Json) : Clock.Moment :=
  ⟨description.integerOr "start" 0 * Clock.Moment.perSecond⟩

/-- Run the program with a description. -/
def runDescribed (description : Json) (arguments : List String) :
    Except CommandLine.Hindrance CommandLine.Outcome :=
  CommandLine.run Rehearsal.surroundings (describedSite description)
    (describedEnvironment description)
    (fun keys => Description.world (describedStart description) keys description) arguments

end RepoSurvey

open RepoSurvey in
/-- Run the program: read a description, print what the run leaves behind and give its code. -/
def main (arguments : List String) : IO UInt32 := do
  let text <- (<- IO.getStdin).getLine
  match Json.readAll text.toList with
  | .error fault =>
    IO.eprintln (fault.message text.toList)
    pure 1
  | .ok description =>
    match runDescribed description arguments with
    | .error hindrance =>
      IO.eprintln hindrance.message
      pure 1
    | .ok outcome =>
      IO.print outcome.output
      IO.eprint outcome.errors
      pure outcome.code.toUInt32

import RepoSurvey.Analysis.Request
import RepoSurvey.Number.Numeral

/-!
# Arguments

The command line names a checkout and may set options. An option may be cut short as long as it is
clear which one is meant, and its value may follow it or be joined to it by an equals sign. After two
hyphens everything is a plain word. Options without a value may be given by letters after one hyphen. A
command line that is not understood is refused as a whole, unless help was asked for first.
-/

namespace RepoSurvey.CommandLine

open Analysis (AnalysisType)

/-- What the command line asks for. -/
structure Options where
  repositoryPath : String
  url : Option String
  analysisType : AnalysisType
  database : String
  concurrency : Int
  verbose : Bool
  deriving DecidableEq, Repr

/-- Why nothing is run. -/
inductive Stop where
  | usage
  | help
  deriving DecidableEq, Repr

/-- The options by what they set. -/
inductive Flag where
  | help
  | url
  | analysisType
  | database
  | concurrency
  | verbose
  deriving DecidableEq, Repr

namespace Flag

/-- The options by name. -/
def names : List (String × Flag) :=
  [ ("--help", .help), ("--url", .url), ("--type", .analysisType), ("--db", .database),
    ("--concurrency", .concurrency), ("--verbose", .verbose), ("-h", .help), ("-v", .verbose) ]

/-- The option of a name. -/
def ofName? (name : String) : Option Flag := (names.find? (·.1 == name)).map (·.2)

/-- The options whose long name begins like this. -/
def beginning (start : String) : List Flag :=
  (names.filter fun entry => entry.1.startsWith start).map (·.2)

/-- The option of a letter. -/
def ofLetter? (letter : Char) : Option Flag := ofName? (String.ofList ['-', letter])

/-- Whether an option has a value. -/
def hasValue : Flag -> Bool
  | .help | .verbose => false
  | _ => true

end Flag

/-- An argument: a plain word, an option with what is joined to it, letters after one hyphen, the two
hyphens, or something that looks like an option and is none. -/
inductive Argument where
  | word (text : String)
  | flag (flag : Flag) (joined : Option String)
  | letters (first : Flag) (more : List Char)
  | separator
  | unknown
  deriving DecidableEq, Repr

namespace Argument

/-- Whether a text is a negative number. A line feed may end it. -/
def isNegativeNumber (text : String) : Bool :=
  let isDigit (c : Char) : Bool := (Text.digitValue? c).isSome
  let body := text.toList.drop 1
  let body := if body.getLast? = some '\n' then body.dropLast else body
  let fraction := (body.dropWhile (· != '.')).drop 1
  if body.contains '.' then
    (body.takeWhile (· != '.')).all isDigit && !fraction.isEmpty && fraction.all isDigit
  else !body.isEmpty && body.all isDigit

/-- A text that begins with a hyphen and is not the full name of an option. -/
def plain (text : String) : Argument :=
  if isNegativeNumber text || text.contains ' ' then .word text else .unknown

/-- The argument of a text that begins with a hyphen; several options may be meant. What is joined to a
letter are more letters. -/
def ofHyphened (text : String) : Except Stop Argument :=
  let chars := text.toList
  let name := String.ofList (chars.takeWhile (· != '='))
  let joined :=
    if chars.contains '=' then some (String.ofList ((chars.dropWhile (· != '=')).drop 1)) else none
  match Flag.ofName? name, chars with
  | some found, _ =>
    match joined, name.startsWith "--" with
    | some more, false =>
      .ok (if more.isEmpty then .flag found joined else .letters found more.toList)
    | _, _ => .ok (.flag found joined)
  | none, '-' :: '-' :: _ =>
    match Flag.beginning name with
    | [] => .ok (plain text)
    | [found] => .ok (.flag found joined)
    | _ => .error .usage
  | none, '-' :: letter :: more =>
    match Flag.ofLetter? letter with
    | some found => .ok (.letters found more)
    | none => .ok (plain text)
  | none, _ => .ok (.word text)

/-- The argument of a text. -/
def ofText (text : String) : Except Stop Argument :=
  if text.startsWith "-" && text != "-" then ofHyphened text else .ok (.word text)

/-- The arguments of some texts. -/
def ofTexts : List String -> Except Stop (List Argument)
  | [] => .ok []
  | "--" :: rest => .ok (.separator :: rest.map .word)
  | text :: rest => do
    let argument <- ofText text
    pure (argument :: (<- ofTexts rest))

end Argument

/-- Options as far as they are read. A checkout is needed in the end, and nothing may be strange. -/
structure Draft where
  repositoryPath : Option String
  strange : Bool
  url : Option String
  analysisType : AnalysisType
  database : String
  concurrency : Int
  verbose : Bool
  deriving DecidableEq, Repr

namespace Draft

/-- The database used when no other is named. -/
def defaultDatabase : String := "repo_analyzer.db"

/-- The number of writers when no other is given. -/
def defaultConcurrency : Int := 4

/-- Nothing read so far. -/
def empty : Draft := ⟨none, false, none, .full, defaultDatabase, defaultConcurrency, false⟩

/-- Note a plain word: the first one names the checkout. -/
def noteWord (draft : Draft) (text : String) : Draft :=
  match draft.repositoryPath with
  | none => { draft with repositoryPath := some text }
  | some _ => { draft with strange := true }

/-- Note an option without a value. -/
def noteSwitch (draft : Draft) : Flag -> Except Stop Draft
  | .help => .error .help
  | .verbose => .ok { draft with verbose := true }
  | _ => .error .usage

/-- Note an option with its value. -/
def noteValue (draft : Draft) (flag : Flag) (value : String) : Except Stop Draft :=
  match flag with
  | .url => .ok { draft with url := some value }
  | .database => .ok { draft with database := value }
  | .analysisType =>
    match AnalysisType.all.find? (·.name = value) with
    | some analysisType => .ok { draft with analysisType }
    | none => .error .usage
  | .concurrency =>
    match Number.readInteger 4300 value.toList with
    | .ok concurrency => .ok { draft with concurrency }
    | .error _ => .error .usage
  | .help | .verbose => .error .usage

/-- Note the options of several letters, each of which has to mean one. -/
def noteLetters (draft : Draft) (first : Flag) (more : List Char) : Except Stop Draft :=
  match more.mapM Flag.ofLetter? with
  | some flags => (first :: flags).foldlM noteSwitch draft
  | none => .error .usage

/-- Read arguments. Two hyphens belong to the word that names the checkout. -/
def readArguments : Draft -> List Argument -> Except Stop Draft
  | draft, [] => .ok draft
  | draft, .word text :: .separator :: rest =>
    if draft.repositoryPath.isNone then readArguments (draft.noteWord text) rest
    else readArguments { draft with strange := true } rest
  | draft, .word text :: rest => readArguments (draft.noteWord text) rest
  | draft, .separator :: rest =>
    readArguments { draft with strange := draft.strange || draft.repositoryPath.isSome } rest
  | draft, .letters first more :: rest => do
    let draft <- draft.noteLetters first more
    readArguments draft rest
  | draft, .flag flag (some value) :: rest => do
    let draft <- draft.noteValue flag value
    readArguments draft rest
  | draft, .flag flag none :: rest =>
    if flag.hasValue then
      match rest with
      | .word value :: rest => do
        let draft <- draft.noteValue flag value
        readArguments draft rest
      | _ => .error .usage
    else do
      let draft <- draft.noteSwitch flag
      readArguments draft rest
  | draft, .unknown :: rest => readArguments { draft with strange := true } rest

/-- The options, if nothing is missing or strange. -/
def toOptions? (draft : Draft) : Option Options :=
  if draft.strange then none
  else
    draft.repositoryPath.map fun repositoryPath =>
      ⟨repositoryPath, draft.url, draft.analysisType, draft.database, draft.concurrency,
        draft.verbose⟩

end Draft

/-- Read a command line. -/
def Options.ofTexts (texts : List String) : Except Stop Options := do
  let arguments <- Argument.ofTexts texts
  let draft <- Draft.readArguments .empty arguments
  match draft.toOptions? with
  | some options => .ok options
  | none => .error .usage

end RepoSurvey.CommandLine

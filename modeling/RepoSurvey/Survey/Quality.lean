import RepoSurvey.Survey.Structure
import RepoSurvey.Text.Blank
import RepoSurvey.Text.Caseless
import RepoSurvey.Text.Utf8

/-!
# Measures of code

Source files are read up to a number and a size. The complexity of a file is one more than the number
of its branching words and connectives. Long lines that occur again count as duplicates, and lines of
some shapes are listed as findings.
-/

namespace RepoSurvey.Survey

open Files (Checkout Visit)
open Number (Binary64)
open Text (afterExact? afterPhrase? endsWord goesOnWith holdsSomewhere isBlank startsWord)

/- Sums start from the core library's zero, whichever other structures of the numbers are in scope. -/
attribute [local instance (2000)] Zero.ofOfNat0

/-- The size of the largest file that is read. -/
def maxFileBytes : Nat := 1000000

/-- The number of files that are read. -/
def maxQualityFiles : Nat := 2000

/-- The number of files listed as complex. -/
def complexFileLimit : Nat := 10

/-- The number of findings listed. -/
def findingLimit : Nat := 100

/-- Words at which control flow branches. -/
def branchWords : List (List Char) :=
  ["if", "elif", "for", "while", "case", "catch", "except"].map String.toList

/-- The length of the branching word or connective at a place; zero if there is none. -/
def branchLength (before : Option Char) (text : List Char) : Nat :=
  let word :=
    if startsWord before then
      branchWords.find? fun word => (afterExact? word text).any endsWord
    else none
  match word with
  | some word => word.length
  | none =>
    match text with
    | '&' :: '&' :: _ => 2
    | '|' :: '|' :: _ => 2
    | _ => 0

/-- Count the branches of a line. Characters of a branch already counted are stepped over. -/
def countBranches (before : Option Char) (covered : Nat) : List Char -> Nat
  | [] => 0
  | c :: rest =>
    match covered with
    | covered + 1 => countBranches (some c) covered rest
    | 0 =>
      match branchLength before (c :: rest) with
      | 0 => countBranches (some c) 0 rest
      | length + 1 => countBranches (some c) length rest + 1

/-- The branches of a line. -/
def branches (line : List Char) : Nat := countBranches none 0 line

/-- Whether a function of a name is applied at a place. -/
def appliesAt (name : List Char) (before : Option Char) (text : List Char) : Bool :=
  startsWord before && (afterExact? name text).any (goesOnWith '(')

/-- Whether a name is followed by an equals sign at a place. -/
def assignsAt (name : List Char) (text : List Char) : Bool :=
  (afterExact? name text).any (goesOnWith '=')

/-- Whether a name, an equals sign and a value stand at a place, blanks between them allowed. -/
def setsAt (name value : List Char) (text : List Char) : Bool :=
  match (afterExact? name text).map (·.dropWhile isBlank) with
  | some ('=' :: rest) => (afterExact? value (rest.dropWhile isBlank)).isSome
  | _ => false

/-- Names of secrets. -/
def secretNames : List (List Char) :=
  ["password", "secret", "apikey", "api_key", "api-key", "token"].map String.toList

/-- Whether a character is a quotation mark. -/
def isQuote (c : Char) : Bool := c == '\'' || c == '"'

/-- Whether a text is a value of at least eight characters in quotation marks. -/
def isQuotedSecret : List Char -> Bool
  | [] => false
  | c :: rest =>
    let value := rest.takeWhile fun c => !isQuote c && !isBlank c
    isQuote c && decide (8 ≤ value.length) && (rest.drop value.length).head?.any isQuote

/-- Whether a secret gets a value at a place. -/
def revealsAt (text : List Char) : Bool :=
  secretNames.any fun name =>
    match (afterPhrase? name text).map (·.dropWhile isBlank) with
    | some (c :: rest) => (c == ':' || c == '=') && isQuotedSecret (rest.dropWhile isBlank)
    | _ => false

/-- The shapes of lines that are listed, with the wording of the finding. -/
def hazards : List ((Option Char -> List Char -> Bool) × String) :=
  [ (appliesAt "eval".toList, "use of eval()"),
    (appliesAt "exec".toList, "use of exec()"),
    (fun _ => setsAt "shell".toList "True".toList, "subprocess with shell=True"),
    (fun _ => assignsAt ".innerHTML".toList, "assignment to innerHTML"),
    (fun _ => revealsAt, "possible hardcoded credential") ]

/-- The findings of a line. -/
def findingsIn (path : String) (number : Nat) (line : List Char) : List Finding :=
  (hazards.filter fun hazard => holdsSomewhere hazard.1 none line).map fun hazard =>
    ⟨path, number, hazard.2⟩

/-- The length beyond which a line counts for duplicates. -/
def shortLine : Nat := 20

/-- A source file that was read. -/
structure SourceFile where
  path : String
  lines : List (List Char)

namespace SourceFile

/-- Whether a visited file can be read as source code. -/
def isReadable (visit : Visit) : Bool := visit.content.any fun content => content.size ≤ maxFileBytes

/-- Read a visited file. -/
def ofVisit (visit : Visit) : SourceFile :=
  let bytes := (visit.content.map ByteArray.toList).getD []
  ⟨visit.path, Text.lines (Text.Utf8.decodeLenient bytes)⟩

/-- Read source files on a walk. It ends at a further file with a source suffix, readable or not, when as many have
been read as are left to read. -/
def readUpTo : (left : Nat) -> List Visit -> List SourceFile
  | _, [] => []
  | left, visit :: rest =>
    if isSourceSuffix visit.lowerSuffix then
      match left with
      | 0 => []
      | left + 1 => if isReadable visit then ofVisit visit :: readUpTo left rest else readUpTo (left + 1) rest
    else readUpTo left rest

/-- The source files read on a walk. -/
def ofVisits (visits : List Visit) : List SourceFile := readUpTo maxQualityFiles visits

/-- The complexity of a file. -/
def complexity (file : SourceFile) : Nat := 1 + (file.lines.map branches).sum

/-- The lines that count for duplicates. -/
def longLines (file : SourceFile) : List String :=
  (file.lines.map Text.trim).filterMap fun line =>
    if shortLine < line.length then some (String.ofList line) else none

/-- The findings in a file. -/
def findings (file : SourceFile) : List Finding :=
  (file.lines.zipIdx 1).flatMap fun (line, number) => findingsIn file.path number line

/-- The line of a file in a list of complexities. -/
def summary (file : SourceFile) : FileComplexity :=
  ⟨file.path, file.lines.length, file.complexity⟩

end SourceFile

/-- The double nearest to a quotient. -/
def quotient (numerator denominator : Nat) : Binary64 := Binary64.ofRatio false numerator denominator

/-- The share of duplicates among long lines. -/
def duplicateRatio (longLines : List String) : Binary64 :=
  let count := longLines.length
  if count = 0 then .zero else quotient (Text.repeats longLines) count

/-- The double nearest to the product of two doubles. -/
def times (left right : Binary64) : Binary64 := Binary64.ofRat (left.toRat * right.toRat)

/-- The double nearest to the difference of two doubles. -/
def minus (left right : Binary64) : Binary64 := Binary64.ofRat (left.toRat - right.toRat)

/-- The smaller of two doubles. -/
def lesser (left right : Binary64) : Binary64 := if right.toRat < left.toRat then right else left

/-- The greater of two doubles. -/
def greater (left right : Binary64) : Binary64 := if left.toRat < right.toRat then right else left

/-- One hundred, less one and a half for each unit of average complexity up to forty, less forty times the share of
duplicates. -/
def unboundedIndex (averageComplexity duplicates : Binary64) : Binary64 :=
  let forty := Binary64.ofInt 40
  let branching := times (lesser averageComplexity forty) (quotient 3 2)
  minus (minus hundred branching) (times duplicates forty)

/-- How easily code can be maintained, between zero and one hundred. -/
def maintainability (averageComplexity duplicates : Binary64) : Binary64 :=
  greater .zero (lesser hundred (unboundedIndex averageComplexity duplicates))

/-- The measures of code without source files. -/
def Quality.empty : Quality := ⟨0, 0, .zero, .zero, 0, [], .zero, hundred, []⟩

/-- The measures of some source files. -/
def Quality.ofFiles (files : List SourceFile) : Quality :=
  if files.isEmpty then .empty
  else
    let summaries := files.map SourceFile.summary
    let totalLines : Nat := (files.map fun file => file.lines.length).sum
    let complexities : List Nat := files.map SourceFile.complexity
    let highest : Nat := complexities.foldl max 0
    let averageComplexity := quotient complexities.sum files.length
    let duplicates := duplicateRatio (files.flatMap SourceFile.longLines)
    { filesAnalyzed := files.length
      totalLines := totalLines
      averageFileLines := (quotient totalLines files.length).roundPlaces 1
      averageComplexity := averageComplexity.roundPlaces 2
      maxComplexity := highest
      complexFiles := (summaries.mergeSort fun left right =>
        decide (right.complexity ≤ left.complexity)).take complexFileLimit
      duplicateLineRatio := duplicates.roundPlaces 4
      maintainabilityIndex := (maintainability averageComplexity duplicates).roundPlaces 1
      securityIssues := (files.flatMap SourceFile.findings).take findingLimit }

/-- The measures of the code in a checkout. -/
def Quality.ofCheckout (checkout : Checkout) : Quality :=
  .ofFiles (SourceFile.ofVisits checkout.visits)

end RepoSurvey.Survey

import RepoSurvey.Files.Walk
import RepoSurvey.Survey.Record
import RepoSurvey.Text.Distinct

/-!
# Structure of a checkout

Files, directories and sizes are counted over a walk, and so are the files of each language, which is
told by the suffix. Key files are listed by depth, then by path. The top level is listed from the
directory itself.
-/

namespace RepoSurvey.Survey

open Files (Checkout Place Visit)

/-! ## Languages -/

/-- Languages by lower-case suffix. -/
def languageTable : List (String × String) :=
  [ (".py", "Python"), (".js", "JavaScript"), (".jsx", "JavaScript"), (".mjs", "JavaScript"),
    (".ts", "TypeScript"), (".tsx", "TypeScript"), (".go", "Go"), (".rs", "Rust"),
    (".java", "Java"), (".kt", "Kotlin"), (".rb", "Ruby"), (".php", "PHP"), (".cs", "C#"),
    (".c", "C"), (".h", "C"), (".cpp", "C++"), (".hpp", "C++"), (".swift", "Swift"),
    (".scala", "Scala"), (".vue", "Vue"), (".sh", "Shell"), (".md", "Markdown"),
    (".json", "JSON"), (".yaml", "YAML"), (".yml", "YAML"), (".html", "HTML"), (".css", "CSS"),
    (".scss", "CSS"), (".sql", "SQL") ]

/-- The language of a lower-case suffix. -/
def languageOf? (suffix : String) : Option String := languageTable.lookup suffix

/-- Languages in which nothing is programmed. -/
def markupLanguages : List String := ["Markdown", "JSON", "YAML", "HTML", "CSS"]

/-- Whether files of a suffix hold source code. -/
def isSourceSuffix (suffix : String) : Bool :=
  (languageOf? suffix).any fun language => !markupLanguages.contains language

/-- Lower-case names of files that tell much about a project. -/
def keyFileNames : List String :=
  [ "readme.md", "readme", "readme.rst", "license", "package.json", "tsconfig.json",
    "pyproject.toml", "setup.py", "setup.cfg", "requirements.txt", "go.mod", "cargo.toml",
    "pom.xml", "build.gradle", "dockerfile", "docker-compose.yml", "makefile",
    "main.py", "app.py", "index.js", "index.ts", "main.go", "main.rs" ]

/-! ## Structures -/

/- Sums start from the core library's zero, whichever other structures of the numbers are in scope. -/
attribute [local instance (2000)] Zero.ofOfNat0

/-- Count one more of a name; a new name is added at the end. -/
def countOne (name : String) : List (String × Nat) -> List (String × Nat)
  | [] => [(name, 1)]
  | (other, count) :: rest =>
    if other = name then (other, count + 1) :: rest else (other, count) :: countOne name rest

/-- The names of a list with their counts, in the order of their first occurrence. -/
def tally (names : List String) : List (String × Nat) :=
  names.foldl (fun counts name => countOne name counts) []

/-- Counts in decreasing order; equal counts keep their order. -/
def mostCommon (counts : List (String × Nat)) : List (String × Nat) :=
  counts.mergeSort fun left right => right.2 ≤ left.2

/-- The paths of the directories that lead to a visited file. -/
def directoryPaths (visit : Visit) : List String :=
  (List.range visit.directories.length).map fun index =>
    String.intercalate "/" (visit.directories.take (index + 1))

/-- Sort by depth, then by path. -/
def sortByDepth (paths : List String) : List String :=
  let depth (path : String) : Nat := path.toList.count '/'
  paths.mergeSort fun left right =>
    depth left < depth right || (depth left == depth right && decide (left ≤ right))

/-- The entries of a place that are neither hidden nor generated; directories end in a slash. -/
def topLevelOf (place : Place) : List String :=
  ((place.entries.filter fun entry => Files.isEntered entry.1).map fun entry =>
    entry.1 ++ (if place.isDirectory entry.1 then "/" else "")).mergeSort fun left right =>
      left ≤ right

/-- The path of an entry at the top level whose kind cannot be told, because it leads to a path that is
too long. -/
def Structure.obstacle? (checkout : Checkout) : Option Files.Path :=
  checkout.overlongLink? Files.isEntered

/-- The structure found in a checkout. -/
def Structure.ofCheckout (checkout : Checkout) : Structure :=
  let visits := checkout.visits
  let languages := mostCommon (tally (visits.filterMap fun visit => languageOf? visit.lowerSuffix))
  { totalFiles := visits.length
    totalDirectories := Text.distinctCount (visits.flatMap directoryPaths)
    totalSizeBytes := (visits.map fun visit => (visit.content.map ByteArray.size).getD 0).sum
    languages := languages.map fun (name, count) => (name, (count : Int))
    keyFiles := sortByDepth ((visits.filter fun visit =>
      keyFileNames.contains (Text.lower visit.name)).map Visit.path)
    topLevel := (checkout.directory?.map topLevelOf).getD [] }

end RepoSurvey.Survey

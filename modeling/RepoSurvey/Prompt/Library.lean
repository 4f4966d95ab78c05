import RepoSurvey.Prompt.Template
import RepoSurvey.Schema.Part
import RepoSurvey.Text.Blank

/-!
# Prompts

A prompt gives an agent its role and, as a template, its action. The prompts of the library carry an
analysis from the overview to the translated documents.
-/

namespace RepoSurvey

open Schema

/-- A prompt. -/
structure Prompt where
  role : String
  action : String
  deriving DecidableEq, Repr

namespace Prompt

/-- Prompts by name. -/
abbrev Prompts := List (String × Prompt)

/-- Why a prompt cannot be rendered. -/
inductive Problem where
  /-- A value has a name that rendering takes for itself. -/
  | reservedName (name : String)
  | notFound (name : String) (available : List String)
  | template (fault : TemplateFault)
  deriving DecidableEq, Repr

/-- The wording of a problem. -/
def Problem.message : Problem -> String
  | .reservedName name =>
    "PromptRegistry.render() got multiple values for argument '" ++ name ++ "'"
  | .notFound name available =>
    "Prompt not found: " ++ name ++ ". Available: " ++ Text.quotedList available
  | .template fault => fault.message

/-- A rendered prompt: the role and the filled action, without surrounding white space. -/
structure Rendered where
  role : String
  action : String
  deriving DecidableEq, Repr

/-- The name under which prompts are reported. -/
def recordName : String := "PromptDefinition"

/-- How prompts are read and written. -/
def codec : Codec Prompt :=
  .record recordName <|
    Prompt.mk <$> .field "role" .text role none
      <*> .field "action" .text action none

/-- How prompts are read and written together with their names. -/
def namedCodec : Codec (String × Prompt) :=
  .record recordName <|
    (fun name role action => (name, Prompt.mk role action))
      <$> .field "key" .text (fun named => named.1) none
      <*> .field "role" .text (fun named => named.2.role) none
      <*> .field "action" .text (fun named => named.2.action) none

/-- Fill the action of a prompt. -/
def render (prompt : Prompt) (values : List (String × String)) : Except TemplateFault Rendered :=
  (fill prompt.action fun name => (values.find? (·.1 == name)).map (·.2)).map fun action =>
    ⟨Text.strip prompt.role, Text.strip action⟩

namespace Prompts

/-- The names of prompts in order. -/
def names (prompts : Prompts) : List String :=
  (prompts.map (·.1)).mergeSort fun left right => left ≤ right

/-- The names that no value may have. -/
def reservedNames : List String := ["self", "key"]

/-- Render the prompt of a name. A value of a reserved name is reported before all else. -/
def render (prompts : Prompts) (name : String) (values : List (String × String)) :
    Except Problem Rendered :=
  match values.find? (reservedNames.contains ·.1) with
  | some (reserved, _) => .error (.reservedName reserved)
  | none =>
    match prompts.find? (·.1 == name) with
    | none => .error (.notFound name prompts.names)
    | some (_, prompt) =>
      match prompt.render values with
      | .ok rendered => .ok rendered
      | .error fault => .error (.template fault)

end Prompts

/-- A text of several lines. -/
def linesOf (lines : List String) : String := String.intercalate "\n" lines

/-- Asks for the overview of a repository. -/
def overview : Prompt where
  role := linesOf
    [ "You are a senior software architect reading an unfamiliar repository.",
      "Use the available tools to inspect files before drawing conclusions.",
      "Base every statement on evidence found in the code." ]
  action := linesOf
    [ "Produce a structured overview of the repository at $repository_path.",
      "",
      "Structural facts already measured:",
      "$structure",
      "",
      "Reply with one JSON object:",
      "\x7b",
      "  \"modules\": [\x7b\"path\": \"...\", \"role\": \"...\", \"examples\": " ++
        "[\"...\"]\x7d],",
      "  \"techStack\": [\x7b\"type\": \"language|framework|library|tool\", \"name\": " ++
        "\"...\", \"evidence\": \"...\"\x7d],",
      "  \"entryCandidates\": [\x7b\"path\": \"...\", \"why\": \"...\"\x7d],",
      "  \"notes\": [\"...\"]",
      "\x7d" ]

/-- Asks for the dependency graph. -/
def dependencies : Prompt where
  role := linesOf
    [ "You are a static-analysis expert. Trace imports and calls with the tools.",
      "Report only edges you have seen in the source." ]
  action := linesOf
    [ "Using this project overview:",
      "$overview",
      "",
      "Declared third-party dependencies:",
      "$declared_dependencies",
      "",
      "Build the module dependency graph and the most important call relationships.",
      "Reply with one JSON object:",
      "\x7b",
      "  \"moduleGraph\": [\x7b\"from\": \"...\", \"to\": \"...\", \"type\": " ++
        "\"import|call|inherit\"\x7d],",
      "  \"callGraph\": [\x7b\"caller\": \"...\", \"callee\": \"...\", \"file\": " ++
        "\"...\", \"line\": 0\x7d],",
      "  \"hotspots\": [\x7b\"symbol\": \"...\", \"fanIn\": 0, \"fanOut\": 0, " ++
        "\"files\": [\"...\"]\x7d],",
      "  \"visual\": \x7b\"moduleMermaid\": \"graph TD ...\", \"callMermaid\": \"graph " ++
        "TD ...\"\x7d",
      "\x7d" ]

/-- Asks for the core features. -/
def coreFeatures : Prompt where
  role := linesOf
    [ "You are a product-minded engineer. Identify what this software actually does",
      "for its users, judged from entry points and the dependency structure." ]
  action := linesOf
    [ "Project overview:",
      "$overview",
      "",
      "Dependency graph:",
      "$dependency_graph",
      "",
      "Identify the core features of the project.",
      "Reply with one JSON object:",
      "\x7b",
      "  \"features\": [\x7b",
      "    \"id\": \"F1\", \"name\": \"...\", \"whyCore\": \"...\", \"importance\": 0.0,",
      "    \"evidence\": [\"...\"], \"entryPoints\": [\"...\"], \"primaryModules\": " ++
        "[\"...\"], \"keySymbols\": [\"...\"]",
      "  \x7d],",
      "  \"rankingRule\": \"how importance was judged\"",
      "\x7d" ]

/-- Asks for a plan of the documentation. -/
def planner : Prompt where
  role := linesOf
    [ "You are a technical documentation lead planning a documentation set",
      "for developers who are new to this project." ]
  action := linesOf
    [ "Project overview:",
      "$overview",
      "",
      "Core features:",
      "$core_features",
      "",
      "Plan the documentation: which documents are needed, in what order a new",
      "developer should read them, and what each must cover. Answer in prose." ]

/-- Asks for writing tasks that carry out a plan. -/
def scheduler : Prompt where
  role := linesOf
    [ "You turn a documentation plan into concrete writing tasks." ]
  action := linesOf
    [ "Documentation plan:",
      "$plan",
      "",
      "Core features (use their ids in featureId when a task documents one feature):",
      "$feature_index",
      "",
      "Reply with one JSON object:",
      "\x7b",
      "  \"document_tasks\": [",
      "    \x7b\"title\": \"...\", \"goal\": \"...\", \"outline\": \"...\", " ++
        "\"targetReader\": \"...\", \"featureId\": \"F1 or null\"\x7d",
      "  ]",
      "\x7d" ]

/-- Asks for one document. -/
def writer : Prompt where
  role := linesOf
    [ "You are a technical writer with full read access to the repository.",
      "Verify details with the tools; never invent APIs or file names." ]
  action := linesOf
    [ "Write the document \"$title\".",
      "",
      "Goal: $goal",
      "Outline: $outline",
      "Target reader: $target_reader",
      "",
      "Project overview for orientation:",
      "$overview",
      "",
      "Write GitHub-flavored Markdown. Reply with one JSON object:",
      "\x7b\"document\": \"<the full markdown document>\"\x7d" ]

/-- Asks for one document in another language. -/
def translator : Prompt where
  role := linesOf
    [ "You are a professional technical translator. Keep Markdown structure,",
      "code blocks, identifiers and links unchanged; translate prose only." ]
  action := linesOf
    [ "Translate the following title and document into $language.",
      "",
      "Title: $title",
      "",
      "Document:",
      "$document",
      "",
      "Reply with one JSON object:",
      "\x7b\"title\": \"<translated title>\", \"document\": \"<translated markdown>\"\x7d" ]

/-- The prompts of an analysis. -/
def library : Prompts :=
  [ ("overview", overview),
    ("dependencies", dependencies),
    ("core_features", coreFeatures),
    ("planner", planner),
    ("scheduler", scheduler),
    ("writer", writer),
    ("translator", translator) ]

end Prompt

end RepoSurvey

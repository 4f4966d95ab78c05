import RepoSurvey.Agent.Call
import RepoSurvey.Text.Caseless

/-!
# Topics of conversations

What a conversation is about can be told from its first user message, because every stage of an
analysis opens with words of its own.
-/

namespace RepoSurvey.Rehearsal

open Chat (Message)

/-- What a conversation is about. -/
inductive Topic where
  | overview
  | dependencies
  | coreFeatures
  | planner
  | scheduler
  | writer (title : String)
  | translator (title : String)
  | oracle
  | other
  deriving DecidableEq, Repr

namespace Topic

/-- The kind of a topic. -/
def kind : Topic -> String
  | .overview => "overview"
  | .dependencies => "dependencies"
  | .coreFeatures => "core_features"
  | .planner => "planner"
  | .scheduler => "scheduler"
  | .writer _ => "writer"
  | .translator _ => "translator"
  | .oracle => "oracle"
  | .other => "other"

/-- The title a topic is concerned with; empty for most. -/
def title : Topic -> String
  | .writer title | .translator title => title
  | _ => ""

/-- The kind of a topic and its title, if there is one. -/
def name (topic : Topic) : String :=
  if topic.title = "" then topic.kind else topic.kind ++ ":" ++ topic.title

/-- The text before the first occurrence of a mark and the text after it. -/
def splitAt? (mark : List Char) : List Char -> Option (List Char × List Char)
  | [] => if mark.isEmpty then some ([], []) else none
  | c :: rest =>
    if mark.isPrefixOf (c :: rest) then some ([], (c :: rest).drop mark.length)
    else (splitAt? mark rest).map fun (before, after) => (c :: before, after)

/-- The text between an opening mark and the next closing mark. -/
def between? (opening closing : String) (text : List Char) : Option String := do
  let (_, after) ← splitAt? opening.toList text
  let (inside, _) ← splitAt? closing.toList after
  pure (String.ofList inside)

/-- The topic of an opening message. -/
def ofText (text : String) : Topic :=
  let opens (words : String) : Bool := text.startsWith words
  if opens "Write the document \"" then
    .writer ((between? "Write the document \"" "\".\n\nGoal:" text.toList).getD "")
  else if opens "Translate the following" then
    .translator ((between? "Title: " "\n\nDocument:\n" text.toList).getD "")
  else if opens "Produce a structured overview" then .overview
  else if opens "Using this project" then .dependencies
  else if opens "Documentation plan:" then .scheduler
  else if opens "Assistant turn to analyze:" then .oracle
  else if opens "Project overview:" then
    if text.endsWith "Answer in prose." then .planner else .coreFeatures
  else .other

/-- The topic of a conversation, told from its first user message. -/
def ofMessages (messages : List Message) : Topic :=
  match messages.find? (·.role == .user) with
  | some message => ofText message.content
  | none => .other

end Topic

end RepoSurvey.Rehearsal

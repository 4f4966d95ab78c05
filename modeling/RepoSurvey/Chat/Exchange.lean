import RepoSurvey.Chat.Answer
import RepoSurvey.Chat.Settings
import RepoSurvey.Chat.Tool
import RepoSurvey.Json.Reader

/-!
# Exchanges with a provider

An exchange sends a conversation and brings back a reply. This module says what can go wrong with it,
whichever dialect the provider speaks.
-/

namespace RepoSurvey.Chat

open Schema

/-- Why an exchange brought no reply. -/
inductive ExchangeFault where
  /-- The provider answered with a status other than success. -/
  | rejected (dialect : Dialect) (status : Int) (report : String)
  /-- The request did not come through. -/
  | failed (dialect : Dialect) (report : String)
  /-- The answer holds no choice. -/
  | noChoice
  /-- The message in the answer, or a tool call in it, is none. -/
  | unreadable (report : Report)
  /-- The arguments of a tool call hold an integer too long to be converted. -/
  | overlongInteger (flaw : Json.Flaw)
  /-- The answer has a strange shape. -/
  | shape (fault : Json.ShapeFault)
  deriving DecidableEq, Repr

namespace ExchangeFault

/-- The wording of a fault. -/
def message : ExchangeFault -> String
  | .rejected .completions status report =>
    "Provider returned " ++ Number.intText status ++ ": " ++ report
  | .rejected .messages status report =>
    "Anthropic returned " ++ Number.intText status ++ ": " ++ report
  | .failed .completions report => "OpenAI request failed: " ++ report
  | .failed .messages report => "Anthropic request failed: " ++ report
  | .noChoice => "Completion returned no choices"
  | .unreadable report => report.text
  | .overlongInteger flaw => flaw.message
  | .shape fault => fault.message

/-- The status of the provider's answer, if it was the reason. -/
def status? : ExchangeFault -> Option Int
  | .rejected _ status _ => some status
  | _ => none

end ExchangeFault

/-- An attribute of a part of an answer. -/
def attributeOf (name : String) (answer : Answer) : Except ExchangeFault Answer :=
  (answer.get name).mapError .shape

/-- The arguments of a tool call, whose names have to be texts. -/
def readArguments (arguments : Json.Dictionary) : Checked (List (String × Json)) :=
  let strange := arguments.filterMap fun entry =>
    match entry.1 with
    | .str _ => none
    | name => some (⟨[name.display, "[key]"], .notText⟩ : Issue)
  if strange.isEmpty then .valid arguments.toMembers else .invalid strange

/-- A tool call from its parts. -/
def readCall (id name : Answer) (arguments : Json.Dictionary) : Except ExchangeFault ToolCall :=
  let checked :=
    ((Codec.text.read id.toJson).under "id").both <|
      ((Codec.text.read name.toJson).under "name").both ((readArguments arguments).under "arguments")
  ((checked.map fun (id, name, arguments) => (⟨id, name, arguments⟩ : ToolCall)).toExcept
    "ToolCall").mapError .unreadable

/-- An assistant message of some content, which has to be a text if it is present. -/
def readAssistant (content : Answer) (calls : List ToolCall) : Except ExchangeFault Message :=
  if content.isPresent then
    (((Codec.text.read content.toJson).under "content").map fun text => Message.assistant text calls)
      |>.toExcept Message.recordName |>.mapError .unreadable
  else .ok (.assistant "" calls)

end RepoSurvey.Chat

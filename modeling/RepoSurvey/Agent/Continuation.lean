import RepoSurvey.Agent.Call
import RepoSurvey.Reply.Extraction
import RepoSurvey.Text.Caseless

/-!
# Who speaks next

When a reply has no tool calls and no JSON was asked for, somebody decides whether the model paused
in the middle of its work and keeps the turn: nobody ever, simple rules about the end of the reply,
the model itself in a conversation of its own, or somebody outside. Only the last reply is looked at.
-/

namespace RepoSurvey.Agent

open Chat (Message)
open Json (ShapeFault)
open Text (strip)

/-- Who decides whether the model keeps the turn. -/
inductive Continuation where
  | never
  | rules (tailLength : Int)
  | model
  | outside
  deriving DecidableEq, Repr

/-- A decision about the turn. -/
structure Verdict where
  keepsTurn : Bool
  reasoning : String
  deriving DecidableEq, Repr

namespace Continuation

/-- Phrases by which a reply announces a next step. -/
def intentPhrases : List String :=
  [ "next, i'll", "next i'll", "next, i will", "next i will", "now i'll", "now i will", "let me",
    "i will now", "i'll now", "i'm going to", "proceeding to" ]

/-- Whether one of some phrases stands in a text as words of their own. -/
def holdsPhrase (phrases : List (List Char)) (text : List Char) : Bool :=
  Text.holdsSomewhere (fun before here =>
    Text.startsWord before && phrases.any fun phrase =>
      (Text.afterPhrase? phrase here).any Text.endsWord) none text

/-- The last characters of a text; a negative length counts characters left out at the start, and
the length zero stands for the whole text. -/
def tail (length : Int) (text : List Char) : List Char :=
  if 0 < length then text.drop (text.length - length.toNat) else text.drop length.natAbs

/-- The default length of the end of a reply that is looked at. -/
def defaultTailLength : Int := 400

/-- A turn in which nothing was said is left to the user. -/
def nothingSaid : Verdict := ⟨false, "empty turn"⟩

/-- A question leaves the turn to the user. -/
def userAsked : Verdict := ⟨false, "question to the user"⟩

/-- Decide by rules about the end of the reply. -/
def byRules (tailLength : Int) (content : String) : Verdict :=
  let text := Text.trim content.toList
  if text.isEmpty then nothingSaid
  else if text.getLast? = some '?' then userAsked
  else if holdsPhrase (intentPhrases.map String.toList) (tail tailLength text) ||
      text.getLast? = some ':' || (text.reverse.take 3 == ['.', '.', '.']) then
    ⟨true, "announced a next step"⟩
  else ⟨false, "turn looks complete"⟩

/-- The length of the end of a reply that a value stands for. -/
def tailLengthOf : Json -> Except ShapeFault Int
  | .int length => .ok length
  | .bool length => .ok (if length then 1 else 0)
  | .float _ => .error .notPosition
  | value => .error (.notNegatable value.kindName)

/-- Decide by rules with a length from outside, which is not looked at when the reply is empty or a
question. -/
def byGivenRules (tailLength : Json) (content : String) : Except ShapeFault Verdict :=
  match tailLengthOf tailLength with
  | .ok length => .ok (byRules length content)
  | .error fault =>
    let verdict := byRules defaultTailLength content
    if verdict = nothingSaid || verdict = userAsked then .ok verdict else .error fault

/-- What the model is told when it decides about a turn. -/
def instruction : String :=
  "Analyze ONLY the assistant turn you are given and decide who should speak next.\n\n" ++
  "Rules, applied in order:\n" ++
  "1. If the turn states an immediate next action the assistant itself will take\n" ++
  "   (\"Next, I will...\", \"Now I'll read...\", \"Let me check...\"), or is visibly cut\n" ++
  "   off mid-thought, the MODEL speaks next.\n" ++
  "2. If the turn ends with a direct question to the user, the USER speaks next.\n" ++
  "3. If the turn is a completed answer, summary or report, the USER speaks next.\n\n" ++
  "Respond in JSON: \x7b\"reasoning\": \"<one sentence>\", \"next_speaker\": \"model\" | \"user\"\x7d"

/-- The conversation in which the model decides about a turn. -/
def inquiry (key content : String) : ChatRequest where
  key := key
  messages := [.system instruction, .user ("Assistant turn to analyze:\n\n" ++ content)]
  tools := none
  jsonOutput := true

/-- A turn that could not be decided about is left to the user. -/
def undecided (report : String) : Verdict := ⟨false, "oracle error: " ++ report⟩

/-- The decision in the model's answer. -/
def verdictOf (answer : String) : Verdict :=
  match Reply.parseObject answer with
  | .error failure => undecided failure.message
  | .ok decision =>
    let next := ((decision.get? "next_speaker").getD (.str "user")).display
    let reasoning := ((decision.get? "reasoning").getD (.str "")).display
    ⟨Text.lower next = "model", reasoning⟩

/-- A verdict reached without asking anybody. The signal may fire before it is looked at. -/
def settled (verdict : Verdict) : Doing (Delivery Verdict) := do
  let fired <- pause
  pure (.answered verdict fired)

/-- A verdict of those who leave every turn to the user. -/
def disabled : Verdict := ⟨false, "continuation disabled"⟩

/-- Have the model decide in a conversation of its own; an empty turn is not asked about. -/
def byModel (key content : String) : Doing (Delivery Verdict) :=
  if strip content = "" then settled nothingSaid
  else do
    match <- chat (inquiry key content) with
    | .answered reply fired => pure (.answered (verdictOf reply.content) fired)
    | .refused report fired => pure (.answered (undecided report) fired)
    | .cutOff => pure .cutOff

/-- Decide about a reply. -/
def decide (continuation : Continuation) (key : String) (reply : Reply) :
    Doing (Delivery Verdict) :=
  match continuation with
  | .never => settled disabled
  | .rules tailLength => settled (byRules tailLength reply.content)
  | .model => byModel key reply.content
  | .outside => do
    let keepsTurn <- judge reply
    pure (.answered ⟨keepsTurn, ""⟩ false)

end Continuation

end RepoSurvey.Agent

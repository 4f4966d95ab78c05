import RepoSurvey.Chat.Exchange
import RepoSurvey.Text.Blank

/-!
# Turns

In the messages dialect a conversation is a list of turns that alternate between the user and the
assistant. Tool results belong to the user, so the answers to several calls make up one turn together.
The system prompt travels apart, and so does the wish for a JSON reply, which becomes a part of it.
-/

namespace RepoSurvey.Chat

open Schema

/-- A part of a turn. -/
inductive Block where
  | text (content : String)
  | toolUse (call : ToolCall)
  | toolResult (toolCallId : Option String) (content : String)
  deriving DecidableEq, Repr

/-- Whose turn it is. -/
inductive Speaker where
  | user
  | assistant
  deriving DecidableEq, Repr

/-- A turn. -/
structure Turn where
  speaker : Speaker
  blocks : List Block
  deriving DecidableEq, Repr

/-- The blocks of a message. -/
def Message.blocks (message : Message) : List Block :=
  match message.role with
  | .system => []
  | .user => [.text message.content]
  | .assistant =>
    (if message.content = "" then [] else [.text message.content]) ++
      message.toolCalls.map Block.toolUse
  | .tool => [.toolResult message.toolCallId message.content]

/-- The speaker a message belongs to. -/
def Message.speaker (message : Message) : Speaker :=
  if message.role = .assistant then .assistant else .user

namespace Turn

/-- Put blocks in front of turns: into the first one if it has the same speaker. -/
def prepend (speaker : Speaker) (blocks : List Block) (turns : List Turn) : List Turn :=
  if blocks.isEmpty then turns
  else
    match turns with
    | [] => [⟨speaker, blocks⟩]
    | first :: rest =>
      if first.speaker = speaker then ⟨speaker, blocks ++ first.blocks⟩ :: rest
      else ⟨speaker, blocks⟩ :: first :: rest

/-- The turns of a conversation. -/
def ofMessages (messages : List Message) : List Turn :=
  messages.foldr (fun message turns => prepend message.speaker message.blocks turns) []

/-- Putting blocks in front of turns loses no block. -/
theorem blocks_prepend (speaker : Speaker) (blocks : List Block) (turns : List Turn) :
    (prepend speaker blocks turns).flatMap Turn.blocks = blocks ++ turns.flatMap Turn.blocks := by
  unfold prepend
  split
  · next empty => simp_all
  · split
    · simp
    · split <;> simp

/-- The turns hold the blocks of all messages in order. -/
theorem blocks_ofMessages (messages : List Message) :
    (ofMessages messages).flatMap Turn.blocks = messages.flatMap Message.blocks := by
  induction messages with
  | nil => rfl
  | cons message messages inductionHypothesis =>
    simp only [ofMessages, List.foldr_cons, blocks_prepend, List.flatMap_cons]
    rw [← inductionHypothesis, ofMessages]

end Turn

/-- The system prompt of a conversation. -/
def systemPrompt (messages : List Message) : String :=
  String.intercalate "\n\n"
    (((messages.filter (·.role == .system)).map Message.content).filter (· != ""))

namespace Block

/-- A block as it is sent. -/
def encode : Block -> Json
  | .text content => .obj [("type", .str "text"), ("text", .str content)]
  | .toolUse call =>
    .obj
      [ ("type", .str "tool_use"), ("id", .str call.id), ("name", .str call.name),
        ("input", .obj call.arguments) ]
  | .toolResult toolCallId content =>
    .obj
      [ ("type", .str "tool_result"), ("tool_use_id", (toolCallId.map Json.str).getD .null),
        ("content", .str content) ]

end Block

namespace Turn

/-- A turn as it is sent. -/
def encode (turn : Turn) : Json :=
  .obj
    [ ("role", .str (match turn.speaker with | .user => "user" | .assistant => "assistant")),
      ("content", .arr (turn.blocks.map Block.encode)) ]

/-- A tool as it is declared. -/
def encodeTool (tool : ToolDefinition) : Json :=
  .obj
    [ ("name", .str tool.name), ("description", .str tool.description),
      ("input_schema", .obj tool.parameters) ]

/-- The wish for a JSON reply. -/
def jsonOnly : String := "Respond with a single valid JSON object and nothing else."

/-- The number of tokens of a reply when none is set. -/
def defaultMaxTokens : Int := 8192

/-- The system prompt of a request. -/
def requestPrompt (messages : List Message) (jsonOutput : Bool) : String :=
  let prompt := systemPrompt messages
  if jsonOutput then Text.strip (prompt ++ "\n\n" ++ jsonOnly) else prompt

/-- A request. -/
def request (settings : Settings) (messages : List Message) (tools : List ToolDefinition)
    (jsonOutput : Bool) : List (String × Json) :=
  let prompt := requestPrompt messages jsonOutput
  let maxTokens :=
    match settings.maxTokens with
    | none | some 0 => defaultMaxTokens
    | some value => value
  [ ("model", .str settings.model), ("max_tokens", .int maxTokens),
    ("messages", .arr ((ofMessages messages).map encode)) ] ++
  (if prompt = "" then [] else [("system", .str prompt)]) ++
  (if tools.isEmpty then [] else [("tools", .arr (tools.map encodeTool))]) ++
  (settings.temperature.map fun value => ("temperature", Json.float value)).toList

/-- What the blocks of an answer hold: texts, and tool calls. -/
structure Contents where
  texts : List Answer
  calls : List ToolCall

/-- Read the blocks of an answer. Blocks of other types are passed over. -/
def decodeBlocks : List Answer -> Except ExchangeFault Contents
  | [] => .ok ⟨[], []⟩
  | block :: blocks => do
    match (<- attributeOf "type" block).toJson with
    | .str "text" =>
      let text <- attributeOf "text" block
      let contents <- decodeBlocks blocks
      pure { contents with texts := text :: contents.texts }
    | .str "tool_use" =>
      let id <- attributeOf "id" block
      let name <- attributeOf "name" block
      let input <- (<- attributeOf "input" block).dictionary.mapError .shape
      let call <- readCall id name input
      let contents <- decodeBlocks blocks
      pure { contents with calls := call :: contents.calls }
    | _ => decodeBlocks blocks

/-- The assistant message read from an answer: its texts joined, and its tool calls. The answer has to
say why it ends. -/
def decodeResponse (response : Answer) : Except ExchangeFault Message := do
  let blocks <- (<- attributeOf "content" response).parts.mapError .shape
  let contents <- decodeBlocks blocks
  let _ <- attributeOf "stop_reason" response
  let text <- (Answer.joined contents.texts).mapError .shape
  pure (.assistant text contents.calls)

end Turn

end RepoSurvey.Chat

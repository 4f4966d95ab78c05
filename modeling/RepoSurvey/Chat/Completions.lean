import RepoSurvey.Chat.Exchange

/-!
# The completions dialect

Messages are sent one by one. The arguments of a tool call travel as JSON text; text that is no JSON
object reaches the tool whole, under a name of its own, so that the tool can report it.
-/

namespace RepoSurvey.Chat.Completions

open Schema

/-- The name under which arguments that are no object are passed on. -/
def unreadArguments : String := "_raw"

/-- A tool call as it is sent. -/
def encodeCall (call : ToolCall) : Json :=
  .obj
    [ ("id", .str call.id), ("type", .str "function"),
      ("function", .obj
        [("name", .str call.name), ("arguments", .str ((Json.obj call.arguments).text .compact))]) ]

/-- A message as it is sent. -/
def encode (message : Message) : Json :=
  match message.role, message.toolCalls with
  | .tool, _ =>
    .obj
      [ ("role", .str "tool"),
        ("tool_call_id", (message.toolCallId.map Json.str).getD .null),
        ("content", .str message.content) ]
  | .assistant, call :: calls =>
    .obj
      [ ("role", .str "assistant"),
        ("content", if message.content = "" then .null else .str message.content),
        ("tool_calls", .arr ((call :: calls).map encodeCall)) ]
  | role, _ => .obj [("role", .str role.name), ("content", .str message.content)]

/-- Arguments read from their text. -/
def decodeArguments (text : String) : Except ExchangeFault (List (String × Json)) :=
  match Json.readAll (if text = "" then "\x7b\x7d" else text).toList with
  | .ok (.obj members) => .ok members
  | .ok other => .ok [(unreadArguments, other)]
  | .error fault =>
    match fault.flaw with
    | .overlongInteger _ => .error (.overlongInteger fault.flaw)
    | _ => .ok [(unreadArguments, .str text)]

/-- The arguments of a tool call; there need not be any. -/
def decodeAnyArguments (arguments : Answer) : Except ExchangeFault (List (String × Json)) :=
  match arguments, arguments.isPresent with
  | _, false => .ok []
  | .plain (.str text), true => decodeArguments text
  | .object _, true => .error (.shape (.notJsonText "SimpleNamespace"))
  | arguments, true => .error (.shape (.notJsonText arguments.kindName))

/-- A tool call read from an answer. -/
def decodeCall (answer : Answer) : Except ExchangeFault ToolCall := do
  let function <- attributeOf "function" answer
  let arguments <- decodeAnyArguments (<- attributeOf "arguments" function)
  readCall (<- attributeOf "id" answer) (<- attributeOf "name" function) (.ofMembers arguments)

/-- The assistant message read from an answer. -/
def decode (answer : Answer) : Except ExchangeFault Message := do
  let calls <- (<- attributeOf "tool_calls" answer).anyParts.mapError .shape
  let calls <- calls.mapM decodeCall
  readAssistant (<- attributeOf "content" answer) calls

/-- The first of the choices. -/
def firstChoice (choices : Answer) : Except ExchangeFault Answer :=
  match choices, choices.isPresent with
  | .list (choice :: _), _ => .ok choice
  | .plain (.str text), true => .ok (.plain (.str (String.ofList (text.toList.take 1))))
  | choices, true => .error (.shape (.notSliceable choices.kindName))
  | _, false => .error .noChoice

/-- The message of the first choice. -/
def decodeResponse (response : Answer) : Except ExchangeFault Message := do
  let choice <- firstChoice (<- attributeOf "choices" response)
  decode (<- attributeOf "message" choice)

/-- A tool as it is declared. -/
def encodeTool (tool : ToolDefinition) : Json :=
  .obj
    [ ("type", .str "function"),
      ("function", .obj
        [ ("name", .str tool.name), ("description", .str tool.description),
          ("parameters", .obj tool.parameters) ]) ]

/-- A request. -/
def request (settings : Settings) (messages : List Message) (tools : List ToolDefinition)
    (jsonOutput : Bool) : List (String × Json) :=
  [("model", .str settings.model), ("messages", .arr (messages.map encode))] ++
  (if tools.isEmpty then [] else [("tools", .arr (tools.map encodeTool))]) ++
  (if jsonOutput then [("response_format", .obj [("type", .str "json_object")])] else []) ++
  (settings.temperature.map fun value => ("temperature", Json.float value)).toList ++
  (settings.maxTokens.map fun value => ("max_tokens", Json.int value)).toList

end RepoSurvey.Chat.Completions

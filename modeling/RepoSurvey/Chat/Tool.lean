import RepoSurvey.Chat.Message
import RepoSurvey.Json.Writer
import RepoSurvey.Json.Display
import RepoSurvey.Json.Shape

/-!
# Tools

A tool is declared to the model by its name, a description and a schema of its arguments. Arguments
are checked against the top level of the schema only: the required names and the simple types of the
properties. A schema of another shape can make the check itself break down.
-/

namespace RepoSurvey.Chat

open Schema
open Json (ShapeFault)

/-- The declaration of a tool. -/
structure ToolDefinition where
  name : String
  description : String
  parameters : List (String × Json)
  deriving DecidableEq, Repr

namespace ToolDefinition

/-- The schema of a tool that declares no parameters. -/
def noParameters : List (String × Json) := [("type", .str "object"), ("properties", .obj [])]

/-- The name under which declarations are reported. -/
def recordName : String := "ToolDefinition"

/-- How declarations are read and written. -/
def codec : Codec ToolDefinition :=
  .record recordName <|
    ToolDefinition.mk <$> .field "name" .text name none
      <*> .field "description" .text description (some "")
      <*> .field "parameter_schema" .members parameters (some noParameters)

end ToolDefinition

/-- The outcome of a tool call. -/
structure ToolResult where
  success : Bool
  data : Json
  error : Option String
  deriving DecidableEq, Repr

namespace ToolResult

/-- The name under which outcomes are reported. -/
def recordName : String := "ToolResult"

/-- How outcomes are read and written. -/
def codec : Codec ToolResult :=
  .record recordName <|
    ToolResult.mk <$> .field "success" .truth success none
      <*> .field "data" .any data (some .null)
      <*> .field "error" (.optional .text) error (some none)

/-- A successful outcome. -/
def succeeded (data : Json) : ToolResult := ⟨true, data, none⟩

/-- A failed outcome. -/
def failed (error : String) : ToolResult := ⟨false, .null, some error⟩

/-- The text of an outcome: strings as they are, other data as JSON, and failures after a mark. -/
def content (result : ToolResult) : String :=
  if result.success then
    match result.data with
    | .str text => text
    | data => data.text .compact
  else
    match result.error with
    | none | some "" => "Error: unknown error"
    | some error => "Error: " ++ error

/-- What the model is told. Data with an integer that is too long to be written has no text. -/
def told (result : ToolResult) : Except ShapeFault String :=
  if result.success && !result.data.integersFit then .error .overlongInteger else .ok result.content

end ToolResult

namespace ToolDefinition

/-- The required names that are missing, as problems. -/
def missingProblems (arguments : List (String × Json)) :
    List Json -> Except ShapeFault (List String)
  | [] => .ok []
  | name :: names => do
    let present : Bool <- match name with
      | .str text => pure (Json.lookup text arguments).isSome
      | .arr _ | .obj _ => throw (.unhashable name.kindName)
      | _ => pure false
    -- A name is written only when it is reported, and before the names after it are looked at.
    if !present && !name.integersFit then throw .overlongInteger
    let problems <- missingProblems arguments names
    pure (if present then problems
      else ("missing required parameter '" ++ name.display ++ "'") :: problems)

/-- Whether a value has a simple type; nothing for other type names. -/
def hasType? (expected : String) (value : Json) : Option Bool :=
  match expected, value with
  | "string", .str _ => some true
  | "integer", .int _ => some true
  | "number", .int _ | "number", .float _ => some true
  | "boolean", .bool _ => some true
  | "array", .arr _ => some true
  | "object", .obj _ => some true
  | "string", _ | "integer", _ | "number", _ | "boolean", _ | "array", _ | "object", _ => some false
  | _, _ => none

/-- The arguments of a wrong type, as problems. -/
def typeProblems (properties : Json) :
    List (String × Json) -> Except ShapeFault (List String)
  | [] => .ok []
  | (name, value) :: arguments => do
    let property <- Json.memberOf properties name
    let expected <- Json.memberOf (property.getD (.obj [])) "type"
    let fits := match expected with
      | some (.str expected) => (hasType? expected value).getD true
      | _ => true
    let problems <- typeProblems properties arguments
    pure (match fits, expected with
      | false, some (.str expected) =>
        ("parameter '" ++ name ++ "' should be " ++ expected) :: problems
      | _, _ => problems)

/-- All problems of arguments: missing names first, then wrong types. -/
def argumentProblems (definition : ToolDefinition) (arguments : List (String × Json)) :
    Except ShapeFault (List String) := do
  let required := (Json.lookup "required" definition.parameters).getD (.arr [])
  let missing <- missingProblems arguments (<- required.parts)
  let properties := (Json.lookup "properties" definition.parameters).getD (.obj [])
  let mistyped <- typeProblems properties arguments
  pure (missing ++ mistyped)

end ToolDefinition

end RepoSurvey.Chat

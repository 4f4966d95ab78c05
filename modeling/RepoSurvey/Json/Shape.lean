import RepoSurvey.Json.Writer

/-!
# Values of a strange shape

Data that was never checked may have another shape than expected. What cannot be done with it is
reported with the kind of the value.
-/

namespace RepoSurvey.Json

open Number (natText)

/-- The kind of a value, as it is reported. -/
def kindName : Json -> String
  | .null => "NoneType"
  | .bool _ => "bool"
  | .int _ => "int"
  | .float _ => "float"
  | .str _ => "str"
  | .arr _ => "list"
  | .obj _ => "dict"

/-- What could not be done with a value of some kind. -/
inductive ShapeFault where
  /-- It has no members to look up or to list. -/
  | noOperation (kind operation : String)
  /-- It has no parts. -/
  | notIterable (kind : String)
  /-- It cannot be a name. -/
  | unhashable (kind : String)
  /-- It is no text. -/
  | notText (kind : String)
  /-- It stands at a position of a list of pairs and is no pair. -/
  | notSequence (position : Nat)
  /-- It stands at a position of a list of pairs and has another number of parts. -/
  | notPair (position length : Nat)
  /-- It does not compare to a value of another kind. -/
  | incomparable (comparison left right : String)
  /-- It cannot be added to a value of another kind. -/
  | notAddable (left right : String)
  /-- It has no length. -/
  | unsized (kind : String)
  /-- It has no parts that could be cut out. -/
  | notSliceable (kind : String)
  /-- Nothing can be looked for in it. -/
  | notSearchable (kind : String)
  /-- It is no text that could stand in another text. -/
  | notTextPart (kind : String)
  /-- It stands at a position of a list of texts and is no text. -/
  | notTextItem (position : Nat) (kind : String)
  /-- It is no text that holds JSON. -/
  | notJsonText (kind : String)
  /-- It has no opposite. -/
  | notNegatable (kind : String)
  /-- It is no whole number and so no position in a text. -/
  | notPosition
  /-- It holds an integer that is too long to be written. -/
  | overlongInteger
  deriving DecidableEq, Repr

/-- The wording of a fault. -/
def ShapeFault.message : ShapeFault -> String
  | .noOperation kind operation =>
    "'" ++ kind ++ "' object has no attribute '" ++ operation ++ "'"
  | .notIterable kind => "'" ++ kind ++ "' object is not iterable"
  | .unhashable kind => "unhashable type: '" ++ kind ++ "'"
  | .notText kind => "expected string or bytes-like object, got '" ++ kind ++ "'"
  | .notSequence position =>
    "cannot convert dictionary update sequence element #" ++ natText position ++ " to a sequence"
  | .notPair position length =>
    "dictionary update sequence element #" ++ natText position ++ " has length " ++
      natText length ++ "; 2 is required"
  | .incomparable comparison left right =>
    "'" ++ comparison ++ "' not supported between instances of '" ++ left ++ "' and '" ++ right ++ "'"
  | .notAddable left right =>
    "unsupported operand type(s) for +: '" ++ left ++ "' and '" ++ right ++ "'"
  | .unsized kind => "object of type '" ++ kind ++ "' has no len()"
  | .notSliceable kind => "'" ++ kind ++ "' object is not subscriptable"
  | .notSearchable kind => "argument of type '" ++ kind ++ "' is not iterable"
  | .notTextPart kind => "'in <string>' requires string as left operand, not " ++ kind
  | .notTextItem position kind =>
    "sequence item " ++ natText position ++ ": expected str instance, " ++ kind ++ " found"
  | .notJsonText kind => "the JSON object must be str, bytes or bytearray, not " ++ kind
  | .notNegatable kind => "bad operand type for unary -: '" ++ kind ++ "'"
  | .notPosition => "slice indices must be integers or None or have an __index__ method"
  | .overlongInteger => unwritableReport

/-- A member of a value that has to be an object. -/
def memberOf (value : Json) (name : String) : Except ShapeFault (Option Json) :=
  match value with
  | .obj members => .ok (lookup name members)
  | other => .error (.noOperation other.kindName "get")

/-- The text of a value to which an operation on texts is applied. -/
def textFor (operation : String) : Json -> Except ShapeFault String
  | .str text => .ok text
  | other => .error (.noOperation other.kindName operation)

/-- A bound on counts: the least whole number that is not below a number. A value that is no number
does not compare to a count. -/
def countBound (comparison : String) : Json -> Except ShapeFault Int
  | .int bound => .ok bound
  | .bool bound => .ok (if bound then 1 else 0)
  | .float bound => .ok bound.toRat.ceil
  | other => .error (.incomparable comparison "int" other.kindName)

/-- The parts of a value: the items of an array, the names of an object, the characters of a
string. -/
def parts? : Json -> Option (List Json)
  | .arr items => some items
  | .obj members => some (members.map fun member => .str member.1)
  | .str text => some (text.toList.map fun c => .str (String.singleton c))
  | _ => none

/-- The parts of a value that has to have parts. -/
def parts (value : Json) : Except ShapeFault (List Json) :=
  match value.parts? with
  | some found => .ok found
  | none => .error (.notIterable value.kindName)

end RepoSurvey.Json

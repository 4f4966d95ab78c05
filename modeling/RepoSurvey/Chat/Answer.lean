import RepoSurvey.Json.Dictionary

/-!
# Answers of a provider

An answer is made of objects with attributes, of lists and of plain values. Unlike the members of a
plain object, an attribute that is asked for has to be there, and an object with attributes always
counts as present.
-/

namespace RepoSurvey.Chat

open Json (Dictionary ShapeFault)

/-- A part of an answer. -/
inductive Answer where
  | object (attributes : List (String × Answer))
  | list (items : List Answer)
  | plain (value : Json)

namespace Answer

/-- The name of the only member of an object that stands for the plain value of this member. -/
def plainMark : String := "$dict"

/-- The plain value that an object stands for. -/
def markedPlain? : List (String × Json) -> Option Json
  | [(name, value)] => if name = plainMark then some value else none
  | _ => none

mutual

/-- The answer written as a value: objects have attributes unless they are marked as plain. -/
def ofJson : Json -> Answer
  | .arr items => .list (itemsOf items)
  | .obj members =>
    match markedPlain? members with
    | some value => .plain value
    | none => .object (attributesOf members)
  | value => .plain value

/-- The items of a written list. -/
def itemsOf : List Json -> List Answer
  | [] => []
  | item :: items => ofJson item :: itemsOf items

/-- The attributes of a written object. -/
def attributesOf : List (String × Json) -> List (String × Answer)
  | [] => []
  | (name, value) :: members => (name, ofJson value) :: attributesOf members

end

mutual

/-- A part of an answer as a value. -/
def toJson : Answer -> Json
  | .object attributes => .obj (membersFrom attributes)
  | .list items => .arr (itemsFrom items)
  | .plain value => value

/-- The items of a list as values. -/
def itemsFrom : List Answer -> List Json
  | [] => []
  | item :: items => toJson item :: itemsFrom items

/-- The attributes of an object as members. -/
def membersFrom : List (String × Answer) -> List (String × Json)
  | [] => []
  | (name, value) :: attributes => (name, toJson value) :: membersFrom attributes

end

/-- The kind of a part, as it is reported. -/
def kindName : Answer -> String
  | .object _ => "types.SimpleNamespace"
  | .list _ => "list"
  | .plain value => value.kindName

/-- Whether a part counts as present. -/
def isPresent : Answer -> Bool
  | .object _ => true
  | .list items => !items.isEmpty
  | .plain value => value.isPresent

/-- An attribute, which has to be there. -/
def get (name : String) (answer : Answer) : Except ShapeFault Answer :=
  let found? :=
    match answer with
    | .object attributes => (attributes.find? fun entry => entry.1 == name).map (·.2)
    | _ => none
  match found? with
  | some found => .ok found
  | none => .error (.noOperation answer.kindName name)

/-- The parts of something that has to have parts. -/
def parts (answer : Answer) : Except ShapeFault (List Answer) :=
  match answer with
  | .list items => .ok items
  | .plain value => value.parts.map fun items => items.map .plain
  | .object _ => .error (.notIterable answer.kindName)

/-- The parts of something that has to have parts if it is present at all. -/
def anyParts (answer : Answer) : Except ShapeFault (List Answer) :=
  if answer.isPresent then answer.parts else .ok []

/-- The name that a part can be in a dictionary. -/
def asName : Answer -> Except ShapeFault Json
  | .plain (.arr _) => .error (.unhashable "list")
  | .plain (.obj _) => .error (.unhashable "dict")
  | .plain name => .ok name
  | part => .error (.unhashable part.kindName)

/-- The entries that pairs are, from a position on. -/
def entriesFrom (position : Nat) : List Answer -> Except ShapeFault Dictionary
  | [] => .ok []
  | entry :: entries => do
    match <- entry.parts.mapError fun _ => .notSequence position with
    | [name, value] =>
      let name <- name.asName
      pure ((name, value.toJson) :: (<- entriesFrom (position + 1) entries))
    | parts => throw (.notPair position parts.length)

/-- The dictionary that a part lists; an empty one when nothing is present. -/
def dictionary (answer : Answer) : Except ShapeFault Dictionary :=
  match answer with
  | .plain (.obj members) => .ok (.ofMembers members)
  | answer => do
    let entries <- entriesFrom 0 (<- answer.anyParts)
    pure (Dictionary.putAll entries [])

/-- The text that texts make up together. -/
def joined (answers : List Answer) : Except ShapeFault String :=
  go 0 answers
where
  /-- The text from a position on. -/
  go (position : Nat) : List Answer -> Except ShapeFault String
    | [] => .ok ""
    | .plain (.str text) :: rest => (go (position + 1) rest).map (text ++ ·)
    | answer :: _ => .error (.notTextItem position answer.kindName)

/-- Texts are joined in order. -/
theorem joined_texts (texts : List String) :
    joined (texts.map fun text => .plain (.str text)) = .ok (texts.foldr (· ++ ·) "") := by
  have general (position : Nat) :
      joined.go position (texts.map fun text => .plain (.str text)) =
        .ok (texts.foldr (· ++ ·) "") := by
    induction texts generalizing position with
    | nil => rfl
    | cons text texts inductionHypothesis => simp [joined.go, inductionHypothesis, Except.map]
  exact general 0

end Answer

end RepoSurvey.Chat

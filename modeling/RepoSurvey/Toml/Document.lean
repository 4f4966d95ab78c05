import RepoSurvey.Toml.Reader

/-!
# TOML documents

A document is a sequence of statements, one a line: key and value, the header of a table or the header
of one more table in an array. A table may be declared once; a table opened by a key of several parts
may be added to only within its section; values written out in place are never added to.
-/

namespace RepoSurvey.Toml

/-- How a table came about. -/
inductive Origin where
  /-- It lies on the way to another one. -/
  | implied
  /-- It was declared by a header. -/
  | declared
  /-- It was opened by a key of several parts in a section. -/
  | opened (since : Nat)
  deriving DecidableEq, Repr

/-- What stands under a name while a document is read. -/
inductive Item where
  | value (value : Value)
  | table (origin : Origin) (members : List (String × Item))
  /-- An array of tables: the finished ones and the one being filled. -/
  | tables (finished : List Value) (current : List (String × Item))
  deriving Inhabited

/-- The items of a table. -/
abbrev Items := List (String × Item)

mutual

/-- The value of an item. -/
def Item.toValue : Item -> Value
  | .value held => held
  | .table _ members => .table (Item.toMembers members)
  | .tables finished current => .array (finished ++ [.table (Item.toMembers current)])

/-- The members of a table. -/
def Item.toMembers : List (String × Item) -> Members
  | [] => []
  | (name, item) :: rest => (name, item.toValue) :: Item.toMembers rest

end

namespace Items

/-- The item of a name. -/
def find? (name : String) : Items -> Option Item
  | [] => none
  | (other, item) :: items => if other = name then some item else find? name items

/-- Put an item under a name, where the name stands or at the end. -/
def put (name : String) (item : Item) : Items -> Items
  | [] => [(name, item)]
  | (other, old) :: items =>
    if other = name then (other, item) :: items else (other, old) :: put name item items

/-- Change the table a path leads to. Missing tables on the way are implied; in an array of tables the
way leads through the one being filled. -/
def changeAt (change : Items -> Option Items) : (path : List String) -> Items -> Option Items
  | [], items => change items
  | name :: rest, items =>
    match items.find? name with
    | none => (changeAt change rest []).map fun inner => items.put name (.table .implied inner)
    | some (.value _) => none
    | some (.table origin inner) =>
      (changeAt change rest inner).map fun inner => items.put name (.table origin inner)
    | some (.tables finished current) =>
      (changeAt change rest current).map fun current => items.put name (.tables finished current)

/-- Declare a table in the table above it. -/
def declare (name : String) (items : Items) : Option Items :=
  match items.find? name with
  | none => some (items.put name (.table .declared []))
  | some (.table .implied inner) => some (items.put name (.table .declared inner))
  | _ => none

/-- Start one more table of an array in the table above it. -/
def append (name : String) (items : Items) : Option Items :=
  match items.find? name with
  | none => some (items.put name (.tables [] []))
  | some (.tables finished current) =>
    some (items.put name (.tables (finished ++ [.table (Item.toMembers current)]) []))
  | _ => none

/-- Add a value under a key, in a section. The tables on the way are opened by the key. -/
def add (current : Nat) (value : Value) : (key : List String) -> Items -> Option Items
  | [], _ => none
  | [name], items =>
    match items.find? name with
    | none => some (items.put name (.value value))
    | some _ => none
  | name :: rest, items =>
    let opened (inner : Items) : Option Items :=
      (add current value rest inner).map fun inner =>
        items.put name (.table (.opened current) inner)
    match items.find? name with
    | none => opened []
    | some (.table .implied inner) => opened inner
    | some (.table (.opened since) inner) => if since = current then opened inner else none
    | some (.table .declared _) | some (.tables _ _) | some (.value _) => none

end Items

/-- A document while it is read: its items, the header of the section and the number of headers. -/
structure Draft where
  items : Items
  header : List String
  sections : Nat

namespace Draft

/-- The draft of a document of which nothing was read. -/
def empty : Draft := ⟨[], [], 0⟩

/-- Enter a section whose header changes the table above the named one. -/
def enter (draft : Draft) (change : String -> Items -> Option Items) (key : List String) :
    Option Draft :=
  (Items.changeAt (change (key.getLastD "")) key.dropLast draft.items).map fun items =>
    ⟨items, key, draft.sections + 1⟩

/-- Add a value under a key in the current section. -/
def add (draft : Draft) (key : List String) (value : Value) : Option Draft :=
  (Items.changeAt (Items.add draft.sections value key) draft.header draft.items).map fun items =>
    { draft with items }

end Draft

/-- The changed draft, or a flaw. -/
def orMalformed (changed : Option Draft) (rest : List Char) : Reading Draft :=
  match changed with
  | some draft => .ok (draft, rest)
  | none => .error .malformed

/-- Read one statement. -/
def readStatement (draft : Draft) (chars : List Char) : Reading Draft :=
  match chars with
  | '[' :: '[' :: rest =>
    match readKey (skipSpaces rest) with
    | .error flaw => .error flaw
    | .ok (key, ']' :: ']' :: rest) => orMalformed (draft.enter Items.append key) rest
    | .ok _ => .error .malformed
  | '[' :: rest =>
    match readKey (skipSpaces rest) with
    | .error flaw => .error flaw
    | .ok (key, ']' :: rest) => orMalformed (draft.enter Items.declare key) rest
    | .ok _ => .error .malformed
  | _ =>
    match readKey chars with
    | .error flaw => .error flaw
    | .ok (key, '=' :: rest) =>
      match readValue (2 * rest.length + 2) (skipSpaces rest) with
      | .error flaw => .error flaw
      | .ok (value, rest) => orMalformed (draft.add key value) rest
    | .ok _ => .error .malformed

/-- Read the lines of a document from some place on. -/
def readLines : (fuel : Nat) -> Draft -> List Char -> Except Flaw Draft
  | 0, draft, _ => .ok draft
  | fuel + 1, draft, chars =>
    let statement : Reading Draft :=
      match skipSpaces chars with
      | [] => .ok (draft, [])
      | '\n' :: rest => .ok (draft, '\n' :: rest)
      | '#' :: rest => .ok (draft, '#' :: rest)
      | rest => readStatement draft rest
    match statement with
    | .error flaw => .error flaw
    | .ok (draft, rest) =>
      match skipComment (skipSpaces rest) with
      | .error flaw => .error flaw
      | .ok [] => .ok draft
      | .ok ('\n' :: rest) => readLines fuel draft rest
      | .ok _ => .error .malformed

/-- Read a document whose lines end in line feeds. -/
def readDocument (text : List Char) : Except Flaw Members :=
  (readLines (text.length + 1) .empty text).map fun draft => Item.toMembers draft.items

end RepoSurvey.Toml

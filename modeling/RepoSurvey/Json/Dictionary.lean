import RepoSurvey.Json.Display
import RepoSurvey.Json.Shape

/-!
# Dictionaries

A dictionary keeps values under names that may be any value without parts. Numbers that are equal are
one name, whatever their form. Entries are added from an object or from a list of pairs; pairs before
one that does not fit are added all the same.
-/

namespace RepoSurvey.Json

/-- Values under names of any kind, in the order in which the names came up. -/
abbrev Dictionary := List (Json × Json)

/-- The exact value of a number; truth values count as one and zero. -/
def exactValue? : Json -> Option Rat
  | .bool value => some (if value then 1 else 0)
  | .int value => some value
  | .float value => value.toRat?
  | _ => none

/-- Whether two names are one: numbers by their exact value, and what is no number equals nothing. -/
def sameName (left right : Json) : Bool :=
  match exactValue? left, exactValue? right with
  | some left, some right => left == right
  | none, none => left == right && left != .float .nan
  | _, _ => false

/-- A name as the name of a member. -/
def memberName : Json -> String
  | .bool value => if value then "true" else "false"
  | name => name.display

namespace Dictionary

/-- Put a value under a name. A name that was there before keeps its place and its form. -/
def put (name value : Json) : Dictionary -> Dictionary
  | [] => [(name, value)]
  | (other, old) :: entries =>
    if sameName other name then (other, value) :: entries
    else (other, old) :: put name value entries

/-- The value under a name. -/
def get? (name : Json) : Dictionary -> Option Json
  | [] => none
  | (other, value) :: entries => if sameName other name then some value else get? name entries

/-- The entries of a member list. -/
def ofMembers (members : List (String × Json)) : Dictionary :=
  members.map fun (name, value) => (.str name, value)

/-- The members that a dictionary is written as. A later name takes the place of an earlier one that
is written alike. -/
def toMembers (dictionary : Dictionary) : List (String × Json) :=
  dictionary.foldl (fun members entry => assign (memberName entry.1) entry.2 members) []

/-- Pairs from a position on, up to the first part that is no pair, and what is wrong with that. -/
def pairsFrom (position : Nat) : List Json -> Dictionary × Option ShapeFault
  | [] => ([], none)
  | entry :: entries =>
    match entry.parts? with
    | none => ([], some (.notSequence position))
    | some [name, value] =>
      match name with
      | .arr _ | .obj _ => ([], some (.unhashable name.kindName))
      | _ =>
        let (pairs, fault) := pairsFrom (position + 1) entries
        ((name, value) :: pairs, fault)
    | some parts => ([], some (.notPair position parts.length))

/-- The entries that a value lists, as an object or as pairs, and what is wrong with the first one that
is none. -/
def entriesOf (value : Json) : Dictionary × Option ShapeFault :=
  match value with
  | .obj members => (ofMembers members, none)
  | value =>
    match value.parts with
    | .error fault => ([], some fault)
    | .ok parts => pairsFrom 0 parts

/-- Put entries in. -/
def putAll (entries : List (Json × Json)) (dictionary : Dictionary) : Dictionary :=
  entries.foldl (fun dictionary entry => dictionary.put entry.1 entry.2) dictionary

/-- The dictionary that a value lists. -/
def ofValue (value : Json) : Except ShapeFault Dictionary :=
  match entriesOf value with
  | (_, some fault) => .error fault
  | (entries, none) => .ok (putAll entries [])

/-- A value just put is found. -/
theorem get?_put_self (name : String) (value : Json) (dictionary : Dictionary) :
    (dictionary.put (.str name) value).get? (.str name) = some value := by
  have self : sameName (.str name) (.str name) = true := by simp [sameName, exactValue?]
  induction dictionary with
  | nil => simp [put, get?, self]
  | cons entry entries inductionHypothesis =>
    obtain ⟨other, old⟩ := entry
    by_cases same : sameName other (.str name) = true <;> simp [put, get?, same, inductionHypothesis]

end Dictionary

end RepoSurvey.Json

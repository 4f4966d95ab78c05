import RepoSurvey.Json.Shape

/-!
# Comparing values

Numbers are compared exactly, whatever their form; truth values count as zero and one. A number that is
undefined compares to nothing, and values of other kinds do not compare to numbers at all.
-/

namespace RepoSurvey.Json

open Number (Binary64)

/-- The amount a number stands for. -/
inductive Amount where
  | exact (value : Rat)
  | infinite (negative : Bool)
  | undefined
  deriving DecidableEq, Repr

namespace Amount

/-- The amount of a double. -/
def ofDouble : Binary64 -> Amount
  | .infinite negative => .infinite negative
  | .nan => .undefined
  | value => .exact value.toRat

/-- Whether an amount is greater than another. -/
def exceeds (left right : Amount) : Bool :=
  match left, right with
  | .exact left, .exact right => right < left
  | .infinite false, .exact _ | .infinite false, .infinite true | .exact _, .infinite true => true
  | _, _ => false

/-- Whether an amount is at least another. -/
def reaches (left right : Amount) : Bool := left.exceeds right || (left == right && left != .undefined)

@[simp] theorem exact_exceeds_exact (left right : Rat) :
    (Amount.exact left).exceeds (.exact right) = decide (right < left) := rfl

end Amount

/-- The amount of a value that counts as a number. -/
def amount? : Json -> Option Amount
  | .bool value => some (.exact (if value then 1 else 0))
  | .int value => some (.exact value)
  | .float value => some (.ofDouble value)
  | _ => none

/-- The amounts of two values that have to be numbers to be compared in the way of a sign. -/
def amounts (comparison : String) (left right : Json) : Except ShapeFault (Amount × Amount) :=
  match left.amount?, right.amount? with
  | some first, some second => .ok (first, second)
  | _, _ => .error (.incomparable comparison left.kindName right.kindName)

/-- Whether a value is at least another one. -/
def reaches (left right : Json) : Except ShapeFault Bool :=
  (amounts ">=" left right).map fun (first, second) => first.reaches second

/-! ## Equality -/

mutual

/-- Whether two values are equal: numbers by their amounts, objects whatever the order of their
members. An undefined number counts as equal to another one. -/
def equals : Json -> Json -> Bool
  | .arr left, .arr right => equalItems left right
  | .obj left, .obj right => left.length == right.length && equalMembers left right
  | .str left, .str right => left == right
  | .null, .null => true
  | left, right =>
    match left.amount?, right.amount? with
    | some left, some right => left == right
    | _, _ => false

/-- Whether items are equal one by one. -/
def equalItems : List Json -> List Json -> Bool
  | [], [] => true
  | left :: lefts, right :: rights => equals left right && equalItems lefts rights
  | _, _ => false

/-- Whether every member of a list is in another one. -/
def equalMembers : List (String × Json) -> List (String × Json) -> Bool
  | [], _ => true
  | (name, value) :: members, others =>
    (match lookup name others with
      | some other => equals value other
      | none => false) && equalMembers members others

end

end RepoSurvey.Json

import RepoSurvey.Json.Compare
import RepoSurvey.Reply.Extraction
import RepoSurvey.Text.Caseless

/-!
# Required parts of any value

Parts can be required of values that need not be objects: names of an object, items of an array, or
parts of a text. In other values nothing can be looked for.
-/

namespace RepoSurvey.Reply

open Json (ShapeFault)

/-- Whether a value holds a part. -/
def holdsPart (data part : Json) : Except ShapeFault Bool :=
  match data, part with
  | .arr items, part => .ok (items.any fun item => item.equals part)
  | .str text, .str part => .ok (Text.holdsWithin part.toList text.toList)
  | .str _, part => .error (.notTextPart part.kindName)
  | .obj _, .arr _ | .obj _, .obj _ => .error (.unhashable part.kindName)
  | .obj members, .str name => .ok (Json.lookup name members).isSome
  | .obj _, _ => .ok false
  | data, _ => .error (.notSearchable data.kindName)

/-- The parts that a value lacks. -/
def missingParts (data : Json) : List Json -> Except ShapeFault (List Json)
  | [] => .ok []
  | part :: parts => do
    let held <- holdsPart data part
    let missing <- missingParts data parts
    pure (if held then missing else part :: missing)

/-- Require parts of a value. -/
def requireParts (data : Json) (parts : List Json) (label : String) :
    Except ShapeFault (Except ExtractionFailure Json) := do
  let missing <- missingParts data parts
  pure (if missing.isEmpty then .ok data else .error (.missingKeys label missing data))

/-- Names required of an object are its members. -/
theorem missingParts_texts (members : List (String × Json)) (names : List String) :
    missingParts (.obj members) (names.map .str) =
      .ok ((names.filter fun name => (Json.lookup name members).isNone).map .str) := by
  induction names with
  | nil => rfl
  | cons name names inductionHypothesis =>
    cases found : Json.lookup name members <;>
      simp_all [missingParts, holdsPart, bind, Except.bind, pure, Except.pure]

end RepoSurvey.Reply

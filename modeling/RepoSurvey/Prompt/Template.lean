import RepoSurvey.Json.Display
import RepoSurvey.Text.Blank

/-!
# Templates

A template is text with places for values. A place is a dollar sign and a name, possibly in braces;
two dollar signs stand for one. Values are put in as they are and are not looked into again.
-/

namespace RepoSurvey.Prompt

/-- Why a template cannot be filled. -/
inductive TemplateFault where
  /-- There is no value of a name. -/
  | missingValue (name : String)
  /-- A dollar sign is followed by no name. -/
  | invalidPlace (line column : Nat)
  deriving DecidableEq, Repr

/-- The wording of a fault. -/
def TemplateFault.message : TemplateFault -> String
  | .missingValue name => Text.quoted name
  | .invalidPlace line column =>
    "Invalid placeholder in string: line " ++ Number.natText line ++ ", col " ++
      Number.natText column

/-- Whether a character may start a name. -/
def startsName (c : Char) : Bool := c.isAlpha || c == '_'

/-- Whether a character may stand in a name. -/
def isInName (c : Char) : Bool := startsName c || c.isDigit

/-- A part of a template. -/
inductive Piece where
  | plain (c : Char)
  | place (name : String)
  | invalid
  deriving DecidableEq, Repr

/-- The piece after a dollar sign, and the number of characters it takes up. -/
def afterDollar (rest : List Char) : Piece × Nat :=
  match rest with
  | '$' :: _ => (.plain '$', 1)
  | '{' :: inner =>
    let name := inner.takeWhile isInName
    if (name.head?.any startsName) && inner[name.length]? == some '}' then
      (.place (String.ofList name), name.length + 2)
    else (.invalid, 0)
  | _ =>
    let name := rest.takeWhile isInName
    if name.head?.any startsName then (.place (String.ofList name), name.length) else (.invalid, 0)

/-- The line and column of the last character of a text. -/
def position (text : List Char) : Nat × Nat :=
  let lines := Text.lines text
  (lines.length, (lines.getLast?.map List.length).getD 0)

/-- Fill a template from some characters on; `before` holds those passed, the last one first. -/
def fillFrom (value? : String -> Option String) (before : List Char) :
    List Char -> Except TemplateFault (List Char)
  | [] => .ok []
  | c :: rest =>
    if c != '$' then (fillFrom value? (c :: before) rest).map (c :: ·)
    else
      let (piece, width) := afterDollar rest
      let after := rest.drop width
      let passed := (rest.take width).reverse ++ c :: before
      match piece with
      | .plain d => (fillFrom value? passed after).map (d :: ·)
      | .place name =>
        match value? name with
        | none => .error (.missingValue name)
        | some value => (fillFrom value? passed after).map (value.toList ++ ·)
      | .invalid =>
        let (line, column) := position (c :: before).reverse
        .error (.invalidPlace line column)
termination_by text => text.length
decreasing_by
  all_goals simp only [List.length_drop, List.length_cons]; omega

/-- Fill a template. -/
def fill (template : String) (value? : String -> Option String) : Except TemplateFault String :=
  (fillFrom value? [] template.toList).map String.ofList

end RepoSurvey.Prompt

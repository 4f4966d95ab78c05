import RepoSurvey.Json.Reader
import RepoSurvey.Json.Writer
import RepoSurvey.Json.Display
import RepoSurvey.Json.Shape

/-!
# The JSON object inside a reply

A model asked for JSON still wraps it in prose and fences. The object is looked for between the first
opening and the last closing brace; no braces are balanced, so stray ones lead to an unreadable part.
An unreadable reply can be answered by a correction, a bounded number of times.
-/

namespace RepoSurvey

/-- Why no object was obtained from a reply. -/
inductive ExtractionFailure where
  /-- There is no opening brace with a closing one after it. -/
  | noObject (reply : String)
  /-- The part between the braces cannot be read. -/
  | malformed (reply : String) (report : String)
  /-- The part between the braces has an integer too long to be converted. -/
  | overlongInteger (digits : Nat)
  /-- The object lacks required members. -/
  | missingKeys (label : String) (missing : List Json) (data : Json)
  deriving DecidableEq, Repr

namespace ExtractionFailure

/-- The wording of a failure. -/
def message : ExtractionFailure -> String
  | .noObject _ => "No JSON object found in reply"
  | .malformed _ report => "Invalid JSON in reply: " ++ report
  | .overlongInteger digits => (Json.Flaw.overlongInteger digits).message
  | .missingKeys label missing _ =>
    "[" ++ label ++ "] Reply JSON is missing keys: " ++ (Json.arr missing).literal

/-- Whether the model may be asked to correct the reply. -/
def isCorrectable : ExtractionFailure -> Bool
  | .overlongInteger _ => false
  | _ => true

/-- The text that is kept with a failure: the reply, or the beginning of the incomplete object. -/
def rawText? : ExtractionFailure -> Option String
  | .noObject reply => some reply
  | .malformed reply _ => some reply
  | .overlongInteger _ => none
  | .missingKeys _ _ data => some (String.ofList ((Json.write .ascii 0 data).take 2000))

end ExtractionFailure

namespace Reply

/-- The part of a text from the first opening to the last closing brace. -/
def bracedPart? (text : List Char) : Option (List Char) :=
  let fromOpening := text.dropWhile (· != '{')
  let toClosing := (fromOpening.reverse.dropWhile (· != '}')).reverse
  if toClosing.isEmpty then none else some toClosing

/-- The object embedded in a reply. -/
def parseObject (reply : String) : Except ExtractionFailure Json :=
  match bracedPart? reply.toList with
  | none => .error (.noObject reply)
  | some part =>
    match Json.readAll part with
    | .ok value => .ok value
    | .error fault =>
      match fault.flaw with
      | .overlongInteger digits => .error (.overlongInteger digits)
      | _ => .error (.malformed reply (fault.message part))

/-- How often a reply is corrected. -/
def correctionLimit : Nat := 2

/-- The correction sent after an unreadable reply. -/
def correction (failure : ExtractionFailure) : String :=
  "Your previous reply could not be parsed (" ++ failure.message ++ "). " ++
    "Reply again with only the complete JSON object, no prose and no code fences."

/-- Extract the object from a reply, asking for corrections. `reask` answers a correction by a fresh
reply and its own next state. -/
def extract {m : Type -> Type} [Monad m] {σ : Type} (reask : String -> σ -> m (String × σ)) :
    (remaining : Nat) -> (reply : String) -> σ -> m (Except ExtractionFailure Json × σ)
  | remaining, reply, state =>
    match parseObject reply with
    | .ok value => pure (.ok value, state)
    | .error failure =>
      match remaining with
      | 0 => pure (.error failure, state)
      | remaining + 1 =>
        if failure.isCorrectable then do
          let (next, state) <- reask (correction failure) state
          extract reask remaining next state
        else pure (.error failure, state)

/-- Extract the object from a reply with a limit from outside, which is not looked at when the reply
needs no correction. -/
def extractWithin {m : Type -> Type} [Monad m] {σ : Type} (limit : Json)
    (reask : String -> σ -> m (String × σ)) (reply : String) (state : σ) :
    m (Except Json.ShapeFault (Except ExtractionFailure Json) × σ) := do
  match limit.countBound ">=", parseObject reply with
  | .error fault, .error failure =>
    pure (if failure.isCorrectable then .error fault else .ok (.error failure), state)
  | limit, _ =>
    let (result, state) <- extract reask (limit.toOption.getD 0).toNat reply state
    pure (.ok result, state)

/-- Require members of an object. -/
def requireKeys (data : Json) (keys : List String) (label : String) :
    Except ExtractionFailure Json :=
  let missing := keys.filter fun key => (data.get? key).isNone
  if missing.isEmpty then .ok data else .error (.missingKeys label (missing.map .str) data)

end Reply

end RepoSurvey

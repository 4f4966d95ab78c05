import RepoSurvey.Rehearsal.Desk

/-!
# Steps of a rehearsal

A step asks the stores on a desk for one thing: the cache, the stored documents, the progress records
or the sessions. Its arguments may have any shape. What it gives back is shown as a value.
-/

namespace RepoSurvey.Rehearsal.Step

open Analysis (Progress)
open Schema
open Store (Lifetime)

/-- The arguments of a step: the items of an array, or one value that is no array. -/
structure Arguments where
  values : List Json

namespace Arguments

/-- The arguments that a value holds. -/
def ofValue : Json -> Arguments
  | .arr items => ⟨items⟩
  | value => ⟨[value]⟩

/-- The argument at a position; null when there is none. -/
def item (arguments : Arguments) (position : Nat) : Json := arguments.values.getD position .null

/-- The argument at a position, if there is one. -/
def item? (arguments : Arguments) (position : Nat) : Option Json := arguments.values[position]?

/-- The text of the argument at a position; empty for other values. -/
def text (arguments : Arguments) (position : Nat) : String := Description.text (arguments.item position)

end Arguments

/-- A found record as a value. -/
def shown {α : Type} (codec : Codec α) (found : Option α) : Json :=
  (found.map (codec.write .stored)).getD .null

/-- Steps on the cache. -/
def onCache (name : String) (arguments : Arguments) : Option (Trying Json) :=
  let keyed (use : String -> Trying Json) : Trying Json := do
    match <- fitting (Store.Cache.keyFor (arguments.item 0) (<- get).scene.cache) with
    | some key => use key
    | none => pure .null
  match name with
  | "get" => some <| keyed fun key => do
    return (<- attempted (Analysis.readCache key)).getD .null
  | "set" => some do
    let lifetime := ((arguments.item? 2).map Lifetime.ofJson).getD (.ofSeconds Store.defaultSeconds)
    let scene := (<- get).scene
    fitting (Store.Cache.checkLifetime lifetime scene.clock scene.cache)
    keyed fun key => do
      attempted (Analysis.writeCache key (arguments.item 1) lifetime)
      pure .null
  | "delete" => some <| keyed fun key => do
    attempted (Analysis.deleteCache key)
    pure .null
  | "purge" => some <| ExceptT.mk <| onScene fun scene =>
    let (count, cache) := scene.cache.purge scene.clock
    (match count with
      | none => .ok .null
      | some (.ok count) => .ok (.int count)
      | some (.error fault) => .error (.entry (.cache fault)), { scene with cache })
  | "reopen" => some (pure .null)
  | _ => none

/-- Steps on the stored documents. -/
def onStore (name : String) (arguments : Arguments) : Option (Trying Json) :=
  let documents : Trying Store.Documents := return (<- get).scene.documents
  match name with
  | "save_doc" | "save" => some <| ExceptT.mk <| onScene fun scene =>
    let (outcome, documents) := Store.Documents.enter (arguments.item 0) (arguments.item 1)
      (arguments.item 2) (arguments.item 3) scene.clock scene.documents
    ((outcome.map fun _ => Json.null).mapError .entry, { scene with documents })
  | "get_doc" => some do
    return Json.ofText? (<- fitting ((<- documents).lookFor (arguments.item 0) (arguments.item 1)
      (arguments.item 2) (arguments.item? 3)))
  | "list_docs" => some do
    return Json.ofTexts (<- fitting ((<- documents).namesFor (arguments.item 0) (arguments.item 1)
      (arguments.item? 2)))
  | "docs" => some do
    let documents <- documents
    let names <- fitting (documents.namesFor (arguments.item 0) (arguments.item 1) (arguments.item? 2))
    let contents <- names.mapM fun name => fitting (documents.lookFor (arguments.item 0) (.str name)
      (arguments.item 1) (arguments.item? 2))
    return .arr ((names.zip contents).map fun (name, content) =>
      .arr [.str name, Json.ofText? content])
  | "discard_drafts" => some do
    let project <- columnText 1 (arguments.item 0)
    let name <- columnText 2 (arguments.item 1)
    match project with
    | some project => return .int (<- attempted (Analysis.discardDrafts project name))
    | none => return .int 0
  | "publish" => some do
    match <- columnText 1 (arguments.item 0) with
    | some project => return .int (<- attempted (Analysis.publishDrafts project))
    | none => return .int 0
  | "broken_transaction" => some <| ExceptT.mk <| onDocuments fun documents =>
    let (done, documents) := documents.transact [.deleteProject (arguments.text 0), .invalid]
    (if done then .ok .null else .error .invalidStatement, documents)
  | "rows" => some do return .arr ((<- documents).ordered.map (Store.Row.codec.write .stored))
  | _ => none

/-- Steps on the progress records. -/
def onProgress (name : String) (arguments : Arguments) : Option (Trying Json) :=
  let codec (record : Progress) : Codec Progress := Progress.codec record.updatedAt.reading
  let encoded (record : Progress) : Json := (codec record).write .stored record
  let lifetime : Trying Lifetime := return Description.progressLifetime (<- get).description
  let giving (work : Lifetime -> Analysis.Attempt (Option Progress)) : Option (Trying Json) :=
    some do return ((<- attempted (work (<- lifetime))).map encoded).getD .null
  let url := arguments.item 0
  match name with
  | "create" => giving fun lifetime => some <$> Progress.createFor lifetime url
  | "get" | "progress" => giving fun _ => Progress.getFor url
  | "update" => giving fun lifetime => Progress.updateFor lifetime url (arguments.item 1).members
  | "report" => giving fun lifetime =>
    Progress.noteFor lifetime url (arguments.item 1) (arguments.item 2) (arguments.item 3)
  | "mark_failed" => giving fun lifetime => Progress.markFailedFor lifetime url (arguments.item 1)
  | "mark_completed" => giving fun lifetime =>
    Progress.markCompletedFor lifetime url (arguments.item? 1)
  | "delete" => some do
    attempted (Progress.deleteFor url)
    pure .null
  | _ => none

/-- Steps on the sessions. -/
def onSessions (name : String) (arguments : Arguments) : Option (Trying Json) :=
  let capacity : Trying Json := return Description.capacity (<- get).description
  let id : Trying String := return (<- get).session (arguments.item 0)
  let found {α : Type} (outcome : Option α) : Json := .bool outcome.isSome
  match name with
  | "create_session" => some do
    let fresh <- ExceptT.lift <| onScene fun scene => ("session-" ++ Analysis.World.identifier scene.identifiers,
      { scene with identifiers := scene.identifiers + 1 })
    let capacity <- capacity
    entered fun table now =>
      table.enter capacity fresh (arguments.item 1) (arguments.item 2).display now
    modify fun desk => { desk with handles := desk.handles.put (arguments.item 0) (.str fresh) }
    return .str fresh
  | "get_session" => some do
    let id <- id
    let session <- ExceptT.lift <| onTable fun table now => table.access id now
    return shown (Session.codec (<- get).scene.clock) session
  | "update_session_context" => some do
    let id <- id
    return found (<- entered fun table now => table.enterContext id (arguments.item 1) now)
  | "add_conversation_message" => some do
    let id <- id
    return found (<- entered fun table now =>
      table.enterRemark id (arguments.item 1) (arguments.item 2) now)
  | "record_tool_result" => some do
    let id <- id
    return found (<- entered fun table now => table.enterToolRecord id (arguments.item 1)
      (arguments.item 2) ((arguments.item? 3).getD (.str "")) now)
  | "get_session_summary" => some do
    let id <- id
    return shown Session.Summary.codec (<- entered fun table now => table.summary id now)
  | "end_session" => some do
    let id <- id
    return .bool (<- ExceptT.lift <| onTable fun table _ => table.close id)
  | "get_all_sessions" => some do
    let scene := (<- get).scene
    return .arr (scene.sessions.sessions.map ((Session.codec scene.clock).write .stored))
  | "active_session_count" | "sessions" => some do
    return .int (<- get).scene.sessions.sessions.length
  | "get_stats" => some do
    let capacity <- capacity
    return Session.Stats.codec.write .stored
      (<- entered fun table now => (table.statsFor capacity now, table))
  | "cleanup_expired_sessions" => some do
    return .int (<- ExceptT.lift <| onTable fun table now => table.cleanup now)
  | _ => none

/-- Steps on kept results. -/
def onResults (name : String) (arguments : Arguments) : Option (Trying Json) :=
  let key := Analysis.resultKey (arguments.item 0).display (arguments.item 1).display
  match name with
  | "cached" => some do return (<- attempted (Analysis.readCache key)).getD .null
  | "set_cached" => some do
    attempted (Analysis.writeCache key (arguments.item 2) (.ofSeconds Store.defaultSeconds))
    pure .null
  | _ => none

/-- The step of a name, by what the rehearsal is about. -/
def ofName? (subject name : String) (value : Json) : Option (Trying Json) :=
  let arguments := Arguments.ofValue value
  match subject with
  | "cache" => onCache name arguments
  | "store" => onStore name arguments
  | "progress" => onProgress name arguments
  | "sessions" => onSessions name arguments
  | _ => (onResults name arguments).or <| (onProgress name arguments).or <|
      (onStore name arguments).or (onSessions name arguments)

end RepoSurvey.Rehearsal.Step

import RepoSurvey.Session.Record

/-!
# The table of sessions

The table holds a bounded number of sessions. A session that was not used for longer than a time limit
is over: it is dropped when it is looked for and whenever a session is created. If the table is still
full then, the session that was created first makes room.

What a run asks of the table are requests; the table answers each of them.
-/

namespace RepoSurvey.Session

open Schema
open Clock (Moment)
open Number (Binary64)

/-- The sessions, in the order in which they were created. The time limit is in microseconds. -/
structure Table where
  maxSessions : Int
  timeLimit : Int
  sessions : List Session
  deriving DecidableEq, Repr

/-- A table cannot hold any session. -/
structure NoRoom where
  deriving DecidableEq, Repr

/-- The wording of the problem. -/
def NoRoom.message (_ : NoRoom) : String := "min() arg is an empty sequence"

/-- The number of sessions a table holds when no other is given. -/
def defaultMaxSessions : Int := 50

/-- The time limit when no other is given. -/
def defaultTimeLimit : Int := Moment.perDay

/-- The length to which summaries of tool results are cut. -/
def summaryLimit : Nat := 500

/-- The seconds from one moment to another. -/
def seconds (later earlier : Moment) : Binary64 :=
  Binary64.ofRat ((later.since earlier : Rat) / (Moment.perSecond : Rat))

namespace Table

/-- A table without sessions. -/
def empty (maxSessions timeLimit : Int) : Table := ⟨maxSessions, timeLimit, []⟩

/-- Whether a session is over. -/
def isOver (table : Table) (now : Moment) (session : Session) : Bool :=
  table.timeLimit < now.since session.updatedAt.reading

/-- The session of an identifier. -/
def find? (table : Table) (id : String) : Option Session :=
  table.sessions.find? fun session => session.id == id

/-- Remove a session. -/
def remove (table : Table) (id : String) : Table :=
  { table with sessions := table.sessions.filter fun session => session.id != id }

/-- Change a session. -/
def modify (table : Table) (id : String) (change : Session -> Session) : Table :=
  { table with
    sessions := table.sessions.map fun session =>
      if session.id = id then change session else session }

/-- Drop all sessions that are over, and count them. -/
def cleanup (table : Table) (now : Moment) : Nat × Table :=
  (table.sessions.countP (table.isOver now),
    { table with sessions := table.sessions.filter fun session => !table.isOver now session })

/-- The session that was created first, of several the one that stands first. -/
def oldest? : List Session -> Option Session
  | [] => none
  | session :: rest =>
    match oldest? rest with
    | none => some session
    | some other =>
      if other.createdAt.reading.microseconds < session.createdAt.reading.microseconds then some other
      else some session

/-- Remove the oldest sessions until fewer than `room` are left. -/
def evict : (fuel : Nat) -> (room : Int) -> List Session -> List Session
  | 0, _, sessions => sessions
  | fuel + 1, room, sessions =>
    if (sessions.length : Int) < room then sessions
    else
      match oldest? sessions with
      | none => sessions
      | some oldest => evict fuel room (sessions.filter fun session => session.id != oldest.id)

/-- Create a session. -/
def create (table : Table) (id goal repositoryPath : String) (now : Moment) :
    Except NoRoom Unit × Table :=
  let (_, table) := table.cleanup now
  let kept := evict table.sessions.length table.maxSessions table.sessions
  if table.maxSessions ≤ 0 then (.error ⟨⟩, { table with sessions := kept })
  else
    let session : Session := ⟨id, repositoryPath, goal, .ofMoment now, .ofMoment now, [], [], []⟩
    (.ok (), { table with sessions := kept ++ [session] })

/-- Look for a session and note that it was used. -/
def access (table : Table) (id : String) (now : Moment) : Option Session × Table :=
  match table.find? id with
  | none => (none, table)
  | some session =>
    if table.isOver now session then (none, table.remove id)
    else
      ( some { session with updatedAt := .ofMoment now },
        table.modify id fun session => { session with updatedAt := .ofMoment now } )

/-- Look for a session and change it; false when it is not found. -/
def change (table : Table) (id : String) (now : Moment) (update : Session -> Session) :
    Bool × Table :=
  match table.access id now with
  | (none, table) => (false, table)
  | (some _, table) => (true, table.modify id update)

/-- Look for a session and change it by something read; nothing is read when it is not found. -/
def changeBy {α : Type} (table : Table) (id : String) (now : Moment) (read : Except Report α)
    (update : α -> Session -> Session) : Except Report Bool × Table :=
  match table.access id now, read with
  | (none, table), _ => (.ok false, table)
  | (some _, table), .error report => (.error report, table)
  | (some _, table), .ok value => (.ok true, table.modify id (update value))

/-- Note something about the context of a session. -/
def updateContext (table : Table) (id : String) (updates : List (String × Json)) (now : Moment) :
    Bool × Table :=
  table.change id now fun session =>
    { session with
      context := updates.foldl (fun context update => Json.assign update.1 update.2 context)
        session.context }

/-- Add a remark to a session. -/
def addRemark (remark : Remark) (session : Session) : Session :=
  { session with remarks := session.remarks ++ [remark] }

/-- Add how a tool call came out. -/
def addToolRecord (record : ToolRecord) (session : Session) : Session :=
  { session with toolRecords := session.toolRecords ++ [record] }

/-- A record of a tool call with its summary cut short. -/
def toolRecord (toolName : String) (success : Bool) (summary : String) (now : Moment) : ToolRecord :=
  ⟨toolName, success, String.ofList (summary.toList.take summaryLimit), .ofMoment now⟩

/-- End a session; false when there is none. -/
def close (table : Table) (id : String) : Bool × Table :=
  match table.find? id with
  | none => (false, table)
  | some _ => (true, table.remove id)

/-- The figures of the table. -/
def stats (table : Table) (now : Moment) : Stats :=
  ⟨table.sessions.length, table.maxSessions,
    (oldest? table.sessions).map fun session => seconds now session.createdAt.reading⟩

end Table

/-- The summary of a session; the stage noted in its context has to be a text. -/
def summary (session : Session) (now : Moment) : Except Report Summary :=
  let calls := session.toolRecords.length
  let successes := session.toolRecords.countP ToolRecord.success
  let rate := if calls = 0 then Binary64.zero else Binary64.ofRatio false successes calls
  let stage := (Json.lookup "stage" session.context).getD .null
  match ((Codec.optional .text).read stage).under "current_stage" with
  | .valid currentStage =>
    .ok ⟨session.id, session.goal, seconds now session.createdAt.reading, session.remarks.length, calls,
      rate, currentStage⟩
  | .invalid issues => .error ⟨"SessionSummary", issues⟩

end RepoSurvey.Session

namespace RepoSurvey.Session

open Clock (Moment)

/-- A request to the table. -/
inductive Request where
  | create (id goal repositoryPath : String)
  | updateContext (id : String) (updates : List (String × Json))
  | remark (id role content : String)
  | toolRecord (id toolName : String) (success : Bool) (summary : String)
  | close (id : String)
  deriving DecidableEq, Repr

/-- What is answered to each request: for most, whether the session was found. -/
def Answer : Request -> Type
  | .create _ _ _ => Except NoRoom Unit
  | .updateContext _ _ | .remark _ _ _ | .toolRecord _ _ _ _ | .close _ => Bool

namespace Table

/-- Answer a request. -/
def answer (now : Moment) : (request : Request) -> Table -> Answer request × Table
  | .create id goal repositoryPath, table => table.create id goal repositoryPath now
  | .updateContext id updates, table => table.updateContext id updates now
  | .remark id role content, table => table.change id now (addRemark ⟨role, content, .ofMoment now⟩)
  | .toolRecord id toolName success summary, table =>
    table.change id now (addToolRecord (toolRecord toolName success summary now))
  | .close id, table => table.close id

end Table

end RepoSurvey.Session

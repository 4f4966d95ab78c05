import RepoSurvey.Json.Compare
import RepoSurvey.Json.Dictionary
import RepoSurvey.Session.Table

/-!
# Entries from outside

Goals, remarks, tool records, notes about a context and the capacity of the table may come from outside
as values of any shape. They are checked when they are entered: a session of a strange goal is not
created, although the table was cleaned up for it, and a strange remark or tool record is not added,
although its session counts as used.

A time limit may be given by any number of seconds that spans fewer than a milliard days. It is kept to
the microsecond: a fraction of a second is scaled as a double, and a half of a microsecond goes to the
even one.
-/

namespace RepoSurvey.Session

open Schema
open Clock (Moment)
open Json (Amount ShapeFault)

/- Powers are the core library's, whichever other structures of the numbers are in scope. -/
attribute [local instance (2000)] instPowNat

/-- Why something was not entered. -/
inductive Rejection where
  | report (report : Report)
  | noRoom (problem : NoRoom)
  | shape (fault : ShapeFault)
  deriving DecidableEq, Repr

/-- More sessions than a table ever holds. -/
def unlimited : Int := 2 ^ (62 : Nat)

/-- The number of sessions at which a table of some capacity counts as full. -/
def roomOf : Amount -> Int
  | .exact value => value.ceil
  | .infinite true => 0
  | .infinite false | .undefined => unlimited

/-- The room that a capacity given by any value leaves. -/
def roomFor (capacity : Json) : Int := (capacity.amount?.map roomOf).getD 0

/-- The text of a value that is cut to a length; a list is cut and checked later. -/
def cutSummary (summary : Json) : Except ShapeFault Json :=
  match summary with
  | .str text => .ok (.str (String.ofList (text.toList.take summaryLimit)))
  | .arr items => .ok (.arr (items.take summaryLimit))
  | .obj _ => .error (.unhashable "slice")
  | other => .error (.notSliceable other.kindName)

namespace Table

/-- Read the members of a record. -/
def readMembers {α : Type} (recordName : String) (codec : Codec α)
    (members : List (String × Json)) : Except Report α :=
  (codec.read (.obj members)).toExcept recordName

/-- Create a session whose goal may have any shape, in a table of a capacity of any shape. -/
def enter (table : Table) (capacity : Json) (id : String) (goal : Json) (repositoryPath : String)
    (now : Moment) : Except Rejection Unit × Table :=
  match readMembers "SessionState" (codec now)
    [ ("session_id", .str id), ("repository_path", .str repositoryPath),
      ("analysis_goal", goal) ] with
  | .error report => (.error (.report report), (table.cleanup now).2)
  | .ok session =>
    match (Json.int 0).reaches capacity with
    | .error fault => (.error (.shape fault), (table.cleanup now).2)
    | .ok _ =>
      let (created, table) := table.create id session.goal session.repositoryPath now
      (created.mapError .noRoom, table)

/-- Look for a session and do something that may be rejected with it; nothing when it is not found. -/
def whenFound {α : Type} (table : Table) (id : String) (now : Moment)
    (act : Session -> Table -> Except Rejection α × Table) : Except Rejection (Option α) × Table :=
  match table.access id now with
  | (none, table) => (.ok none, table)
  | (some session, table) =>
    let (done, table) := act session table
    (done.map some, table)

/-- Change a session by something read. -/
def changeRead {α : Type} (id : String) (read : Except Rejection α) (update : α -> Session -> Session)
    (table : Table) : Except Rejection Unit × Table :=
  match read with
  | .error rejection => (.error rejection, table)
  | .ok value => (.ok (), table.modify id (update value))

/-- Add a remark whose parts may have any shape. -/
def enterRemark (table : Table) (id : String) (role content : Json) (now : Moment) :
    Except Rejection (Option Unit) × Table :=
  let read :=
    readMembers "SessionMessage" (Remark.codec now) [("role", role), ("content", content)]
  table.whenFound id now fun _ => changeRead id (read.mapError .report) addRemark

/-- Add a record of a tool call whose parts may have any shape. -/
def enterToolRecord (table : Table) (id : String) (toolName success summary : Json) (now : Moment) :
    Except Rejection (Option Unit) × Table :=
  let read : Except Rejection ToolRecord := do
    let summary <- (cutSummary summary).mapError .shape
    (readMembers "ToolResultRecord" (ToolRecord.codec now)
      [("tool_name", toolName), ("success", success), ("summary", summary)]).mapError .report
  table.whenFound id now fun _ => changeRead id read addToolRecord

/-- Note something about the context of a session: the members of an object or a list of pairs. Pairs
before one that does not fit are noted all the same. -/
def enterContext (table : Table) (id : String) (updates : Json) (now : Moment) :
    Except Rejection (Option Unit) × Table :=
  let (entries, fault) := Json.Dictionary.entriesOf updates
  table.whenFound id now fun _ table =>
    let table := table.modify id fun session =>
      { session with
        context := ((Json.Dictionary.ofMembers session.context).putAll entries).toMembers }
    match fault with
    | some fault => (.error (.shape fault), table)
    | none => (.ok (), table)

/-- The summary of a session, which counts as used; nothing when it is not found. -/
def summary (table : Table) (id : String) (now : Moment) :
    Except Rejection (Option Summary) × Table :=
  table.whenFound id now fun session table => ((session.summary now).mapError .report, table)

/-- The figures of a table, whose capacity has to be a whole number. -/
def statsFor (table : Table) (capacity : Json) (now : Moment) : Except Rejection Stats :=
  let stats := table.stats now
  match (Codec.integer.read capacity).under "max_sessions" with
  | .valid maxSessions => .ok { stats with maxSessions }
  | .invalid issues => .error (.report ⟨"SessionStats", issues⟩)

end Table

/-! ## Time limits -/

section Limits

open Number (Binary64)

/-- Why a value is no time limit. -/
inductive LimitFault where
  /-- It is no number, but of some other kind. -/
  | noNumber (kind : String)
  | undefined
  | infinite
  /-- It spans more days than are counted. -/
  | manyDays (days : Int)
  /-- It spans more days than can be told. -/
  | oversized
  deriving DecidableEq, Repr

/-- The wording of a fault. -/
def LimitFault.message : LimitFault -> String
  | .noNumber kind => "unsupported type for timedelta seconds component: " ++ kind
  | .undefined => "cannot convert float NaN to integer"
  | .infinite => "cannot convert float infinity to integer"
  | .manyDays days =>
    "days=" ++ Number.intText days ++ "; must have magnitude <= 999999999"
  | .oversized => "Python int too large to convert to C int"

/-- The microseconds of a number of seconds. -/
def limitMicroseconds (seconds : Rat) : Int :=
  let whole : Int := if seconds < 0 then -(-seconds).floor else seconds.floor
  let scaled := (Binary64.ofRat ((seconds - whole) * Moment.perSecond)).toRat
  let rounded : Int := Number.roundHalfEven scaled.num.natAbs scaled.den
  whole * Moment.perSecond + (if scaled < 0 then -rounded else rounded)

/-- A time limit in microseconds, unless it spans too many days. -/
def checkLimit (microseconds : Int) : Except LimitFault Int :=
  let days := microseconds / Moment.perDay
  if days < -(2 ^ (31 : Nat)) || 2 ^ (31 : Nat) ≤ days then .error .oversized
  else if 999999999 < days.natAbs then .error (.manyDays days)
  else .ok microseconds

/-- The time limit that a value stands for. -/
def limitOf : Json -> Except LimitFault Int
  | .bool value => .ok (if value then Moment.perSecond else 0)
  | .int seconds => checkLimit (seconds * Moment.perSecond)
  | .float .nan => .error .undefined
  | .float (.infinite _) => .error .infinite
  | .float value => checkLimit (limitMicroseconds value.toRat)
  | value => .error (.noNumber value.kindName)

/-- A limit of few days is kept as it is. -/
theorem checkLimit_few (microseconds : Int)
    (few : (microseconds / Moment.perDay).natAbs ≤ 999999999) :
    checkLimit microseconds = .ok microseconds := by
  unfold checkLimit
  generalize microseconds / Moment.perDay = days at few ⊢
  have fewer : ¬999999999 < days.natAbs := by omega
  simp [fewer]
  omega

end Limits

end RepoSurvey.Session

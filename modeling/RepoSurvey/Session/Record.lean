import RepoSurvey.Schema.Part

/-!
# Sessions

A session keeps the books of one run: its goal, notes about its context, what the stages said, and how
tool calls came out.
-/

namespace RepoSurvey

open Schema
open Clock (Moment Timestamp)
open Number (Binary64)

namespace Session

/-- Something said in a session. -/
structure Remark where
  role : String
  content : String
  timestamp : Timestamp
  deriving DecidableEq, Repr

/-- How a tool call came out. -/
structure ToolRecord where
  toolName : String
  success : Bool
  summary : String
  timestamp : Timestamp
  deriving DecidableEq, Repr

end Session

/-- A session. -/
structure Session where
  id : String
  repositoryPath : String
  goal : String
  createdAt : Timestamp
  updatedAt : Timestamp
  remarks : List Session.Remark
  context : List (String × Json)
  toolRecords : List Session.ToolRecord
  deriving DecidableEq, Repr

namespace Session

/-- A summary of a session. -/
structure Summary where
  sessionId : String
  goal : String
  durationSeconds : Binary64
  remarkCount : Int
  toolCallCount : Int
  toolSuccessRate : Binary64
  currentStage : Option String
  deriving DecidableEq, Repr

/-- Figures about all sessions. -/
structure Stats where
  activeSessions : Int
  maxSessions : Int
  oldestAgeSeconds : Option Binary64
  deriving DecidableEq, Repr

/-- How remarks are read and written. A remark without a time is made now. -/
def Remark.codec (now : Moment) : Codec Remark :=
  .record "SessionMessage" <|
    Remark.mk <$> .field "role" .text role none
      <*> .field "content" .text content none
      <*> .field "timestamp" .timestamp timestamp (some (.ofMoment now))

/-- How tool records are read and written. A record without a time is made now. -/
def ToolRecord.codec (now : Moment) : Codec ToolRecord :=
  .record "ToolResultRecord" <|
    ToolRecord.mk <$> .field "tool_name" .text toolName none
      <*> .field "success" .truth success none
      <*> .field "summary" .text summary (some "")
      <*> .field "timestamp" .timestamp timestamp (some (.ofMoment now))

/-- How sessions are read and written. -/
def codec (now : Moment) : Codec Session :=
  .record "SessionState" <|
    Session.mk <$> .field "session_id" .text id none
      <*> .field "repository_path" .text repositoryPath none
      <*> .field "analysis_goal" .text goal none
      <*> .field "created_at" .timestamp createdAt (some (.ofMoment now))
      <*> .field "updated_at" .timestamp updatedAt (some (.ofMoment now))
      <*> .field "conversation_history" (.list (Remark.codec now)) remarks (some [])
      <*> .field "current_context" .members context (some [])
      <*> .field "tool_results" (.list (ToolRecord.codec now)) toolRecords (some [])

/-- How summaries are read and written. -/
def Summary.codec : Codec Summary :=
  .record "SessionSummary" <|
    Summary.mk <$> .field "session_id" .text sessionId none
      <*> .field "analysis_goal" .text goal none
      <*> .field "duration_seconds" .number durationSeconds none
      <*> .field "message_count" .integer remarkCount none
      <*> .field "tool_call_count" .integer toolCallCount none
      <*> .field "tool_success_rate" .number toolSuccessRate none
      <*> .field "current_stage" (.optional .text) currentStage (some none)

/-- How figures are read and written. -/
def Stats.codec : Codec Stats :=
  .record "SessionStats" <|
    Stats.mk <$> .field "active_sessions" .integer activeSessions none
      <*> .field "max_sessions" .integer maxSessions none
      <*> .field "oldest_session_age_seconds" (.optional .number) oldestAgeSeconds (some none)

end Session

end RepoSurvey

import RepoSurvey.Json.Value
import RepoSurvey.Schema.Issue
import RepoSurvey.Text.Encoding

/-!
# Requests and responses

A request names a method and a target, which is a path and perhaps a query, and may bring a body. A
target may be a whole address, and its path may take detours. A response has a status and a content.
-/

namespace RepoSurvey.Service

/-- A request. The path is decoded; the body is as it was sent. -/
structure Request where
  method : String
  path : String
  query : List (String × String)
  body : Option String
  deriving DecidableEq, Repr

/-- What is wrong with a part of a request: where it stands and what kind of trouble it is. -/
structure Complaint where
  place : List String
  category : String
  deriving DecidableEq, Repr

/-- The content of a response. -/
inductive Content where
  | json (value : Json)
  | markdown (text : String)
  | complaints (complaints : List Complaint)
  | nothing
  deriving DecidableEq, Repr

/-- A response. -/
structure Response where
  status : Nat
  content : Content
  deriving DecidableEq, Repr

/-- The media type of a content; empty when there is none. -/
def Content.mediaType : Content -> String
  | .json _ | .complaints _ => "application/json"
  | .markdown _ => "text/markdown"
  | .nothing => ""

namespace Request

/-- The name and the value of a part of a query; plus signs stand for spaces. -/
def parameter (part : String) : String × String :=
  let spaced := part.toList.map fun c => if c = '+' then ' ' else c
  let decoded (chars : List Char) : String := String.ofList (Text.Percent.decode chars)
  (decoded (spaced.takeWhile (· != '=')), decoded ((spaced.dropWhile (· != '=')).drop 1))

/-- The names and values of a query. -/
def parameters (query : String) : List (String × String) :=
  ((query.splitOn "&").filter (· != "")).map parameter

/-- Drop the scheme and the authority in front of a path. -/
def dropAuthority (target : List Char) : List Char :=
  let scheme := target.takeWhile fun c => c.isAlphanum || c == '+' || c == '.' || c == '-'
  let marked := !scheme.isEmpty && "://".toList.isPrefixOf (target.drop scheme.length)
  let below := if marked then target.drop (scheme.length + 1) else target
  if "//".toList.isPrefixOf below then (below.drop 2).dropWhile (· != '/') else below

/-- Drop the segments of a path that say to stay or to go back. -/
def dropDots (segments : List String) : List String :=
  segments.foldl
    (fun kept segment =>
      if segment = "." then kept
      else if segment = ".." then if kept = [""] then kept else kept.dropLast
      else kept ++ [segment])
    []

/-- The path of a target, from the top and without detours. -/
def pathOf (target : List Char) : String :=
  let path := '/' :: (dropAuthority target).dropWhile (· == '/')
  String.intercalate "/" (dropDots ((String.ofList path).splitOn "/"))

/-- A request for a target. The name of the method may be in any case. -/
def ofTarget (method target : String) (body : Option String) : Request :=
  let target := target.toList.takeWhile (· != '#')
  let path := pathOf (target.takeWhile (· != '?'))
  ⟨method.toUpper, String.ofList (Text.Percent.decode path.toList),
    parameters (String.ofList ((target.dropWhile (· != '?')).drop 1)), body⟩

/-- The query as an object; of several values of one name the last one counts. -/
def queryObject (request : Request) : Json :=
  .obj (Json.mergeMembers (request.query.map fun (name, value) => (name, .str value)))

end Request

namespace Response

/-- A successful response. -/
def ok (value : Json) : Response := ⟨200, .json value⟩

/-- A response that only explains its status. -/
def explained (status : Nat) (detail : String) : Response :=
  ⟨status, .json (.obj [("detail", .str detail)])⟩

/-- A response to a request of the wrong shape. -/
def complaining (complaints : List Complaint) : Response := ⟨422, .complaints complaints⟩

end Response

/-- Issues found in a part of a request as complaints. -/
def Complaint.ofIssues (part : String) (issues : List Schema.Issue) : List Complaint :=
  issues.map fun issue => ⟨part :: issue.path, issue.misfit.category⟩

end RepoSurvey.Service

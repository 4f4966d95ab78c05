import RepoSurvey.Activity.Interleave
import RepoSurvey.Analysis.Conversation
import RepoSurvey.Analysis.Name

/-!
# Writing documents

Each task is written by one agent and carried into the second language by another; the two variants
are saved as drafts once both are there. Tasks are worked on side by side up to a number. Every task
settles: one that fails leaves no drafts and does not touch the others.
-/

namespace RepoSurvey.Analysis

open Activity (sideBySide)

/-- What became of a batch of tasks. -/
structure WriteReport where
  written : List WrittenDocument
  failed : List FailedDocument
  deriving DecidableEq, Repr

/-- How reports are read and written. -/
def WriteReport.codec : Schema.Codec WriteReport :=
  .record "WriteReport" <|
    WriteReport.mk <$> .field "written" (.list WrittenDocument.codec) written none
      <*> .field "failed" (.list FailedDocument.codec) failed none

/-- What a batch of documents is written for. -/
structure Batch where
  checkout : Files.Checkout
  projectKey : String
  overview : String

/-- What the writer of a document is asked. -/
def Batch.writerInquiry (batch : Batch) (task : DocumentTask) : Inquiry where
  stage := .writing
  promptName := "writer"
  values :=
    [ ("title", task.title), ("goal", task.goal), ("outline", task.outline),
      ("target_reader", task.targetReader), ("overview", batch.overview) ]
  session := none
  withTools := true
  withEnvironment := true

/-- What the translator of a document is asked. -/
def translatorInquiry (context : Context) (task : DocumentTask) (document : String) : Inquiry where
  stage := .writing
  promptName := "translator"
  values :=
    [ ("language", context.secondaryLanguage), ("title", task.title), ("document", document) ]
  session := none
  withTools := false
  withEnvironment := false

/-- The document member of a reply as text. -/
def documentText (reply : Json) : String := ((reply.get? "document").getD .null).display

/-- The title in the reply of a translator, or else the title of the task. -/
def translatedTitle (task : DocumentTask) (reply : Json) : String :=
  match (reply.get? "title").filter Json.isPresent with
  | some title => title.display
  | none => task.title

/-- Require the document in a reply. -/
def requireDocument (reply : Json) (label : String) : Attempt String :=
  match Reply.requireKeys reply ["document"] label with
  | .ok reply => pure (documentText reply)
  | .error failure => throw (.reply failure)

/-- The replies that make up a document: of its writer and of its translator. -/
structure Manuscript where
  written : Json
  translated : Json
  deriving DecidableEq, Repr

/-- The entry for a document. -/
def Manuscript.entry (context : Context) (task : DocumentTask) (docName : String)
    (manuscript : Manuscript) : WrittenDocument :=
  ⟨docName, task.title, translatedTitle task manuscript.translated, task.featureId,
    [context.primaryLanguage, context.secondaryLanguage]⟩

/-- Have a document written and translated. -/
def composeDocument (context : Context) (batch : Batch) (task : DocumentTask) :
    Attempt Manuscript := do
  let written <- askForJson context batch.checkout (batch.writerInquiry task)
  let document <- requireDocument written ("writer:" ++ task.title)
  let translated <- askForJson context batch.checkout (translatorInquiry context task document)
  let _ <- requireDocument translated ("translator:" ++ task.title)
  pure ⟨written, translated⟩

/-- Save a document in both languages. -/
def saveManuscript (context : Context) (batch : Batch) (docName : String) (manuscript : Manuscript) :
    Attempt Unit := do
  saveDocument batch.projectKey docName (documentText manuscript.written) context.primaryLanguage
  saveDocument batch.projectKey docName (documentText manuscript.translated)
    context.secondaryLanguage

/-- Write a document in both languages and save the two variants. -/
def writeDocument (context : Context) (batch : Batch) (task : DocumentTask) (docName : String) :
    Attempt WrittenDocument := do
  let manuscript <- composeDocument context batch task
  saveManuscript context batch docName manuscript
  pure (manuscript.entry context task docName)

/-- The report about a document that could not be written. -/
def writingFailure (task : DocumentTask) (problem : Problem) : String :=
  "Document '" ++ task.title ++ "' failed: " ++ problem.message

/-- Write a document; when that fails, discard its drafts and give the report. -/
def attemptDocument (context : Context) (batch : Batch) (task : DocumentTask) (docName : String) :
    Doing (Except String WrittenDocument) := do
  match <- (writeDocument context batch task docName).run with
  | .ok document => pure (.ok document)
  | .error problem =>
    let _ <- (discardDrafts batch.projectKey (some docName)).run
    pure (.error (writingFailure task problem))

/-- Tell that a task is settled. Trouble with that replaces what became of the task. -/
def settleDocument (tell : Nat -> Nat -> Attempt Unit) (total count : Nat)
    (outcome : Except String WrittenDocument) : Doing (Except String WrittenDocument) := do
  match <- (tell count total).run with
  | .ok () => pure outcome
  | .error problem => pure (.error problem.message)

/-- Sort the outcomes of tasks into written and failed documents. -/
def WriteReport.ofOutcomes : List (DocumentTask × Except String WrittenDocument) -> WriteReport
  | [] => ⟨[], []⟩
  | (task, outcome) :: rest =>
    let report := ofOutcomes rest
    match outcome with
    | .ok document => { report with written := document :: report.written }
    | .error error =>
      { report with failed := ⟨task.title, task.featureId, error⟩ :: report.failed }

/-- Write a batch of documents. `tell` is told how many tasks of how many are settled. -/
def writeAll (context : Context) (batch : Batch) (tell : Nat -> Nat -> Attempt Unit)
    (tasks : List DocumentTask) : Doing WriteReport := do
  let named := tasks.zip (assignNames (tasks.map (·.title)))
  let outcomes <- sideBySide context.concurrency choose (settleDocument tell tasks.length)
    (named.map fun (task, docName) => attemptDocument context batch task docName)
  pure (.ofOutcomes (tasks.zip outcomes))

/-- Save the sidebars of both languages. -/
def saveSidebars (context : Context) (projectKey : String) (documents : List WrittenDocument) :
    Attempt Unit :=
  if documents.isEmpty then throw (.stage .assembling "no documents to assemble")
  else do
    saveDocument projectKey sidebarName
      (sidebarText (documents.map fun document => ⟨document.title, document.docName⟩))
      context.primaryLanguage
    saveDocument projectKey sidebarName
      (sidebarText (documents.map fun document => ⟨document.translatedTitle, document.docName⟩))
      context.secondaryLanguage

end RepoSurvey.Analysis

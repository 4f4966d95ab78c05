import RepoSurvey.Proofs.Activity.Interleaving
import RepoSurvey.Proofs.Analysis.Conversations
import RepoSurvey.Proofs.Analysis.Drafting

/-!
# Batches of documents

Every task of a batch settles: `settles_of_writeAll` gives what became of each of them, in their order,
with the replies that its document was made of, whichever calls were refused. `Settles.filter_touching`
says that the drafts of a document are the work of its own task, in whatever order the tasks took turns.
It needs that the documents have different names: tasks that share one share its drafts.
-/

namespace RepoSurvey.Analysis

open Activity (Exchange Fares Merges Shuffle TasksGo Task Terms)
open Store (Variant putVariant)

/-! ## Terms -/

section Keeping

variable {conditions : Terms Call Answer} {context : Context} {batch : Batch}
  {tell : Nat -> Nat -> Attempt Unit} {total : Nat}

/-- The document of a reply is its text, or there is none. -/
theorem fares_requireDocument (reply : Json) (label : String) :
    Fares conditions (fun text => text = documentText reply) (fun _ => True)
      (requireDocument reply label) := by
  unfold requireDocument Reply.requireKeys
  dsimp only
  split
  · next found required =>
    split at required
    · exact Activity.fares_pure (congrArg documentText (Except.ok.inj required).symm)
    · nomatch required
  · exact Activity.fares_throw trivial

variable (hosts : ∀ withTools, Hosts context conditions withTools none)
  (drafts : ∀ call, call.Drafts batch.projectKey -> conditions.asks call)

include hosts in
/-- Documents are composed with calls to the outside only. -/
theorem fares_composeDocument (task : DocumentTask) : Fares conditions (fun _ => True)
    (fun _ => True) (composeDocument context batch task) := by
  have asked : ∀ inquiry : Inquiry, inquiry.session = none -> Fares conditions (fun _ => True) (fun _ => True)
      (askForJson context batch.checkout inquiry) := fun inquiry unrecorded =>
    Fares.abides (fares_askForJson (unrecorded ▸ hosts inquiry.withTools))
  refine (asked _ rfl).andThen fun written => ?_
  refine (fares_requireDocument _ _).bind fun document _ => ?_
  refine (asked _ rfl).andThen fun translated => ?_
  exact (fares_requireDocument _ _).bind fun _ _ => Activity.fares_pure trivial

include hosts drafts in
/-- A document is attempted with calls to the outside and to the drafts. -/
theorem keeps_attemptDocument (task : DocumentTask) (docName : String) :
    (attemptDocument context batch task docName).Keeps conditions fun _ => True := by
  have saved : ∀ content language, Fares conditions (fun _ => True) (fun _ => True)
      (saveDocument batch.projectKey docName content language) :=
    fun _ _ => abides_accepted ⟨drafts _ rfl, fun _ _ => trivial⟩
  have written : Fares conditions (fun _ => True) (fun _ => True)
      (writeDocument context batch task docName) :=
    (fares_composeDocument hosts task).andThen fun manuscript =>
      ((saved _ _).andThen fun _ => saved _ _).andThen fun _ => Activity.fares_pure trivial
  refine Activity.keeps_bind.mpr (Activity.Keeps.mono written fun outcome _ => ?_)
  cases outcome with
  | ok document => trivial
  | error problem =>
    have discarded : Fares conditions (fun _ => True) (fun _ => True)
      (discardDrafts batch.projectKey (some docName)) :=
        abides_accepted ⟨drafts _ rfl, fun _ _ => trivial⟩
    exact Activity.keeps_bind.mpr (Activity.Keeps.mono discarded fun _ _ => trivial)

include hosts drafts in
/-- A batch is written with calls to the outside and to the drafts, and with those that tell of it. -/
theorem keeps_writeAll {tasks : List DocumentTask}
    (tells : ∀ count ≤ tasks.length, Fares conditions (fun _ => True) (fun _ => True)
      (tell count tasks.length)) :
    (writeAll context batch tell tasks).Keeps conditions fun _ => True := by
  have orders : ∀ count, (choose count).Keeps conditions fun _ => True :=
    fun _ => ⟨(hosts true).calls _ trivial trivial nofun, fun _ _ => trivial⟩
  refine Activity.keeps_bind.mpr ((Activity.keeps_sideBySide orders ?_).mono
    fun values (_ : ∀ value ∈ values, True) => trivial)
  intro activity member
  obtain ⟨⟨task, docName⟩, -, rfl⟩ := List.mem_map.mp member
  refine (keeps_attemptDocument hosts drafts task docName).mono fun outcome _ number low => ?_
  have few : number ≤ tasks.length := by simpa using low
  refine Activity.keeps_bind.mpr (Activity.Keeps.mono (tells number few) fun told _ => ?_)
  cases told <;> trivial

end Keeping

/-- Calls to the outside are quiet. -/
theorem Call.IsOutside.quiet {call : Call} (outside : call.IsOutside) : call.IsQuiet := by
  cases call <;> trivial

/-! ## Settlements -/

/-- What became of a task: what came of attempting its document, with the replies it was made of, and what
came of telling that the task is settled. -/
structure Settlement where
  task : DocumentTask
  docName : String
  outcome : Except String Manuscript
  told : Except Problem Unit

namespace Settlement

variable {context : Context} {batch : Batch}

/-- What the task counts as. Trouble with telling that it is settled replaces what came of it. -/
def result (settlement : Settlement) : Except String Manuscript :=
  match settlement.told with
  | .ok () => settlement.outcome
  | .error problem => .error problem.message

/-- The entry for the document, if there is one. -/
def entry? (context : Context) (settlement : Settlement) : Option WrittenDocument :=
  settlement.result.toOption.map (Manuscript.entry context settlement.task settlement.docName)

/-- The failure of the task, if it failed. -/
def failure? (settlement : Settlement) : Option FailedDocument :=
  match settlement.result with
  | .ok _ => none
  | .error report => some ⟨settlement.task.title, settlement.task.featureId, report⟩

/-- What the task leaves of the drafts of its document: with the variants that the writer and the
translator made, or none at all. -/
def leaves (context : Context) (settlement : Settlement) (drafts : List Variant) : List Variant :=
  match settlement.outcome with
  | .ok manuscript =>
    putVariant ⟨settlement.docName, context.secondaryLanguage, documentText manuscript.translated⟩
      (putVariant ⟨settlement.docName, context.primaryLanguage, documentText manuscript.written⟩ drafts)
  | .error _ => []

end Settlement

/-- The exchanges by which a manuscript is saved. -/
def manuscriptSaved (context : Context) (project docName : String) (manuscript : Manuscript) :
    List (Exchange Call Answer) :=
  [ ⟨.saveDocument project docName (documentText manuscript.written) context.primaryLanguage, .ok ()⟩,
    ⟨.saveDocument project docName (documentText manuscript.translated) context.secondaryLanguage,
      .ok ()⟩ ]

/-- Whether a call saves a draft of a document. -/
def Call.SavesDraft (project docName : String) (call : Call) : Prop :=
  ∃ content language, call = .saveDocument project docName content language

/-- How a document is attempted: it is composed and saved, or its drafts are discarded, whatever was saved
of it. -/
inductive Attempted (context : Context) (batch : Batch) (task : DocumentTask) (docName : String) :
    List (Exchange Call Answer) -> Except String Manuscript -> Prop where
  | saved {composing : List (Exchange Call Answer)} {manuscript : Manuscript}
      (composed : (composeDocument context batch task).run.Goes composing (.ok manuscript)) :
      Attempted context batch task docName
        (composing ++ manuscriptSaved context batch.projectKey docName manuscript) (.ok manuscript)
  | discarded {composing saving : List (Exchange Call Answer)} {report : String}
      (answer : Except Obstacle Nat) (quiet : ∀ exchange ∈ composing, exchange.request.IsQuiet)
      (saves : ∀ exchange ∈ saving, exchange.request.SavesDraft batch.projectKey docName) :
      Attempted context batch task docName
        (composing ++ saving ++ [⟨.discardDrafts batch.projectKey (some docName), answer⟩])
        (.error report)

/-- Whether a way accounts for a settlement: the document was attempted on it, and then it was told, with
some number, that the task is settled. -/
def Settlement.Accounts (context : Context) (batch : Batch) (tell : Nat -> Nat -> Attempt Unit)
    (total : Nat) (way : List (Exchange Call Answer)) (settlement : Settlement) : Prop :=
  ∃ attempting telling number, way = attempting ++ telling ∧ number ≤ total ∧
    Attempted context batch settlement.task settlement.docName attempting settlement.outcome ∧
    (tell number total).run.Goes telling settlement.told

section Ways

variable {context : Context} {batch : Batch} {task : DocumentTask} {docName : String}
  {way : List (Exchange Call Answer)}

/-- A draft is saved by a single call. -/
theorem goes_saveDocument {project name content language : String} {outcome : Except Problem Unit}
    (goes : (saveDocument project name content language).run.Goes way outcome) :
    ∃ answer, way = [⟨.saveDocument project name content language, answer⟩] ∧
      (outcome = .ok () -> answer = .ok ()) := by
  obtain ⟨answer, asked, rfl⟩ := goes_accepted.mp goes
  exact ⟨answer, Activity.goes_ask.mp asked, mapError_eq_ok.mp⟩

/-- A manuscript is saved by two calls, of which the second is not made when the first is refused. -/
theorem goes_saveManuscript {manuscript : Manuscript} {outcome : Except Problem Unit}
    (goes : (saveManuscript context batch docName manuscript).run.Goes way outcome) :
    (∀ exchange ∈ way, exchange.request.SavesDraft batch.projectKey docName) ∧
      (outcome = .ok () -> way = manuscriptSaved context batch.projectKey docName manuscript) := by
  unfold saveManuscript at goes
  cases outcome with
  | ok done =>
    obtain ⟨_, _, _, rfl, first, second⟩ := Activity.goes_then_ok.mp goes
    obtain ⟨_, rfl, firstOk⟩ := goes_saveDocument first
    obtain ⟨_, rfl, secondOk⟩ := goes_saveDocument second
    rw [firstOk rfl, secondOk rfl]
    refine ⟨fun exchange member => ?_, fun _ => rfl⟩
    rcases List.mem_cons.mp member with rfl | member
    · exact ⟨_, _, rfl⟩
    · obtain rfl := List.mem_singleton.mp member
      exact ⟨_, _, rfl⟩
  | error problem =>
    refine ⟨fun exchange member => ?_, fun same => (nomatch same)⟩
    rcases Activity.goes_then_error.mp goes with first | ⟨_, _, _, rfl, first, second⟩
    · obtain ⟨_, rfl, -⟩ := goes_saveDocument first
      obtain rfl := List.mem_singleton.mp member
      exact ⟨_, _, rfl⟩
    · obtain ⟨_, rfl, -⟩ := goes_saveDocument first
      obtain ⟨_, rfl, -⟩ := goes_saveDocument second
      rcases List.mem_cons.mp member with rfl | member
      · exact ⟨_, _, rfl⟩
      · obtain rfl := List.mem_singleton.mp member
        exact ⟨_, _, rfl⟩

/-- Drafts are discarded by a single call. -/
theorem goes_discardDrafts {project : String} {name : Option String} {outcome : Except Problem Nat}
    (goes : (discardDrafts project name).run.Goes way outcome) :
    ∃ answer, way = [⟨.discardDrafts project name, answer⟩] ∧
      ∀ count, outcome = .ok count ↔ answer = .ok count := by
  obtain ⟨answer, asked, rfl⟩ := goes_accepted.mp goes
  exact ⟨answer, Activity.goes_ask.mp asked, fun _ => mapError_eq_ok⟩

/-- Composing a document is quiet. -/
theorem quiet_composeDocument {outcome : Except Problem Manuscript}
    (goes : (composeDocument context batch task).run.Goes way outcome) :
    ∀ exchange ∈ way, exchange.request.IsQuiet :=
  have composes : Fares (Activity.asking Answer Call.IsQuiet) (fun _ => True) (fun _ => True)
      (composeDocument context batch task) := 
      fares_composeDocument (hosts_of_outside fun _ => Call.IsOutside.quiet) task
  composes.confined goes

/-- A document is attempted in one of the two manners, whichever calls are refused. -/
theorem attempted_of_goes {result : Except String WrittenDocument}
    (goes : (attemptDocument context batch task docName).Goes way result) :
    ∃ outcome : Except String Manuscript,
      result = outcome.map (Manuscript.entry context task docName) ∧
        Attempted context batch task docName way outcome := by
  obtain ⟨first, second, written, rfl, wrote, onward⟩ := Activity.goes_bind.mp goes
  cases written with
  | ok document =>
    obtain ⟨rfl, rfl⟩ := Activity.goes_done.mp onward
    obtain ⟨composing, _, manuscript, rfl, composed, onward⟩ := Activity.goes_then_ok.mp wrote
    obtain ⟨_, saved, rfl⟩ := (Activity.goes_then_value_ok fun _ => rfl).mp onward
    obtain rfl := (goes_saveManuscript saved).2 rfl
    refine ⟨.ok manuscript, rfl, ?_⟩
    rw [List.append_nil]
    exact .saved composed
  | error problem =>
    obtain ⟨discarded, discard, rfl⟩ := (Activity.goes_bind_done fun _ => rfl).mp onward
    obtain ⟨answer, rfl, -⟩ := goes_discardDrafts discard
    refine ⟨.error (writingFailure task problem), rfl, ?_⟩
    rcases Activity.goes_then_error.mp wrote with failed |
      ⟨composing, _, manuscript, rfl, composed, failed⟩
    · have attempted : Attempted context batch task docName (first ++ [] ++ _)
          (.error (writingFailure task problem)) :=
        .discarded answer (quiet_composeDocument failed) fun _ member => (nomatch member)
      simpa using attempted
    · have unsaved := (Activity.goes_then_value_error fun _ => rfl).mp failed
      have attempted : Attempted context batch task docName _ (.error (writingFailure task problem)) :=
        .discarded answer (quiet_composeDocument composed) (goes_saveManuscript unsaved).1
      simpa using attempted

/-- What becomes of a task that settles is accounted for by its way. -/
theorem accounts_of_task {tell : Nat -> Nat -> Attempt Unit} {total : Nat}
    {result : Except String WrittenDocument}
    (goes : Task.Goes (settleDocument tell total) total
      (.working (attemptDocument context batch task docName)) way result) :
    ∃ settlement : Settlement, settlement.task = task ∧ settlement.docName = docName ∧
      result = settlement.result.map (Manuscript.entry context task docName) ∧
        settlement.Accounts context batch tell total way := by
  obtain ⟨first, second, attempt, number, low, rfl, goes, settles⟩ := goes
  obtain ⟨outcome, rfl, attempted⟩ := attempted_of_goes goes
  let settled := fun told =>
    (Settlement.result ⟨task, docName, outcome, told⟩).map (Manuscript.entry context task docName)
  obtain ⟨told, tells, rfl⟩ := (@Activity.goes_bind_done _ _ _ _ _ _ settled _ _ fun told => by
    cases told <;> rfl).mp settles
  exact ⟨⟨task, docName, outcome, told⟩, rfl, rfl, rfl, first, second, number, rfl, low, attempted, tells⟩

/-- Every task settles, and its way accounts for what became of it. -/
theorem settlements_of_go {tell : Nat -> Nat -> Attempt Unit} {total : Nat}
    {named : List (DocumentTask × String)} {ways : List (List (Exchange Call Answer))}
    {results : List (Except String WrittenDocument)}
    (go : TasksGo (settleDocument tell total) total
      (named.map fun pair => .working (attemptDocument context batch pair.1 pair.2)) ways results) :
    ∃ settlements : List Settlement,
      settlements.map (fun settlement => (settlement.task, settlement.docName)) = named ∧
      results = settlements.map (fun settlement =>
        settlement.result.map (Manuscript.entry context settlement.task settlement.docName)) ∧
      List.Forall₂ (fun way settlement => settlement.Accounts context batch tell total way) ways
        settlements := by
  induction named generalizing ways results with
  | nil =>
    cases go
    exact ⟨[], rfl, rfl, .nil⟩
  | cons pair named inductionHypothesis =>
    cases go with
    | cons goes rest =>
      obtain ⟨settlement, sameTask, sameName, rfl, accounts⟩ := accounts_of_task goes
      obtain ⟨settlements, rfl, rfl, accountsRest⟩ := inductionHypothesis rest
      refine ⟨settlement :: settlements, ?_, ?_, .cons accounts accountsRest⟩
      · rw [List.map_cons, sameTask, sameName]
      · rw [List.map_cons, sameTask, sameName]

end Ways

/-! ## Reports -/

/-- The report about tasks lists the entries and the failures in the order of the tasks. -/
theorem ofOutcomes_settlements (context : Context) (settlements : List Settlement) :
    WriteReport.ofOutcomes ((settlements.map (·.task)).zip (settlements.map fun settlement =>
      settlement.result.map (Manuscript.entry context settlement.task settlement.docName))) =
        ⟨settlements.filterMap (Settlement.entry? context),
          settlements.filterMap Settlement.failure?⟩ := by
  induction settlements with
  | nil => rfl
  | cons settlement settlements inductionHypothesis =>
    rw [List.map_cons, List.map_cons, List.zip_cons_cons]
    unfold WriteReport.ofOutcomes
    rw [inductionHypothesis, List.filterMap_cons, List.filterMap_cons]
    unfold Settlement.entry? Settlement.failure?
    cases settlement.result <;> rfl

/-- Whether a way settles tasks side by side: it is a shuffle of ways that account for the settlements, and
beside that quiet. -/
def Settles (context : Context) (batch : Batch) (tell : Nat -> Nat -> Attempt Unit) (total : Nat)
    (way : List (Exchange Call Answer)) (settlements : List Settlement) : Prop :=
  ∃ choices merged ways, List.Forall₂
      (fun way settlement => settlement.Accounts context batch tell total way) ways settlements ∧
    Merges ways merged ∧ Shuffle choices merged way ∧
    ∀ exchange ∈ choices, exchange.request.IsQuiet

section Settling

variable {context : Context} {batch : Batch} {tell : Nat -> Nat -> Attempt Unit} {total : Nat}
  {way : List (Exchange Call Answer)} {settlement : Settlement} {settlements : List Settlement}

/-- Every settlement has a way of its own that accounts for it. -/
theorem Settles.accounts (settles : Settles context batch tell total way settlements)
    (member : settlement ∈ settlements) :
    ∃ own, own.Sublist way ∧ settlement.Accounts context batch tell total own := by
  obtain ⟨choices, merged, ways, accounts, merges, shuffle, -⟩ := settles
  obtain ⟨own, isOwn, accounts⟩ : ∃ own ∈ ways, settlement.Accounts context batch tell total own := by
    clear merges shuffle
    induction accounts with
    | nil => nomatch member
    | cons accounts _ inductionHypothesis =>
      rcases List.mem_cons.mp member with rfl | member
      · exact ⟨_, .head _, accounts⟩
      · obtain ⟨own, isOwn, accounts⟩ := inductionHypothesis member
        exact ⟨own, .tail _ isOwn, accounts⟩
  exact ⟨own, (merges.sublist isOwn).trans shuffle.sublist_right, accounts⟩

/-- A document of a batch was composed on a part of its way. -/
theorem Settles.composed {manuscript : Manuscript}
    (settles : Settles context batch tell total way settlements) (member : settlement ∈ settlements)
    (isResult : settlement.result = .ok manuscript) : ∃ part, part.Sublist way ∧
      (composeDocument context batch settlement.task).run.Goes part (.ok manuscript) := by
  obtain ⟨own, isPart, attempting, telling, number, rfl, -, attempted, -⟩ := settles.accounts member
  have isOutcome : settlement.outcome = .ok manuscript := by
    unfold Settlement.result at isResult
    split at isResult
    · exact isResult
    · nomatch isResult
  rw [isOutcome] at attempted
  cases attempted with
  | @saved composing _ composed =>
    refine ⟨composing, .trans ?_ isPart, composed⟩
    rw [List.append_assoc]
    exact List.sublist_append_left _ _

/-- A batch goes the ways of its tasks, which settle under the names that they are assigned, and reports on their
results. -/
theorem goes_writeAll {tasks : List DocumentTask} {report : WriteReport}
    (goes : (writeAll context batch tell tasks).Goes way report) :
    ∃ (settlements : List Settlement) (choices merged : List (Exchange Call Answer))
        (ways : List (List (Exchange Call Answer))) (results : List (Except String WrittenDocument)),
      settlements.map (·.task) = tasks ∧
      settlements.map (·.docName) = assignNames (tasks.map (·.title)) ∧
      results = settlements.map (fun settlement =>
        settlement.result.map (Manuscript.entry context settlement.task settlement.docName)) ∧
      report = .ofOutcomes (tasks.zip results) ∧
      TasksGo (settleDocument tell tasks.length) tasks.length
        (((tasks.zip (assignNames (tasks.map (·.title)))).map fun pair =>
          attemptDocument context batch pair.1 pair.2).map .working) ways results ∧
      List.Forall₂ (fun way settlement => settlement.Accounts context batch tell tasks.length way) ways
        settlements ∧
      Merges ways merged ∧ Shuffle choices merged way ∧ ∀ exchange ∈ choices, exchange.request.IsQuiet := by
  obtain ⟨results, worked, rfl⟩ := (Activity.goes_bind_done fun _ => rfl).mp goes
  have orders : ∀ count, (choose count).Keeps (Activity.asking Answer Call.IsQuiet)
    fun _ => True := fun _ => ⟨trivial, fun _ _ => trivial⟩
  obtain ⟨choices, merged, ways, go, merges, shuffle, quiet⟩ :=
    Activity.goes_sideBySide orders worked
  rw [List.length_map, List.length_zip, length_assignNames, List.length_map, Nat.min_self] at go
  have goNamed := go
  rw [List.map_map] at goNamed
  obtain ⟨settlements, named, sameResults, accounts⟩ := settlements_of_go goNamed
  have sameTasks : settlements.map (·.task) = tasks := by
    have firsts := congrArg (List.map Prod.fst) named
    rwa [List.map_map, List.map_fst_zip (by simp)] at firsts
  have sameNames : settlements.map (·.docName) = assignNames (tasks.map (·.title)) := by
    have seconds := congrArg (List.map Prod.snd) named
    rwa [List.map_map, List.map_snd_zip (by simp)] at seconds
  exact ⟨settlements, choices, merged, ways, results, sameTasks, sameNames, sameResults, rfl, go, accounts, merges,
    shuffle, quiet⟩

/-- A batch settles each of its tasks and reports on them in their order. -/
theorem settles_of_writeAll {tasks : List DocumentTask} {report : WriteReport}
    (goes : (writeAll context batch tell tasks).Goes way report) :
    ∃ settlements, settlements.map (·.task) = tasks ∧
      settlements.map (·.docName) = assignNames (tasks.map (·.title)) ∧
      report = ⟨settlements.filterMap (Settlement.entry? context),
        settlements.filterMap Settlement.failure?⟩ ∧
      Settles context batch tell tasks.length way settlements := by
  obtain ⟨settlements, choices, merged, ways, results, sameTasks, sameNames, rfl, rfl, -, accounts, merges, shuffle,
    quiet⟩ := goes_writeAll goes
  refine ⟨settlements, sameTasks, sameNames, ?_, choices, merged, ways, accounts, merges, shuffle,
    quiet⟩
  rw [← sameTasks]
  exact ofOutcomes_settlements context settlements

/-- Every settlement has an entry or a failure. -/
theorem length_settlements (context : Context) (settlements : List Settlement) :
    (settlements.filterMap (Settlement.entry? context)).length +
      (settlements.filterMap Settlement.failure?).length = settlements.length := by
  induction settlements with
  | nil => rfl
  | cons settlement settlements inductionHypothesis =>
    rw [List.filterMap_cons, List.filterMap_cons, List.length_cons, ← inductionHypothesis]
    unfold Settlement.entry? Settlement.failure?
    cases settlement.result with
    | ok manuscript => exact Nat.add_right_comm _ 1 _
    | error report => rfl

/-- A batch reports on as many documents as it has tasks. -/
theorem length_of_writeAll {tasks : List DocumentTask} {report : WriteReport}
    (goes : (writeAll context batch tell tasks).Goes way report) :
    report.written.length + report.failed.length = tasks.length := by
  obtain ⟨settlements, rfl, -, rfl, -⟩ := settles_of_writeAll goes
  rw [List.length_map]
  exact length_settlements context settlements

end Settling

/-! ## Drafts -/

section Drafts

variable {context : Context} {batch : Batch} {tell : Nat -> Nat -> Attempt Unit} {total : Nat}
  {way : List (Exchange Call Answer)} {name : String} {settlement : Settlement}
  {settlements : List Settlement}

/-- A call that saves a draft of a document touches no other. -/
theorem Call.SavesDraft.touches_other {project docName : String} {call : Call}
    (saves : call.SavesDraft project docName) (different : docName ≠ name) :
    call.touches name = false := by
  obtain ⟨content, language, rfl⟩ := saves
  simp [Call.touches, different]

/-- An attempted document touches no other. -/
theorem Attempted.touches_other {task : DocumentTask} {docName : String}
    {outcome : Except String Manuscript} (attempted : Attempted context batch task docName way outcome)
    (different : docName ≠ name) : way.filter (touching name) = [] := by
  rw [List.filter_eq_nil_iff]
  intro exchange member
  have leaves : exchange.request.touches name = false := by
    cases attempted with
    | saved composed =>
      rcases List.mem_append.mp member with member | member
      · exact (quiet_composeDocument composed exchange member).touches name
      · rcases List.mem_cons.mp member with rfl | member
        · simp [Call.touches, different]
        · obtain rfl := List.mem_singleton.mp member
          simp [Call.touches, different]
    | discarded answer quiet saves =>
      rcases List.mem_append.mp member with member | member
      · rcases List.mem_append.mp member with member | member
        · exact (quiet exchange member).touches name
        · exact (saves exchange member).touches_other different
      · obtain rfl := List.mem_singleton.mp member
        simp [Call.touches, different]
  simp [touching, leaves]

/-- A document that is saved has both variants among its drafts. -/
theorem Attempted.filter_drafted_saved {task : DocumentTask} {docName : String}
    {manuscript : Manuscript} (attempted : Attempted context batch task docName way (.ok manuscript))
    (drafts : List Variant) : (drafted way drafts).filter (Variant.isOf docName) =
      putVariant ⟨docName, context.secondaryLanguage, documentText manuscript.translated⟩
        (putVariant ⟨docName, context.primaryLanguage, documentText manuscript.written⟩
          (drafts.filter (Variant.isOf docName))) := by
  cases attempted with
  | saved composed =>
    rw [drafted_append, drafted_of_quiet (quiet_composeDocument composed)]
    have first := Store.filter_putVariant_self
      ⟨docName, context.primaryLanguage, documentText manuscript.written⟩ drafts
    have second := Store.filter_putVariant_self
      ⟨docName, context.secondaryLanguage, documentText manuscript.translated⟩
      (putVariant ⟨docName, context.primaryLanguage, documentText manuscript.written⟩ drafts)
    exact second.trans (congrArg _ first)

/-- A document that is not saved has no drafts when they were discarded. -/
theorem Attempted.filter_drafted_discarded {task : DocumentTask} {docName report : String}
    (attempted : Attempted context batch task docName way (.error report)) (stored : AllStored way)
    (drafts : List Variant) : (drafted way drafts).filter (Variant.isOf docName) = [] := by
  cases attempted with
  | discarded answer quiet saves =>
    have isStored := stored ⟨.discardDrafts batch.projectKey (some docName), answer⟩ (by simp)
    rw [drafted_append, List.filter_eq_nil_iff, drafted_cons, drafting,
      if_pos (isStored.resolve_left id)]
    intro variant member
    exact (Bool.not_eq_true' _).mp (List.mem_filter.mp member).2 ▸ Bool.false_ne_true

variable (quiet : ∀ count ≤ total, Fares (Activity.asking Answer Call.IsQuiet) (fun _ => True)
  (fun _ => True) (tell count total))

include quiet

/-- A way that accounts for a settlement touches no other document. -/
theorem Settlement.Accounts.touches_other
    (accounts : settlement.Accounts context batch tell total way)
    (different : settlement.docName ≠ name) : way.filter (touching name) = [] := by
  obtain ⟨attempting, telling, number, rfl, low, attempted, tells⟩ := accounts
  rw [List.filter_append, attempted.touches_other different,
    filter_touching_of_quiet ((quiet number low).confined tells), List.append_nil]

/-- What a way that accounts for a settlement leaves of the drafts of its document. -/
theorem Settlement.Accounts.filter_drafted
    (accounts : settlement.Accounts context batch tell total way)
    (stored : AllStored way ∨ ∃ manuscript, settlement.outcome = .ok manuscript)
    (drafts : List Variant) : (drafted way drafts).filter (Variant.isOf settlement.docName) =
      settlement.leaves context (drafts.filter (Variant.isOf settlement.docName)) := by
  obtain ⟨attempting, telling, number, rfl, low, attempted, tells⟩ := accounts
  rw [drafted_append, drafted_of_quiet ((quiet number low).confined tells)]
  unfold Settlement.leaves
  cases outcome : settlement.outcome with
  | ok manuscript => exact (outcome ▸ attempted).filter_drafted_saved drafts
  | error report =>
    rcases stored with stored | ⟨manuscript, saved⟩
    · exact (outcome ▸ attempted).filter_drafted_discarded
        (fun exchange member => stored exchange (List.mem_append_left _ member)) drafts
    · nomatch outcome.symm.trans saved

/-- Ways that account for settlements of other documents do not touch a document. -/
theorem touch_others {ways : List (List (Exchange Call Answer))}
    (accounts : List.Forall₂ (fun way settlement =>
      settlement.Accounts context batch tell total way) ways settlements)
    (others : name ∉ settlements.map (·.docName)) :
    ∀ part ∈ ways, part.filter (touching name) = [] := by
  induction accounts with
  | nil => exact fun _ member => (nomatch member)
  | cons accounts _ inductionHypothesis =>
    rw [List.map_cons, List.mem_cons, not_or] at others
    intro part member
    rcases List.mem_cons.mp member with rfl | member
    · exact accounts.touches_other quiet (Ne.symm others.1)
    · exact inductionHypothesis others.2 part member

/-- A document that is not among those of a batch is not touched. -/
theorem Settles.filter_touching_other (settles : Settles context batch tell total way settlements)
    (others : name ∉ settlements.map (·.docName)) : way.filter (touching name) = [] := by
  obtain ⟨choices, merged, ways, accounts, merges, shuffle, quietChoices⟩ := settles
  have shuffled := shuffle.filter (touching name)
  rw [filter_touching_of_quiet quietChoices,
    merges.filter_eq_nil (touch_others quiet accounts others)] at shuffled
  exact shuffled.eq_of_nil_left

/-- In whatever order the tasks took turns, what touches a document is the way of its own task. -/
theorem Settles.filter_touching (settles : Settles context batch tell total way settlements)
    (distinct : (settlements.map (·.docName)).Nodup) (member : settlement ∈ settlements) :
    ∃ own, own.Sublist way ∧ settlement.Accounts context batch tell total own ∧
      way.filter (touching settlement.docName) = own.filter (touching settlement.docName) := by
  obtain ⟨choices, merged, ways, accounts, merges, shuffle, quietChoices⟩ := settles
  have shuffled := shuffle.filter (touching settlement.docName)
  rw [filter_touching_of_quiet quietChoices] at shuffled
  rw [shuffled.eq_of_nil_left]
  obtain ⟨own, isPart, isOwn, same⟩ : ∃ own, own.Sublist merged ∧
      settlement.Accounts context batch tell total own ∧
      merged.filter (touching settlement.docName) = own.filter (touching settlement.docName) := by
    clear shuffle shuffled
    induction accounts generalizing merged with
    | nil => nomatch member
    | @cons part first parts settlements accounts accountsRest inductionHypothesis =>
      cases merges with
      | @cons _ _ rest _ merges shuffle =>
        rw [List.map_cons, List.nodup_cons] at distinct
        have shuffled := shuffle.filter (touching settlement.docName)
        rcases List.mem_cons.mp member with rfl | member
        · rw [merges.filter_eq_nil (touch_others quiet accountsRest distinct.1)] at shuffled
          exact ⟨part, shuffle.sublist_left, accounts, shuffled.eq_of_nil_right⟩
        · have different : first.docName ≠ settlement.docName := fun same =>
            distinct.1 (same ▸ List.mem_map_of_mem member)
          rw [accounts.touches_other quiet different] at shuffled
          rw [shuffled.eq_of_nil_left]
          obtain ⟨own, isPart, isOwn, same⟩ := inductionHypothesis distinct.2 member rest merges
          exact ⟨own, isPart.trans shuffle.sublist_right, isOwn, same⟩
  exact ⟨own, isPart.trans shuffle.sublist_right, isOwn, same⟩

/-- In whatever order the tasks took turns, what a batch leaves of the drafts of a document. -/
theorem Settles.filter_drafted (settles : Settles context batch tell total way settlements)
    (distinct : (settlements.map (·.docName)).Nodup) (member : settlement ∈ settlements)
    (stored : AllStored way ∨ ∃ manuscript, settlement.outcome = .ok manuscript)
    (drafts : List Variant) : (drafted way drafts).filter (Variant.isOf settlement.docName) =
      settlement.leaves context (drafts.filter (Variant.isOf settlement.docName)) := by
  obtain ⟨own, isPart, accounts, same⟩ := settles.filter_touching quiet distinct member
  rw [Analysis.filter_drafted, same, ← Analysis.filter_drafted]
  refine accounts.filter_drafted quiet (stored.imp_left fun stored exchange isOwn => ?_) drafts
  exact stored exchange (isPart.subset isOwn)

/-- A batch leaves other documents alone. -/
theorem Settles.filter_drafted_other (settles : Settles context batch tell total way settlements)
    (others : name ∉ settlements.map (·.docName)) (drafts : List Variant) :
    (drafted way drafts).filter (Variant.isOf name) = drafts.filter (Variant.isOf name) := by
  rw [Analysis.filter_drafted, settles.filter_touching_other quiet others]
  rfl

end Drafts

end RepoSurvey.Analysis

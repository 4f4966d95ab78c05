import RepoSurvey.Proofs.Activity.Parallels
import RepoSurvey.Proofs.Agent.Keys
import RepoSurvey.Proofs.Analysis.Recitals

/-!
# Orders of writing

What agents reply may depend on what they are asked and on nothing else. Then a task of a batch comes to the same
outcome and leaves the same drafts of its document, whichever keys its agents draw and whatever happens beside it:
`parallel_attemptDocument` follows two courses of one task, call by call. Tasks whose documents have different
names do not touch each other's drafts, so that a batch comes to the same report and the same drafts for every
number of writers and in every order in which they take turns.
-/

namespace RepoSurvey.Analysis

open Activity (AlikeUpTo Exchange Parallel TasksGo alike_refl eq_of_alike parallel_call parallel_done)
open Store (Variant)

/-- Whether what a batch asks for is always answered alike: agents reply alike to the same conversation, whichever
key comes with it, and the day, what is saved and what is discarded do not change from one time to another. How
many drafts were discarded is left open, and so is all that is told of keys, times of day and turns. -/
structure Steady (told : (call : Call) -> Answer call -> Prop) : Prop where
  agents : Agent.Steady fun call answer => told (.agent call) answer
  days : ∀ moment other : Clock.Moment, told .now moment -> told .now other -> moment.date = other.date
  saves : ∀ project name content language answer reply, told (.saveDocument project name content language) answer ->
    told (.saveDocument project name content language) reply -> answer = reply
  discards : ∀ project name answer reply, told (.discardDrafts project name) answer ->
    told (.discardDrafts project name) reply ->
      (Call.discardDrafts project name).carried answer = (Call.discardDrafts project name).carried reply

/-- The call of an exchange, if it changes what drafts there are of a document. -/
def change? (name : String) (exchange : Exchange Call Answer) : Option Call :=
  if touching name exchange then some exchange.request else none

/-- Whether two attempts change the drafts of a document in the same way and end alike. -/
abbrev Matches {α : Type} (told : (call : Call) -> Answer call -> Prop) (name : String)
    (first second : Attempt α) : Prop :=
  Parallel told (change? name) (AlikeUpTo (· = ·)) first.run second.run

variable {told : (call : Call) -> Answer call -> Prop} {name : String} {context : Context} {batch : Batch}
  {task : DocumentTask}

/-- Quiet calls change no drafts. -/
theorem change?_of_quiet (request : Call) (quiet : request.IsQuiet) (answer : Answer request) :
    change? name ⟨request, answer⟩ = none := by
  simp [change?, touching, quiet.touches name]

/-- What the changes of a way do to drafts. -/
theorem drafted_filter (way : List (Exchange Call Answer)) (name : String) (drafts : List Variant) :
    drafted (way.filter (touching name)) drafts =
      (way.filterMap (change? name)).foldl (fun drafts call => call.drafting drafts) drafts := by
  induction way generalizing drafts with
  | nil => rfl
  | cons exchange way inductionHypothesis =>
    by_cases touches : touching name exchange = true
    · have carried : exchange.request.carried exchange.answer = true := ((Bool.and_eq_true _ _).mp touches).1
      have changes : change? name exchange = some exchange.request := if_pos touches
      rw [List.filter_cons_of_pos touches, List.filterMap_cons_some changes, drafted_cons, drafting,
        if_pos carried, inductionHypothesis, List.foldl_cons]
    · have leaves : change? name exchange = none := if_neg touches
      rw [List.filter_cons_of_neg touches, List.filterMap_cons_none leaves, inductionHypothesis]

/-! ## Conversations -/

section Conversations

variable {α β : Type}

/-- An attempt that is over matches itself. -/
theorem matches_done (outcome : Except Problem α) :
    Matches told name (ExceptT.mk (.done outcome)) (ExceptT.mk (.done outcome)) :=
  parallel_done (alike_refl outcome)

/-- Attempts match in sequence when both of their parts do. -/
theorem Matches.andThen {first second : Attempt α} {next onward : α -> Attempt β}
    (start : Matches told name first second) (finish : ∀ value, Matches told name (next value) (onward value)) :
    Matches told name (first >>= next) (second >>= onward) :=
  Parallel.andThen start fun value _ same => same ▸ finish value

/-- Attempts match that draw keys of their own first. -/
theorem matches_drawKey {next onward : String -> Attempt α}
    (finish : ∀ key other, Matches told name (next key) (onward other)) :
    Matches told name (drawKey >>= next) (drawKey >>= onward) := by
  have drawn : Parallel told (change? name) (AlikeUpTo fun _ _ => True) drawKey.run drawKey.run :=
    parallel_call fun key other _ _ => ⟨by rw [change?_of_quiet .drawKey trivial, change?_of_quiet .drawKey trivial],
      parallel_done trivial⟩
  exact drawn.andThen fun key other _ => finish key other

variable (steady : Steady told)

include steady

/-- An agent carries out a task alike with any key. -/
theorem matches_carryOut (profile : Agent.Profile) (key : String) (task : Agent.Task) :
    Matches told name (carryOut profile task) (carryOut { profile with key } task) := by
  have inner : Agent.Steady fun request answer => ∃ reply : Answer (.agent request), reply = answer ∧
      told (.agent request) reply := by
    constructor
    · rintro request other answer reply ⟨_, rfl, isTold⟩ ⟨_, rfl, alsoTold⟩
      exact steady.agents.chats request other _ _ isTold alsoTold
    · rintro call answer reply noChat ⟨_, rfl, isTold⟩ ⟨_, rfl, alsoTold⟩
      exact steady.agents.others call _ _ noChat isTold alsoTold
  have executed := @Agent.Profile.parallel_execute _ Call profile inner key task false
  refine (executed.embed fun request _ => change?_of_quiet (.agent request) trivial _).bind fun outcome _ same => ?_
  subst same
  cases outcome with
  | ok result => exact matches_done (.ok _)
  | error fault => exact matches_done (.error _)

/-- A system prompt is put together alike. -/
theorem matches_systemPrompt (checkout : Files.Checkout) (withEnvironment : Bool) (role : String) :
    Matches told name (systemPrompt context checkout withEnvironment role)
      (systemPrompt context checkout withEnvironment role) := by
  unfold systemPrompt
  split
  · refine parallel_call fun moment other isTold alsoTold => ⟨?_, parallel_done ?_⟩
    · rw [change?_of_quiet .now trivial, change?_of_quiet .now trivial]
    · have sameDay : Clock.Moment.date moment = Clock.Moment.date other := steady.days _ _ isTold alsoTold
      exact congrArg (fun day => (context.environment checkout).systemPrompt day role) sameDay
  · exact matches_done (.ok role)

/-- A reply is corrected alike with any key. -/
theorem matches_correct (profile : Agent.Profile) (key role : String) (withTools : Bool) (correction : String)
    (history : List Chat.Message) : Matches told name (correct profile role withTools correction history)
      (correct { profile with key } role withTools correction history) :=
  (matches_carryOut steady profile key _).andThen fun outcome =>
    matches_done (.ok (outcome.content, outcome.history.drop 1))

/-- An object is extracted alike, whatever key the agent has that corrects its reply. -/
theorem matches_extract (profile : Agent.Profile) (key role : String) (withTools : Bool) (remaining : Nat)
    (reply : String) (history : List Chat.Message) :
    Matches told name (Reply.extract (correct profile role withTools) remaining reply history)
      (Reply.extract (correct { profile with key } role withTools) remaining reply history) := by
  induction remaining generalizing reply history with
  | zero =>
    unfold Reply.extract
    split <;> exact matches_done (.ok _)
  | succ remaining inductionHypothesis =>
    unfold Reply.extract
    split
    · exact matches_done (.ok _)
    · dsimp only
      split
      · exact (matches_correct steady profile key role withTools _ history).andThen fun next =>
          inductionHypothesis next.1 next.2
      · exact matches_done (.ok _)

/-- An agent without a session is asked for JSON alike, whatever key it draws. -/
theorem matches_askForJson (checkout : Files.Checkout) {inquiry : Inquiry} (alone : inquiry.session = none) :
    Matches told name (askForJson context checkout inquiry) (askForJson context checkout inquiry) := by
  have prompted : Matches told name (rendered context inquiry.promptName inquiry.values)
      (rendered context inquiry.promptName inquiry.values) := by
    unfold rendered
    split
    · exact matches_done (.ok _)
    · exact matches_done (.error _)
  unfold askForJson
  refine prompted.andThen fun prompt => matches_drawKey fun key other => ?_
  refine (matches_systemPrompt steady checkout _ _).andThen fun system => ?_
  refine (matches_carryOut steady (context.agent key) other _).andThen fun outcome => ?_
  rw [alone]
  refine (matches_done (.ok ())).andThen fun _ => ?_
  split
  · refine (matches_extract steady (context.agent key) other _ _ _ _ _).andThen fun found => ?_
    obtain ⟨extraction, history⟩ := found
    cases extraction with
    | ok value => exact matches_done (.ok value)
    | error failure =>
      dsimp only
      split
      · exact matches_done (.error _)
      · exact matches_done (.error _)
  · exact matches_done (.error _)

end Conversations

/-! ## Tasks -/

section Tasks

variable (steady : Steady told)

include steady

/-- A document is composed alike. -/
theorem matches_composeDocument (task : DocumentTask) :
    Matches told name (composeDocument context batch task) (composeDocument context batch task) := by
  have required : ∀ reply label, Matches told name (requireDocument reply label) (requireDocument reply label) := by
    intro reply label
    unfold requireDocument
    split
    · exact matches_done (.ok _)
    · exact matches_done (.error _)
  refine (matches_askForJson steady _ rfl).andThen fun written => ?_
  refine (required _ _).andThen fun document => ?_
  refine (matches_askForJson steady _ rfl).andThen fun translated => ?_
  exact (required _ _).andThen fun _ => matches_done (.ok _)

/-- A draft is saved alike. -/
theorem matches_saveDocument (project docName content language : String) :
    Matches told name (saveDocument project docName content language)
      (saveDocument project docName content language) := by
  refine parallel_call fun answer reply isTold alsoTold => ?_
  obtain rfl := steady.saves project docName content language answer reply isTold alsoTold
  refine ⟨rfl, ?_⟩
  rcases answer with obstacle | done
  · cases obstacle <;> exact parallel_done rfl
  · exact parallel_done rfl

/-- Drafts are discarded alike, however many of them there are. -/
theorem parallel_discardDrafts (project : String) (docName : Option String) :
    Parallel told (change? name) (fun _ _ => True) (discardDrafts project docName).run
      (discardDrafts project docName).run := by
  intro way other outcome ending goes follows isTold alsoTold
  obtain ⟨answer, rfl, -⟩ := goes_discardDrafts goes
  obtain ⟨reply, rfl, -⟩ := goes_discardDrafts follows
  have sameCarried := steady.discards project docName answer reply (isTold _ (.head _)) (alsoTold _ (.head _))
  have sameChange : change? name ⟨.discardDrafts project docName, answer⟩ =
      change? name ⟨.discardDrafts project docName, reply⟩ := by
    unfold change? touching
    dsimp only
    rw [sameCarried]
  exact ⟨by rw [List.filterMap_cons, List.filterMap_cons, sameChange], trivial⟩

/-- A document is attempted alike: the same calls change its drafts, and the same comes of it. -/
theorem parallel_attemptDocument (task : DocumentTask) (docName : String) :
    Parallel told (change? name) (· = ·) (attemptDocument context batch task docName)
      (attemptDocument context batch task docName) := by
  have saved : ∀ manuscript, Matches told name (saveManuscript context batch docName manuscript)
      (saveManuscript context batch docName manuscript) := fun manuscript =>
    (matches_saveDocument steady _ _ _ _).andThen fun _ => matches_saveDocument steady _ _ _ _
  have written : Matches told name (writeDocument context batch task docName)
      (writeDocument context batch task docName) :=
    (matches_composeDocument steady task).andThen fun manuscript =>
      (saved manuscript).andThen fun _ => matches_done (.ok _)
  refine written.bind fun outcome ending alike => ?_
  obtain rfl := eq_of_alike alike
  cases outcome with
  | ok document => exact parallel_done rfl
  | error problem => exact (parallel_discardDrafts steady _ _).bind fun _ _ _ => parallel_done rfl

end Tasks

/-! ## Batches -/

section Batches

variable {tell : Nat -> Nat -> Attempt Unit} {total : Nat} {outcome : Except Problem Unit}
  {named : List (DocumentTask × String)} {ways others : List (List (Exchange Call Answer))}
  {results endings : List (Except String WrittenDocument)}
  (quiet : ∀ count ≤ total, Activity.Abides (Activity.asking Answer Call.IsQuiet) (tell count total))

include quiet

/-- A task settles alike under any number, if telling of it always comes to the same. -/
theorem parallel_settleDocument
    (tells : ∀ count ≤ total, (tell count total).run.Keeps ⟨told, fun _ => True⟩ (· = outcome))
    (attempt : Except String WrittenDocument) {number other : Nat} (low : number ≤ total) (alsoLow : other ≤ total) :
    Parallel told (change? name) (· = ·) (settleDocument tell total number attempt)
      (settleDocument tell total other attempt) := by
  have noChange : ∀ count ≤ total, ∀ way ending, (tell count total).run.Goes way ending ->
      way.filterMap (change? name) = [] := by
    intro count few way ending goes
    refine List.filterMap_eq_nil_iff.mpr fun exchange member => ?_
    exact change?_of_quiet exchange.request ((quiet count few).confined goes exchange member) exchange.answer
  have telling := (tells number low).parallel (tells other alsoLow) (noChange number low) (noChange other alsoLow)
  refine telling.bind fun ending _ same => ?_
  subst same
  cases ending with
  | ok done => exact parallel_done rfl
  | error problem => exact parallel_done rfl

omit quiet in
/-- What touches no drafts of a document changes none. -/
theorem changes_of_untouched {way : List (Exchange Call Answer)} (untouched : way.filter (touching name) = []) :
    way.filterMap (change? name) = [] :=
  List.filterMap_eq_nil_iff.mpr fun exchange member =>
    if_neg (List.filter_eq_nil_iff.mp untouched exchange member)

/-- Of tasks whose documents have different names at most one changes the drafts of a document. -/
theorem pairwise_changes {settlements : List Settlement}
    (accounts : List.Forall₂ (fun way settlement => settlement.Accounts context batch tell total way) ways
      settlements) (distinct : (settlements.map (·.docName)).Nodup) :
    ways.Pairwise fun way other => way.filterMap (change? name) = [] ∨ other.filterMap (change? name) = [] := by
  induction accounts with
  | nil => exact .nil
  | @cons way settlement ways settlements accounts rest inductionHypothesis =>
    obtain ⟨new, distinct⟩ := List.nodup_cons.mp distinct
    refine List.pairwise_cons.mpr ⟨fun other member => ?_, inductionHypothesis distinct⟩
    by_cases own : settlement.docName = name
    · exact .inr (changes_of_untouched (touch_others quiet rest (own ▸ new) other member))
    · exact .inl (changes_of_untouched (accounts.touches_other quiet own))

end Batches

/-- A context with another number of writers. -/
def Context.withWriters (context : Context) (writers : Nat) : Context := { context with concurrency := writers }

section Runs

variable {tell : Nat -> Nat -> Attempt Unit} {tasks : List DocumentTask} {outcome : Except Problem Unit}
  {few many : Nat} {way other : List (Exchange Call Answer)} {report another : WriteReport}
  (quiet : ∀ count ≤ tasks.length, Activity.Abides (Activity.asking Answer Call.IsQuiet) (tell count tasks.length))
  (distinct : (assignNames (tasks.map (·.title))).Nodup)

include quiet distinct

/-- A batch goes the ways of its tasks: their results make up the report, and what changes the drafts of a document
on them changes these drafts on the way of the batch. -/
theorem tasksGo_of_writeAll (goes : (writeAll (context.withWriters few) batch tell tasks).Goes way report) :
    ∃ ways results, TasksGo (settleDocument tell tasks.length) tasks.length
        (((tasks.zip (assignNames (tasks.map (·.title)))).map fun pair =>
          attemptDocument context batch pair.1 pair.2).map .working) ways results ∧
      report = .ofOutcomes (tasks.zip results) ∧ (∀ part ∈ ways, part.Sublist way) ∧
      ∀ name, way.filterMap (change? name) = (ways.map (List.filterMap (change? name))).flatten := by
  obtain ⟨settlements, choices, merged, ways, results, -, sameNames, -, rfl, go, accounts, merges, shuffle,
    quietChoices⟩ := goes_writeAll goes
  refine ⟨ways, results, go, rfl, fun part member => (merges.sublist member).trans shuffle.sublist_right,
    fun name => ?_⟩
  -- Its settlements tell apart which task a way belongs to.
  have alone := @pairwise_changes name _ _ _ _ _ quiet _ accounts (sameNames ▸ distinct)
  have nothing : choices.filterMap (change? name) = [] := List.filterMap_eq_nil_iff.mpr fun exchange member =>
    change?_of_quiet exchange.request (quietChoices exchange member) exchange.answer
  have shuffled := shuffle.filterMap (change? name)
  rw [nothing] at shuffled
  rw [shuffled.eq_of_nil_left, merges.filterMap_eq_flatten alone]

/-- Two courses of a batch, with any numbers of writers and in any orders, come to the same report and change the
drafts of every document in the same way. -/
theorem changes_of_writeAll (steady : Steady told)
    (tells : ∀ count ≤ tasks.length, (tell count tasks.length).run.Keeps ⟨told, fun _ => True⟩ (· = outcome))
    (goes : (writeAll (context.withWriters few) batch tell tasks).Goes way report)
    (follows : (writeAll (context.withWriters many) batch tell tasks).Goes other another)
    (isTold : ∀ exchange ∈ way, told exchange.request exchange.answer)
    (alsoTold : ∀ exchange ∈ other, told exchange.request exchange.answer) :
    report = another ∧ ∀ name, way.filterMap (change? name) = other.filterMap (change? name) := by
  obtain ⟨ways, results, go, rfl, parts, changes⟩ := tasksGo_of_writeAll quiet distinct goes
  obtain ⟨others, endings, goElse, rfl, otherParts, otherChanges⟩ := tasksGo_of_writeAll quiet distinct follows
  have same : ∀ name, ways.map (List.filterMap (change? name)) = others.map (List.filterMap (change? name)) ∧
      results = endings := by
    intro name
    have works : ∀ activity ∈ (tasks.zip (assignNames (tasks.map (·.title)))).map fun pair =>
        attemptDocument context batch pair.1 pair.2, Parallel told (change? name) (· = ·) activity activity := by
      intro activity member
      obtain ⟨⟨task, docName⟩, -, rfl⟩ := List.mem_map.mp member
      exact parallel_attemptDocument steady task docName
    have settles : ∀ attempt, ∀ number ≤ tasks.length, ∀ place ≤ tasks.length, Parallel told (change? name) (· = ·)
        (settleDocument tell tasks.length number attempt) (settleDocument tell tasks.length place attempt) :=
      fun attempt number low place alsoLow => parallel_settleDocument quiet tells attempt low alsoLow
    exact TasksGo.parallel works settles go goElse
      (fun part member exchange inPart => isTold exchange ((parts part member).subset inPart))
      fun part member exchange inPart => alsoTold exchange ((otherParts part member).subset inPart)
  refine ⟨by rw [(same "").2], fun name => ?_⟩
  rw [changes name, otherChanges name, (same name).1]

omit distinct in
/-- The drafts after a batch. -/
theorem drafts_writeAll {σ : Type} {surroundings : Surroundings σ} {world after : World σ}
    (goes : (writeAll (context.withWriters few) batch tell tasks).Goes way report)
    (answered : Activity.Answered (World.answer surroundings) world way after) :
    after.documents.variants batch.projectKey .draft =
      drafted way (world.documents.variants batch.projectKey .draft) := by
  have concerns : (writeAll (context.withWriters few) batch tell tasks).Keeps
      (Activity.asking Answer (Call.Concerns batch.projectKey)) fun _ => True :=
    keeps_writeAll (hosts_of_outside fun _ outside => outside.quiet.concerns _)
      (fun _ drafts => drafts.onlyDrafts.concerns)
      fun count low => Activity.Keeps.relax (quiet count low) (fun _ _ told => told) fun _ quiet => quiet.concerns _
  exact World.drafts_answered answered (concerns.goes goes fun _ _ => trivial).1

/-- A batch of documents with different names comes to one report and leaves one set of drafts, with whatever
number of writers and in whatever order its tasks take turns, as long as agents reply to what they are asked and
to nothing else. The two runs may be made in different surroundings at different times, from worlds with the same
drafts of the project. -/
theorem writeAll_unordered {σ τ : Type} {left : Surroundings σ} {right : Surroundings τ} {world after : World σ}
    {otherWorld otherAfter : World τ} (steady : Steady told)
    (tells : ∀ count ≤ tasks.length, (tell count tasks.length).run.Keeps ⟨told, fun _ => True⟩ (· = outcome))
    (same : world.documents.variants batch.projectKey .draft = otherWorld.documents.variants batch.projectKey .draft)
    (isTold : ∀ exchange ∈ (writeAll (context.withWriters few) batch tell tasks).exchanges (World.answer left) world,
      told exchange.request exchange.answer)
    (alsoTold : ∀ exchange ∈ (writeAll (context.withWriters many) batch tell tasks).exchanges (World.answer right)
      otherWorld, told exchange.request exchange.answer)
    (wrote : World.run left (writeAll (context.withWriters few) batch tell tasks) world = (report, after))
    (alsoWrote : World.run right (writeAll (context.withWriters many) batch tell tasks) otherWorld =
      (another, otherAfter)) :
    report = another ∧ (after.documents.variants batch.projectKey .draft).Perm
      (otherAfter.documents.variants batch.projectKey .draft) := by
  obtain ⟨way, goes, answered⟩ := Activity.run_eq_iff.mp wrote
  obtain rfl := (goes.eq_run answered).2
  obtain ⟨other, follows, alsoAnswered⟩ := Activity.run_eq_iff.mp alsoWrote
  obtain rfl := (follows.eq_run alsoAnswered).2
  obtain ⟨sameReport, sameChanges⟩ := changes_of_writeAll quiet distinct steady tells goes follows isTold alsoTold
  refine ⟨sameReport, Store.perm_of_filter fun name => ?_⟩
  rw [drafts_writeAll quiet goes answered, drafts_writeAll quiet follows alsoAnswered, filter_drafted, filter_drafted,
    drafted_filter, drafted_filter, sameChanges name, same]

end Runs

/-! ## Surroundings that mind what they are asked -/

/-- Surroundings in which the model replies to a conversation as a function says, and in which one of the
activities that may go on is always the one at the same place. Nothing is refused, and no time passes. -/
def Surroundings.minding (reply : List Chat.Message -> String) (place : Nat) : Surroundings Unit where
  agent
    | .chat request, outside => (.answered ⟨reply request.messages, []⟩ false, outside)
    | .work _ _, outside => (.cutOff, outside)
    | .judge _, outside | .pause, outside => (false, outside)
  refusal _ outside := (none, outside)
  choose _ outside := (place, outside)
  elapsed outside := (0, outside)

/-- What such surroundings may answer at the start of time, whatever else is in the world. -/
def Mindful (reply : List Chat.Message -> String) (call : Call) (answer : Answer call) : Prop :=
  ∃ place, ∃ world : World Unit, world.clock = ⟨0⟩ ∧ answer = (World.answer (.minding reply place) call world).1

/-- Such surroundings answer alike what they are asked. -/
theorem steady_mindful (reply : List Chat.Message -> String) : Steady (Mindful reply) where
  agents := by
    constructor
    · rintro request key _ _ ⟨place, world, -, rfl⟩ ⟨otherPlace, otherWorld, -, rfl⟩
      rfl
    · rintro call _ _ noChat ⟨place, world, -, rfl⟩ ⟨otherPlace, otherWorld, -, rfl⟩
      cases call with
      | chat request => exact absurd rfl (noChat request)
      | work tool arguments => rfl
      | judge turn => rfl
      | pause => rfl
  days := by
    rintro _ _ ⟨place, world, clock, rfl⟩ ⟨otherPlace, otherWorld, otherClock, rfl⟩
    simp only [World.answer, World.noting, World.carryOut, Surroundings.minding, clock, otherClock]
  saves := by
    rintro project name content language _ _ ⟨place, world, -, rfl⟩ ⟨otherPlace, otherWorld, -, rfl⟩
    rfl
  discards := by
    rintro project name _ _ ⟨place, world, -, rfl⟩ ⟨otherPlace, otherWorld, -, rfl⟩
    rfl

/-- At the start of time, a run in such surroundings is told what they may answer. -/
theorem mindful_of_answered {reply : List Chat.Message -> String} {place : Nat} {world after : World Unit}
    {way : List (Exchange Call Answer)} (start : world.clock = ⟨0⟩)
    (answered : Activity.Answered (World.answer (.minding reply place)) world way after) :
    ∀ exchange ∈ way, Mindful reply exchange.request exchange.answer := by
  induction answered with
  | nil world => exact List.forall_mem_nil _
  | @cons world final exchanges request rest inductionHypothesis =>
    refine List.forall_mem_cons.mpr ⟨⟨place, world, start, rfl⟩, inductionHypothesis ?_⟩
    rw [World.clock_answer, World.next, start]
    rfl

/-- A context in which the prompts tell documents apart. -/
def pairContext : Context :=
  { emptyContext with
    prompts := [("writer", ⟨"role", "write $title"⟩), ("translator", ⟨"role", "translate $document"⟩)] }

/-- Replies for the writer and the translator of one document; for all others there is none. -/
def pairReply (messages : List Chat.Message) : String :=
  if messages.any (·.content == "write A") then "\x7b\"document\":\"text\"\x7d"
  else if messages.any (·.content == "translate text") then "\x7b\"document\":\"other\"\x7d"
  else "no"

/-- Tasks for that document and another. -/
def pairTasks : List DocumentTask := [⟨"A", "", "", "", none⟩, ⟨"B", "", "", "", none⟩]

/-- The batch of these tasks, with some writers. -/
def pairBatch (writers : Nat) : Doing WriteReport :=
  writeAll (pairContext.withWriters writers) ⟨emptyContext.checkout "repo", "p", ""⟩ tellSettled pairTasks

/-- A world with two keys in which nothing has happened. -/
def pairWorld : World Unit where
  clock := ⟨0⟩
  identifiers := 0
  keys := ⟨"key", ["other"], 0⟩
  cache := .memory .empty
  documents := []
  sessions := .empty 1 1
  calls := []
  ended := []
  outside := ()

/-- What becomes of the batch. -/
def pairReport : WriteReport where
  written := [⟨"A", "A", "A", none, ["en", "zh"]⟩]
  failed := [⟨"B", none, "Document 'B' failed: Stage 'writing' failed: No JSON object found in reply"⟩]

set_option maxRecDepth 100000 in
/-- A single writer writes the document and fails to write the other. -/
theorem pairBatch_one : (World.run (.minding pairReply 0) (pairBatch 1) pairWorld).1 = pairReport ∧
    (World.run (.minding pairReply 0) (pairBatch 1) pairWorld).2.documents.variants "p" .draft =
      [⟨"A", "en", "text"⟩, ⟨"A", "zh", "other"⟩] := by
  simp only [pairBatch, @writeAll_one (pairContext.withWriters 1) rfl, emptyContext_checkout]
  decide +kernel

/-- Two writers come to the same, one of which goes on with the other document whenever it can. -/
theorem pairBatch_two : (World.run (.minding pairReply 1) (pairBatch 2) pairWorld).1 = pairReport ∧
    ((World.run (.minding pairReply 1) (pairBatch 2) pairWorld).2.documents.variants "p" .draft).Perm
      [⟨"A", "en", "text"⟩, ⟨"A", "zh", "other"⟩] := by
  have told : ∀ writers place, ∀ exchange ∈ (pairBatch writers).exchanges
      (World.answer (.minding pairReply place)) pairWorld, Mindful pairReply exchange.request exchange.answer :=
    fun _ _ => mindful_of_answered rfl (Activity.answered_run _ _)
  have quiet : ∀ count ≤ pairTasks.length,
      Activity.Abides (Activity.asking Answer Call.IsQuiet) (tellSettled count pairTasks.length) :=
    fun _ _ => abides_accepted ⟨trivial, fun _ _ => trivial⟩
  have tells : ∀ count ≤ pairTasks.length,
      (tellSettled count pairTasks.length).run.Keeps ⟨Mindful pairReply, fun _ => True⟩ (· = .ok ()) := by
    intro count _
    refine ⟨trivial, ?_⟩
    rintro _ ⟨place, world, -, rfl⟩
    rfl
  have distinct : (assignNames (pairTasks.map (·.title))).Nodup := by decide +kernel
  obtain ⟨sameReport, sameDrafts⟩ := writeAll_unordered quiet distinct (steady_mindful pairReply) tells rfl (told 1 0)
    (told 2 1) rfl rfl
  exact ⟨sameReport.symm.trans pairBatch_one.1, pairBatch_one.2 ▸ sameDrafts.symm⟩

end RepoSurvey.Analysis

import RepoSurvey.Proofs.Analysis.ToolRecords
import RepoSurvey.Proofs.Json.RoundTrip

/-!
# Successes of tool calls

Whether a tool call succeeded is told to the model by its text: failures stand after a mark. What is recorded of an
agent reads the success back from the text. That gives the success of every result but those whose data is itself a
text that starts like a failure (`startsWith_content`): data of another kind is written as JSON, which never starts so.

An agent's work is made of deeds, the tool calls that it carried out, each with its result. `successes_account` says
what is recorded of them, and what becomes of the rate of successes of a session.
-/

namespace RepoSurvey

/-! ## What is told of a result -/

namespace Chat.ToolResult

open Analysis (failureMark)

/-- Whether the data of a result is a text that starts like a failure. -/
def isMarked (result : ToolResult) : Bool :=
  match result.data with
  | .str text => text.startsWith failureMark
  | _ => false

/-- The text of a value does not start like a failure. -/
theorem startsWith_text (style : Json.Style) (value : Json) : (value.text style).startsWith failureMark = false := by
  obtain ⟨c, others, begins, isBegin⟩ := Json.write_begins style 0 value
  have different : 'E' ≠ c := (isBegin.ne rfl (by decide)).symm
  rw [← Bool.not_eq_true, String.startsWith_string_iff, Json.text, String.toList_ofList, begins]
  exact fun starts => different (List.cons_prefix_cons.mp starts).1

/-- A result is told like a failure when it is one, or when its data starts like one. -/
theorem startsWith_content (result : ToolResult) :
    result.content.startsWith failureMark = (!result.success || result.isMarked) := by
  obtain ⟨success, data, error⟩ := result
  cases success with
  | false =>
    have marked : failureMark.toList <+: (content ⟨false, data, error⟩).toList := by
      rw [content, if_neg Bool.false_ne_true]
      split
      · exact ⟨" unknown error".toList, rfl⟩
      · exact ⟨" unknown error".toList, rfl⟩
      · next report _ _ => exact ⟨' ' :: report.toList, by rw [String.toList_append]; rfl⟩
    rw [Bool.not_false, Bool.true_or, String.startsWith_string_iff]
    exact marked
  | true =>
    cases data with
    | str text => rfl
    | null | bool | int | float | arr | obj => exact startsWith_text .compact _

end Chat.ToolResult

/-- The rounds of messages that follow one another. -/
theorem Chat.HoldRounds.append {first second : List Chat.Message} {rounds others : List Chat.Round}
    (held : HoldRounds first rounds) (more : HoldRounds second others) :
    HoldRounds (first ++ second) (rounds ++ others) := by
  induction held with
  | nil => exact more
  | other silent speaks rest inductionHypothesis => exact .other silent speaks inductionHypothesis
  | worked content round rest inductionHypothesis =>
    rw [List.append_assoc]
    exact .worked content round inductionHypothesis

namespace Agent

open Activity (Exchange Goes goes_done)
open Chat (HoldRounds Message Round ToolCall ToolResult)
open Json (ShapeFault)

/-! ## Deeds -/

/-- A tool call that was carried out, on some way and with some result. -/
structure Deed where
  call : ToolCall
  way : List (Exchange Call Answer)
  result : ToolResult

namespace Deed

/-- The call with what the model was told. -/
def answered (deed : Deed) : ToolCall × String := (deed.call, deed.result.content)

/-- The message in which the model was told. -/
def message (deed : Deed) : Message := .toolAnswer deed.call.id deed.result.content

/-- The round of some deeds. -/
def round (deeds : List Deed) : Round := deeds.map answered

end Deed

/-- Whether an agent carries out tool calls one after the other. The truth values say whether the signal had fired
before and whether it has fired then. -/
inductive Profile.Performs (profile : Profile) : Bool -> List Deed -> Bool -> Prop where
  | nil (fired : Bool) : Performs profile fired [] fired
  | cons {before middle after : Bool} {deed : Deed} {deeds : List Deed}
      (runs : (profile.runTool deed.call before).Goes deed.way (.ok (deed.result, middle)))
      (rest : Performs profile middle deeds after) : Performs profile before (deed :: deeds) after

/-- Whether a tool is put to work in an exchange. -/
def isWork (exchange : Exchange Call Answer) : Bool :=
  match exchange.request with
  | .work _ _ => true
  | _ => false

section Deeds

variable {profile : Profile} {task : Task} {way : List (Exchange Call Answer)}

/-- What is told of a result is its text. -/
theorem content_of_told {result : ToolResult} {told : String} (tells : result.told = .ok told) :
    told = result.content := by
  unfold ToolResult.told at tells
  split at tells
  · nomatch tells
  · exact (Except.ok.inj tells).symm

/-- The tool calls of a reply that are all answered are carried out one after the other. -/
theorem performs_of_runTools {calls : List ToolCall} {before after : Bool} {answers : List Message}
    (goes : (profile.runTools calls before).Goes way (.ok (answers, after))) :
    ∃ deeds : List Deed, profile.Performs before deeds after ∧ deeds.map Deed.call = calls ∧
      answers = deeds.map Deed.message ∧ way = deeds.flatMap Deed.way := by
  induction calls generalizing before way answers with
  | nil =>
    obtain ⟨rfl, same⟩ := goes_done.mp goes
    cases same
    exact ⟨[], .nil _, rfl, rfl, rfl⟩
  | cons call calls inductionHypothesis =>
    obtain ⟨first, others, result, told, middle, further, rfl, runs, tells, othersGo, rfl⟩ :=
      Profile.goes_runTools_cons goes
    obtain ⟨deeds, performs, rfl, rfl, rfl⟩ := inductionHypothesis othersGo
    refine ⟨⟨call, first, result⟩ :: deeds, .cons runs performs, rfl, ?_, by simp⟩
    rw [content_of_told tells]
    rfl

/-- In a deed nothing but tools is put to work. -/
theorem filter_isWork_of_runTool {call : ToolCall} {before : Bool} {ending : Except ShapeFault (ToolResult × Bool)}
    (goes : (profile.runTool call before).Goes way ending) : way.filter isWork = way := by
  apply List.filter_eq_self.mpr
  intro exchange member
  have isRequest := (Profile.goes_runTool goes).subset (List.mem_map_of_mem member)
  unfold isWork
  rw [List.mem_singleton.mp isRequest]

/-- In deeds nothing but tools is put to work. -/
theorem Profile.Performs.filter_isWork {before after : Bool} {deeds : List Deed}
    (performs : profile.Performs before deeds after) :
    (deeds.flatMap Deed.way).filter isWork = deeds.flatMap Deed.way := by
  induction performs with
  | nil fired => rfl
  | cons runs rest inductionHypothesis =>
    rw [List.flatMap_cons, List.filter_append, inductionHypothesis, filter_isWork_of_runTool runs]

/-- Deeds whose calls are those of a round, and of whose results the model was told there, make that round. -/
theorem round_eq {deeds : List Deed} {round : Round} (calls : deeds.map Deed.call = round.map Prod.fst)
    (answers : Block.answersTo round = deeds.map Deed.message) : Deed.round deeds = round := by
  induction deeds generalizing round with
  | nil => exact (List.map_eq_nil_iff.mp calls.symm).symm
  | cons deed deeds inductionHypothesis =>
    obtain ⟨⟨call, told⟩, others, rfl⟩ := List.exists_cons_of_ne_nil (l := round) fun none => by simp [none] at calls
    obtain ⟨rfl, sameCalls⟩ := List.cons.inj calls
    obtain ⟨first, sameAnswers⟩ := List.cons.inj answers
    obtain rfl : told = deed.result.content := congrArg Message.content first
    exact congrArg _ (inductionHypothesis sameCalls sameAnswers)

/-- Whether rounds of deeds are carried out in the course of some messages: all tools that are put to work are put to
work for them, and the messages hold them. -/
structure Accomplishes (profile : Profile) (way : List (Exchange Call Answer)) (messages : List Message)
    (rounds : List (List Deed)) : Prop where
  performs : ∀ deeds ∈ rounds, ∃ before after, profile.Performs before deeds after
  works : way.filter isWork = rounds.flatten.flatMap Deed.way
  held : HoldRounds messages (rounds.map Deed.round)

/-- Courses one after the other. -/
theorem Accomplishes.append {first second : List (Exchange Call Answer)} {messages further : List Message}
    {rounds others : List (List Deed)} (accomplishes : Accomplishes profile first messages rounds)
    (more : Accomplishes profile second further others) :
    Accomplishes profile (first ++ second) (messages ++ further) (rounds ++ others) where
  performs deeds member := (List.mem_append.mp member).elim (accomplishes.performs deeds) (more.performs deeds)
  works := by
    rw [List.filter_append, accomplishes.works, more.works, List.flatten_append, List.flatMap_append]
  held := by
    rw [List.map_append]
    exact accomplishes.held.append more.held

/-- Messages without calls and answers hold no rounds, and where no tool is put to work none is needed. -/
theorem accomplishes_nothing {messages : List Message} (idle : way.filter isWork = [])
    (silent : HoldRounds messages []) : Accomplishes profile way messages [] where
  performs _ member := nomatch member
  works := idle
  held := silent

/-- In a decision about a turn no tool is put to work. -/
theorem filter_isWork_of_decide {continuation : Continuation} {key : String} {reply : Reply}
    {delivery : Delivery Verdict} (goes : (continuation.decide key reply).Goes way delivery) :
    way.filter isWork = [] := by
  obtain ⟨⟨exchange, rfl, decides⟩, -⟩ := Continuation.goes_decide goes
  obtain ⟨request, answer⟩ := exchange
  cases request with
  | work => exact decides.elim
  | chat | judge | pause => rfl

/-- Every iteration accomplishes a round or none. -/
theorem Takes.accomplishes {transcript : List Message} {iteration : Iteration} {aborted fired concluded : Bool}
    (takes : Takes profile task transcript aborted iteration fired concluded) :
    ∃ rounds, Accomplishes profile iteration.exchanges iteration.messages rounds := by
  have spoken : ∀ content, HoldRounds [Message.assistant content []] [] :=
    fun content => .other rfl (fun isTool => nomatch isTool) .nil
  cases takes with
  | idle | cutOff | refused => exact ⟨[], accomplishes_nothing rfl .nil⟩
  | delivered content | undecided content => exact ⟨[], accomplishes_nothing rfl (spoken content)⟩
  | interrupted content further free decides =>
    have idle := filter_isWork_of_decide decides
    exact ⟨[], accomplishes_nothing idle (spoken content)⟩
  | yielded content further verdict fired free decides yields =>
    have idle := filter_isWork_of_decide decides
    exact ⟨[], accomplishes_nothing idle (spoken content)⟩
  | kept content further verdict fired free decides keeps =>
    have idle := filter_isWork_of_decide decides
    exact ⟨[], accomplishes_nothing idle (.other rfl (fun isTool => nomatch isTool)
      (.other rfl (fun isTool => nomatch isTool) .nil))⟩
  | worked content first others further before after works =>
    obtain ⟨deeds, performs, calls, answers, rfl⟩ := performs_of_runTools works
    have isRound : Deed.round deeds = first :: others := round_eq calls answers
    have work := performs.filter_isWork
    refine ⟨[deeds], fun _ member => List.mem_singleton.mp member ▸ ⟨before, _, performs⟩, ?_, ?_⟩
    · rw [List.flatten_singleton]
      exact work
    · have held := HoldRounds.worked content (first :: others) .nil
      rw [List.append_nil] at held
      rwa [List.map_singleton, isRound]

/-- A conversation accomplishes rounds. -/
theorem Conversation.accomplishes {remaining : Nat} {transcript : List Message} {iterations : List Iteration}
    {aborted fired concluded : Bool}
    (conversation : Conversation profile task remaining transcript aborted iterations fired concluded) :
    ∃ rounds, Accomplishes profile (iterations.flatMap Iteration.exchanges) (iterations.flatMap Iteration.messages)
      rounds := by
  induction conversation with
  | spent => exact ⟨[], accomplishes_nothing rfl .nil⟩
  | concluded takes =>
    rw [List.flatMap_singleton, List.flatMap_singleton]
    exact takes.accomplishes
  | onward takes rest inductionHypothesis =>
    obtain ⟨first, accomplishes⟩ := takes.accomplishes
    obtain ⟨others, more⟩ := inductionHypothesis
    exact ⟨first ++ others, accomplishes.append more⟩

/-- Work without a history that comes back accomplishes rounds, which its history holds. -/
theorem accomplishes_of_execute {aborted fired : Bool} {outcome : Outcome} (fresh : task.history = [])
    (goes : (profile.execute task aborted).Goes way (.ok (outcome, fired))) :
    ∃ rounds, Accomplishes profile way outcome.history rounds := by
  obtain ⟨iterations, concluded, conversation, rfl, yields⟩ := conversation_of_goes goes
  obtain ⟨rounds, accomplishes⟩ := conversation.accomplishes
  have opening : Accomplishes profile [] (Profile.opening task) [] := by
    apply accomplishes_nothing rfl
    rw [Profile.opening, fresh]
    exact .other rfl (fun isTool => nomatch isTool) (.other rfl (fun isTool => nomatch isTool) .nil)
  rw [yields.totals.2]
  exact ⟨rounds, opening.append accomplishes⟩

end Deeds

end Agent

/-! ## What is recorded of deeds -/

namespace Session

open Number (Binary64)

/-- The rate of successes among some calls; zero when there are none. -/
def rate (successes : List Bool) : Binary64 :=
  if successes.length = 0 then .zero else .ofRatio false (successes.count true) successes.length

/-- The rate in the summary of a session is that of its records. Whether there is a summary lies in its context. -/
theorem toolSuccessRate_eq {session other : Session} (same : other.context = session.context) (now : Clock.Moment) :
    (other.summary now).map Summary.toolSuccessRate =
      (session.summary now).map fun _ => rate (other.toolRecords.map ToolRecord.success) := by
  have counted : (other.toolRecords.map ToolRecord.success).count true =
      other.toolRecords.countP ToolRecord.success := by
    rw [List.count, List.countP_map]
    apply List.countP_congr
    intro record _
    simp
  unfold summary rate
  rw [same, counted, List.length_map]
  dsimp only
  split <;> rfl

end Session

namespace Analysis

open Activity (Exchange)
open Agent (Accomplishes Deed)
open Chat (Message Round)

/-- How a deed is recorded. -/
def ToolOutcome.IsOf (recorded : ToolOutcome) (deed : Deed) : Prop :=
  recorded.summary = deed.result.content ∧ recorded.success = (deed.result.success && !deed.result.isMarked)

/-- An answer is recorded as a success when the result is one and its data does not start like a failure. -/
theorem isOf_told (deed : Deed) (name : String) : (ToolOutcome.told deed.answered.2 name).IsOf deed := by
  refine ⟨rfl, ?_⟩
  have starts := deed.result.startsWith_content
  unfold ToolOutcome.told Deed.answered
  rw [starts, Bool.not_or, Bool.not_not]

/-- Everything that is recorded of a round is recorded of one of its deeds. -/
theorem isOf_of_mem_roundOutcomes {deeds : List Deed} {recorded : ToolOutcome}
    (member : recorded ∈ roundOutcomes (Deed.round deeds)) : ∃ deed ∈ deeds, recorded.IsOf deed := by
  obtain ⟨call, isCall, rfl⟩ := List.mem_map.mp member
  obtain ⟨deed, isDeed, rfl⟩ := List.mem_map.mp ((Round.earliest_sublist _).subset isCall)
  exact ⟨deed, isDeed, isOf_told deed _⟩

/-- Where the identifiers are distinct, each deed is recorded under the name of its call. -/
theorem map_roundOutcomes {deeds : List Deed} (distinct : (deeds.map fun deed => deed.call.id).Nodup) :
    (roundOutcomes (Deed.round deeds)).map (fun recorded => (recorded.toolName, recorded.success)) =
      deeds.map fun deed => (deed.call.name, deed.result.success && !deed.result.isMarked) := by
  have distinctIds : (Deed.round deeds).ids.Nodup := by
    unfold Deed.round Round.ids
    rwa [List.map_map]
  rw [roundOutcomes_eq distinctIds, callOutcomes, Deed.round, List.map_map, List.map_map]
  apply List.map_congr_left
  intro deed _
  exact congrArg (Prod.mk deed.call.name) (isOf_told deed deed.call.name).2

/-- What is recorded of deeds. -/
theorem toolOutcomes_of_accomplishes {profile : Agent.Profile} {way : List (Exchange Agent.Call Agent.Answer)}
    {messages : List Chat.Message} {rounds : List (List Deed)}
    (accomplishes : Accomplishes profile way messages rounds) :
    toolOutcomes [] messages = rounds.flatMap fun deeds => roundOutcomes (Deed.round deeds) := by
  rw [toolOutcomes_eq accomplishes.held, List.flatMap_map]

/-- Outcomes are recorded with their successes. -/
theorem success_zipWith_record (outcomes : List ToolOutcome) (moments : List Clock.Moment)
    (length : moments.length = outcomes.length) :
    (List.zipWith ToolOutcome.record outcomes moments).map Session.ToolRecord.success =
      outcomes.map ToolOutcome.success := by
  induction outcomes generalizing moments with
  | nil => rfl
  | cons outcome outcomes inductionHypothesis =>
    obtain ⟨now, others, rfl⟩ := List.exists_cons_of_length_eq_add_one length
    exact congrArg _ (inductionHypothesis others (Nat.succ.inj length))

/-- What is recorded of deeds are their successes just when no success starts like a failure. -/
theorem map_success_iff (deeds : List Deed) :
    (deeds.map fun deed => deed.result.success && !deed.result.isMarked) = deeds.map (fun deed => deed.result.success) ↔
      ∀ deed ∈ deeds, deed.result.success = true -> deed.result.isMarked = false := by
  rw [List.map_inj_left]
  apply forall₂_congr
  intro deed _
  cases deed.result.success <;> simp

/-- **Successes of tool calls.** The calls of an agent's history are those of rounds of deeds, which hold all that tools
were put to work for. Everything that is recorded is recorded of one of them, as a success when its result is one and
no text that starts like a failure. Where the identifiers of each reply are distinct, there is one record for each
deed, under the name of its call; then the records tell the successes of the results just when none of these is such a
text. In a session that is live, just these records are added, and the rate of its successes becomes theirs together
with the earlier ones. -/
theorem successes_account {profile : Agent.Profile} {task : Agent.Task} {aborted fired : Bool}
    {way : List (Exchange Agent.Call Agent.Answer)} {outcome : Agent.Outcome} (fresh : task.history = [])
    (goes : (profile.execute task aborted).Goes way (.ok (outcome, fired))) :
    let recorded := toolOutcomes [] outcome.history
    (∃ rounds : List (List Deed),
      (∀ deeds ∈ rounds, ∃ before after, profile.Performs before deeds after) ∧
      way.filter Agent.isWork = rounds.flatten.flatMap Deed.way ∧
      outcome.history.flatMap Message.toolCalls = rounds.flatten.map Deed.call ∧
      (∀ outcome ∈ recorded, ∃ deed ∈ rounds.flatten, outcome.IsOf deed) ∧
      ((∀ deeds ∈ rounds, (deeds.map fun deed => deed.call.id).Nodup) ->
        recorded.map (fun outcome => (outcome.toolName, outcome.success)) =
          rounds.flatten.map (fun deed => (deed.call.name, deed.result.success && !deed.result.isMarked)) ∧
        (recorded.map ToolOutcome.success = rounds.flatten.map (fun deed => deed.result.success) ↔
          ∀ deed ∈ rounds.flatten, deed.result.success = true -> deed.result.isMarked = false))) ∧
    ∀ {σ : Type} {surroundings : Surroundings σ} {world : World σ} {session : Session} (stage : Stage),
      world.Holds surroundings session -> world.IsBrisk surroundings ->
      ∃ (after : World σ) (later : Session),
        World.run surroundings (recordActivity session.id stage outcome).run world = (.ok (), after) ∧
        world.Passes surroundings session after later ∧
        later.toolRecords.map Session.ToolRecord.success =
          session.toolRecords.map Session.ToolRecord.success ++ recorded.map ToolOutcome.success ∧
        ∀ now, (later.summary now).map Session.Summary.toolSuccessRate = (session.summary now).map fun _ =>
          Session.rate (session.toolRecords.map Session.ToolRecord.success ++ recorded.map ToolOutcome.success) := by
  intro recorded
  constructor
  · obtain ⟨rounds, accomplishes⟩ := Agent.accomplishes_of_execute fresh goes
    have isRecorded : recorded = rounds.flatMap fun deeds => roundOutcomes (Deed.round deeds) :=
      toolOutcomes_of_accomplishes accomplishes
    refine ⟨rounds, accomplishes.performs, accomplishes.works, ?_, ?_, ?_⟩
    · rw [accomplishes.held.calls, List.flatMap_map, List.map_flatten, List.flatMap]
      congr 1
      apply List.map_congr_left
      intro deeds _
      exact List.map_map
    · intro outcome member
      obtain ⟨deeds, isRound, member⟩ := List.mem_flatMap.mp (isRecorded ▸ member)
      obtain ⟨deed, isDeed, isOf⟩ := isOf_of_mem_roundOutcomes member
      exact ⟨deed, List.mem_flatten_of_mem isRound isDeed, isOf⟩
    · intro distinct
      have named : recorded.map (fun outcome => (outcome.toolName, outcome.success)) =
          rounds.flatten.map fun deed => (deed.call.name, deed.result.success && !deed.result.isMarked) := by
        rw [isRecorded, List.map_flatMap, List.map_flatten, List.flatMap]
        congr 1
        exact List.map_congr_left fun deeds isRound => map_roundOutcomes (distinct deeds isRound)
      have flags := congrArg (List.map Prod.snd) named
      rw [List.map_map, List.map_map] at flags
      refine ⟨named, ?_⟩
      rw [← map_success_iff]
      exact Eq.congr_left flags
  · intro σ surroundings world session stage holds brisk
    obtain ⟨moments, last, after, length, ran, passes⟩ := run_recordActivity stage outcome holds brisk
    have added := success_zipWith_record recorded moments length
    refine ⟨after, _, ran, passes, ?_, ?_⟩
    · rw [List.map_append, added]
    · intro now
      rw [← added, ← List.map_append]
      exact Session.toolSuccessRate_eq (by rfl) now

/-- An agent with a tool that looks for something. -/
def findingProfile : Agent.Profile :=
  ⟨"key", some [⟨"find", "Look for something.", Chat.ToolDefinition.noParameters⟩], .never, 3⟩

/-- A way on which the tool is called and finds nothing. -/
def findingWay : List (Exchange Agent.Call Agent.Answer) :=
  let call : Chat.ToolCall := ⟨"1", "find", []⟩
  let opening := Agent.Profile.opening jsonTask
  let worked := opening ++ [.assistant "" [call], .toolAnswer "1" "Error: none were found"]
  [ ⟨.chat (findingProfile.request jsonTask opening), .answered ⟨"", [call]⟩ false⟩,
    ⟨.work "find" [], .answered (.str "Error: none were found") false⟩,
    ⟨.chat (findingProfile.request jsonTask worked), .answered ⟨"\x7b\x7d", []⟩ false⟩ ]

/-- The tool succeeds, but what it says starts like a failure and is recorded as one. -/
theorem findingWay_recorded : ∃ outcome,
    (findingProfile.execute jsonTask false).Goes findingWay (.ok (outcome, false)) ∧
    toolOutcomes [] outcome.history = [⟨"find", false, "Error: none were found"⟩] ∧
    ∃ after later, World.run (.reciting fun _ => none) (recordActivity "session-0" .overview outcome).run
        attendedWorld = (.ok (), after) ∧
      attendedWorld.Passes (.reciting fun _ => none) freshSession after later ∧
      ∀ now, (later.summary now).map Session.Summary.toolSuccessRate = .ok (Session.rate [false]) := by
  obtain ⟨outcome, goes, told⟩ : ∃ outcome,
      (findingProfile.execute jsonTask false).Goes findingWay (.ok (outcome, false)) ∧
      toolOutcomes [] outcome.history = [⟨"find", false, "Error: none were found"⟩] :=
    ⟨_, .call _ (.call _ (.call _ (.done _))), by decide +kernel⟩
  have holds : attendedWorld.Holds (.reciting fun _ => none) freshSession := ⟨by decide, by decide⟩
  have brisk : attendedWorld.IsBrisk (.reciting fun _ => none) := fun _ => Int.le_refl 0
  obtain ⟨-, recorded⟩ := successes_account rfl goes
  obtain ⟨after, later, ran, passes, flags, rated⟩ := recorded .overview holds brisk
  refine ⟨outcome, goes, told, after, later, ran, passes, fun now => ?_⟩
  rw [rated, told]
  rfl

end Analysis

end RepoSurvey

import RepoSurvey.Chat.Tool
import RepoSurvey.Proofs.Activity.Keeps
import RepoSurvey.Proofs.Agent.Transcript
import RepoSurvey.Proofs.Outcomes

/-!
# Handling of tool calls

Every tool call of a reply is told about in one message, in the order of the calls: with the data that its tool
delivers, or with a report after a mark (`Handled`). Only two things break the agent down in between: a schema with
which the arguments cannot be checked, and data that cannot be written (`Breaks`). `execute_handles` says so of
whole executions, whatever the model, the tools, the decisions about turns and the abort signal do; where all
schemas are regular and all data can be written, work always comes back. `Profile.keeps_hearing` says the same on
terms about what the model says and what tools deliver: what an agent comes back with it has heard from its model,
unless it comes back with nothing.

The arguments of a tool call are checked with a schema that anybody may have written. `ToolDefinition.IsRegular`
says what it takes for the check to come to an end with every arguments; nothing is claimed about schemas of other
shapes, with which some arguments can be checked and others cannot.
-/

/-! ## Regular schemas -/

namespace RepoSurvey.Chat.ToolDefinition

open Json (ShapeFault)

/-- Whether a value can be a required name: arrays and objects cannot, nor can integers that are too long to be
written. -/
def IsName (value : Json) : Prop := (∀ items, value ≠ .arr items) ∧ (∀ members, value ≠ .obj members) ∧
  value.integersFit = true

/-- Whether arguments can be checked with the schema of a tool: what is required has parts that can be names, and
the properties are an object of objects. -/
def IsRegular (definition : ToolDefinition) : Prop :=
  (∃ names, ((Json.lookup "required" definition.parameters).getD (.arr [])).parts = .ok names ∧
      ∀ name ∈ names, IsName name) ∧
    ∃ members, (Json.lookup "properties" definition.parameters).getD (.obj []) = .obj members ∧
      ∀ name property, Json.lookup name members = some property -> ∃ inner, property = .obj inner

/-- Names that are missing can be told. -/
theorem exists_missingProblems (arguments : List (String × Json)) {names : List Json}
    (areNames : ∀ name ∈ names, IsName name) : ∃ problems, missingProblems arguments names = .ok problems := by
  induction names with
  | nil => exact ⟨[], rfl⟩
  | cons name names inductionHypothesis =>
    obtain ⟨⟨noArray, noObject, fits⟩, rest⟩ := List.forall_mem_cons.mp areNames
    obtain ⟨problems, isProblems⟩ := inductionHypothesis rest
    have present : ∃ present, missingProblems arguments (name :: names) = (do
        if !present && !name.integersFit then throw .overlongInteger
        let problems <- missingProblems arguments names
        pure (if present then problems
          else ("missing required parameter '" ++ name.display ++ "'") :: problems)) := by
      cases name with
      | arr items => exact absurd rfl (noArray items)
      | obj members => exact absurd rfl (noObject members)
      | str text => exact ⟨(Json.lookup text arguments).isSome, by simp only [missingProblems, pure_bind]⟩
      | _ => exact ⟨false, by simp only [missingProblems, pure_bind]⟩
    obtain ⟨present, isPresent⟩ := present
    rw [isPresent, isProblems, fits, Bool.not_true, Bool.and_false]
    exact ⟨_, rfl⟩

/-- Properties of wrong types can be told. -/
theorem exists_typeProblems (arguments : List (String × Json)) {members : List (String × Json)}
    (areObjects : ∀ name property, Json.lookup name members = some property -> ∃ inner, property = .obj inner) :
    ∃ problems, typeProblems (.obj members) arguments = .ok problems := by
  induction arguments with
  | nil => exact ⟨[], rfl⟩
  | cons argument arguments inductionHypothesis =>
    obtain ⟨name, value⟩ := argument
    obtain ⟨problems, isProblems⟩ := inductionHypothesis
    obtain ⟨inner, isInner⟩ : ∃ inner, (Json.lookup name members).getD (.obj []) = .obj inner := by
      cases found : Json.lookup name members with
      | none => exact ⟨[], rfl⟩
      | some property => exact areObjects name property found
    have member : Json.memberOf (.obj members) name = .ok (Json.lookup name members) := rfl
    have kind : Json.memberOf (.obj inner) "type" = .ok (Json.lookup "type" inner) := rfl
    simp only [typeProblems, member, ok_bind, isInner, kind, isProblems]
    exact ⟨_, rfl⟩

/-- With a regular schema all arguments can be checked. -/
theorem IsRegular.exists_argumentProblems {definition : ToolDefinition} (regular : definition.IsRegular)
    (arguments : List (String × Json)) : ∃ problems, definition.argumentProblems arguments = .ok problems := by
  obtain ⟨⟨names, isNames, areNames⟩, members, isMembers, areObjects⟩ := regular
  obtain ⟨missing, isMissing⟩ := exists_missingProblems arguments areNames
  obtain ⟨mistyped, isMistyped⟩ := exists_typeProblems arguments areObjects
  simp only [argumentProblems, isNames, ok_bind, isMissing, isMembers, isMistyped]
  exact ⟨_, rfl⟩

end RepoSurvey.Chat.ToolDefinition

namespace RepoSurvey.Chat

/-- Failures are told after a mark. -/
theorem ToolResult.told_failed {report : String} (isSome : report ≠ "") :
    (ToolResult.failed report).told = .ok ("Error: " ++ report) := by
  unfold told content failed
  simp only [Bool.false_and, Bool.false_eq_true, if_false]

/-- Data that can be written is told as it is. -/
theorem ToolResult.told_succeeded {data : Json} (fits : data.integersFit = true) :
    (ToolResult.succeeded data).told = .ok (ToolResult.succeeded data).content := by
  unfold told succeeded
  rw [fits]
  rfl

/-- Data that cannot be written is not told. -/
theorem ToolResult.told_overlong {data : Json} (overlong : data.integersFit = false) :
    (ToolResult.succeeded data).told = .error .overlongInteger := by
  unfold told succeeded
  rw [overlong]
  rfl

end RepoSurvey.Chat

namespace RepoSurvey.Agent

open Activity (Exchange Goes goes_done goes_call goes_bind)
open Chat (Message ToolCall ToolDefinition ToolResult)
open Json (ShapeFault)

/-! ## Single calls -/

/-- The tool of a call. -/
def Profile.tool? (profile : Profile) (call : ToolCall) : Option ToolDefinition :=
  profile.registry.bind (·.find? call.name)

/-- The way of a tool that is put to work. -/
def working (call : ToolCall) (delivery : Delivery Json) : List (Exchange Call Answer) :=
  [⟨.work call.name call.arguments, delivery⟩]

/-- What can be the trouble with a tool call: the way on which it comes up, and the report. The truth values say
whether the signal had fired before and whether it has fired then. -/
inductive Trouble (profile : Profile) (call : ToolCall) :
    Bool -> List (Exchange Call Answer) -> (report : String) -> Bool -> Prop where
  /-- There is no such tool. -/
  | unknown {fired : Bool} (none : profile.tool? call = none) :
      Trouble profile call fired [] ("tool \"" ++ call.name ++ "\" not found") fired
  /-- The arguments do not suit the schema. -/
  | unsuited {fired : Bool} {definition : ToolDefinition} {problems : List String}
      (found : profile.tool? call = some definition)
      (are : definition.argumentProblems call.arguments = .ok problems) (some : problems ≠ []) :
      Trouble profile call fired [] ("invalid arguments for " ++ call.name ++ ": " ++
        String.intercalate "; " problems) fired
  /-- The signal had fired before. -/
  | tooLate {definition : ToolDefinition} (found : profile.tool? call = some definition)
      (suits : definition.argumentProblems call.arguments = .ok []) :
      Trouble profile call true [] ("Tool '" ++ call.name ++ "' failed: " ++ abortedBefore) true
  /-- The tool failed. -/
  | failed {definition : ToolDefinition} (found : profile.tool? call = some definition)
      (suits : definition.argumentProblems call.arguments = .ok []) (report : String) (fired : Bool) :
      Trouble profile call false (working call (.refused report fired))
        ("Tool '" ++ call.name ++ "' failed: " ++ report) fired
  /-- The signal fired before the tool came back. -/
  | cutOff {definition : ToolDefinition} (found : profile.tool? call = some definition)
      (suits : definition.argumentProblems call.arguments = .ok []) :
      Trouble profile call false (working call .cutOff)
        ("Tool '" ++ call.name ++ "' failed: " ++ abortedMeanwhile) true

/-- How a tool call is handled: the way on which it is, and what is told about it. The truth values are those of
`Trouble`. -/
inductive Handled (profile : Profile) (call : ToolCall) :
    Bool -> List (Exchange Call Answer) -> (told : String) -> Bool -> Prop where
  /-- Trouble is told after a mark. -/
  | troubled {before after : Bool} {way : List (Exchange Call Answer)} {report : String}
      (trouble : Trouble profile call before way report after) :
      Handled profile call before way ("Error: " ++ report) after
  /-- Data is told as it is. -/
  | delivered {definition : ToolDefinition} (found : profile.tool? call = some definition)
      (suits : definition.argumentProblems call.arguments = .ok []) (data : Json) (fired : Bool)
      (fits : data.integersFit = true) :
      Handled profile call false (working call (.answered data fired)) (ToolResult.succeeded data).content fired

/-- How a tool call breaks the agent down. -/
inductive Breaks (profile : Profile) (call : ToolCall) : Bool -> List (Exchange Call Answer) -> ShapeFault -> Prop where
  /-- The arguments cannot be checked with the schema. -/
  | schema {fired : Bool} {definition : ToolDefinition} {fault : ShapeFault}
      (found : profile.tool? call = some definition)
      (strange : definition.argumentProblems call.arguments = .error fault) : Breaks profile call fired [] fault
  /-- The data cannot be written. -/
  | data {definition : ToolDefinition} (found : profile.tool? call = some definition)
      (suits : definition.argumentProblems call.arguments = .ok []) (data : Json) (fired : Bool)
      (overlong : data.integersFit = false) :
      Breaks profile call false (working call (.answered data fired)) .overlongInteger

namespace Profile

variable {profile : Profile} {call : ToolCall} {calls : List ToolCall} {before after : Bool}
  {way : List (Exchange Call Answer)}

/-- A tool call is handled, or it breaks the agent down. -/
theorem handles_of_runTool {ending : Except ShapeFault (ToolResult × Bool)}
    (goes : (profile.runTool call before).Goes way ending) :
    (∃ result told after, ending = .ok (result, after) ∧ result.told = .ok told ∧
        Handled profile call before way told after) ∨
      ∃ fault, (ending = .error fault ∨ ∃ result after, ending = .ok (result, after) ∧ result.told = .error fault) ∧
        Breaks profile call before way fault := by
  have isSome : ∀ {first second third : String}, first ≠ "" -> first ++ second ++ third ≠ "" := fun isSome none =>
    isSome (String.append_eq_empty_iff.mp (String.append_eq_empty_iff.mp none).1).1
  have failure : ∀ report, toolFailure call.name report = .failed ("Tool '" ++ call.name ++ "' failed: " ++ report) :=
    fun _ => rfl
  have isFailure : ∀ report, "Tool '" ++ call.name ++ "' failed: " ++ report ≠ "" := fun report none =>
    isSome (by decide) (String.append_eq_empty_iff.mp none).1
  unfold runTool at goes
  split at goes
  · next none =>
    obtain ⟨rfl, rfl⟩ := goes_done.mp goes
    exact .inl ⟨_, _, before, rfl, ToolResult.told_failed (isSome (by decide)), .troubled (.unknown none)⟩
  · next definition found =>
    split at goes
    · next fault strange =>
      obtain ⟨rfl, rfl⟩ := goes_done.mp goes
      exact .inr ⟨fault, .inl rfl, .schema found strange⟩
    · next problem problems are =>
      obtain ⟨rfl, rfl⟩ := goes_done.mp goes
      refine .inl ⟨_, _, before, rfl, ToolResult.told_failed fun none => ?_,
        .troubled (.unsuited found are (List.cons_ne_nil problem problems))⟩
      exact isSome (by decide) (String.append_eq_empty_iff.mp none).1
    · next suits =>
      split at goes
      · obtain ⟨rfl, rfl⟩ := goes_done.mp goes
        next aborted =>
        obtain rfl := aborted
        exact .inl ⟨_, _, true, rfl, ToolResult.told_failed (isFailure _), .troubled (.tooLate found suits)⟩
      · next unaborted =>
        obtain rfl := Bool.not_eq_true _ ▸ unaborted
        obtain ⟨delivery, rest, rfl, onward⟩ := goes_call.mp goes
        cases delivery with
        | answered data fired =>
          obtain ⟨rfl, rfl⟩ := goes_done.mp onward
          cases fits : data.integersFit with
          | true =>
            exact .inl ⟨_, _, fired, rfl, ToolResult.told_succeeded fits, .delivered found suits data fired fits⟩
          | false =>
            exact .inr ⟨_, .inr ⟨_, fired, rfl, ToolResult.told_overlong fits⟩, .data found suits data fired fits⟩
        | refused report fired =>
          obtain ⟨rfl, rfl⟩ := goes_done.mp onward
          exact .inl ⟨_, _, fired, rfl, ToolResult.told_failed (isFailure _),
            .troubled (.failed found suits report fired)⟩
        | cutOff =>
          obtain ⟨rfl, rfl⟩ := goes_done.mp onward
          exact .inl ⟨_, _, true, rfl, ToolResult.told_failed (isFailure _), .troubled (.cutOff found suits)⟩

end Profile

/-! ## Calls of a reply -/

/-- A tool call that was handled. -/
structure Handling where
  call : ToolCall
  way : List (Exchange Call Answer)
  told : String

/-- The message in which a tool call is told about. -/
def Handling.message (handling : Handling) : Message := .toolAnswer handling.call.id handling.told

/-- Tool calls that are handled one after another. -/
inductive HandledAll (profile : Profile) : Bool -> List Handling -> Bool -> Prop where
  | nil (fired : Bool) : HandledAll profile fired [] fired
  | cons {before middle after : Bool} {handling : Handling} {handlings : List Handling}
      (first : Handled profile handling.call before handling.way handling.told middle)
      (rest : HandledAll profile middle handlings after) : HandledAll profile before (handling :: handlings) after

/-- Whether tool calls are handled until one of them breaks the agent down. -/
def BreaksAt (profile : Profile) (calls : List ToolCall) (before : Bool) (way : List (Exchange Call Answer))
    (fault : ShapeFault) : Prop :=
  ∃ handlings middle call rest last, calls = handlings.map Handling.call ++ call :: rest ∧
    HandledAll profile before handlings middle ∧ way = handlings.flatMap Handling.way ++ last ∧
    Breaks profile call middle last fault

/-- The tool calls of a reply are all handled, or handled until one of them breaks the agent down. -/
theorem Profile.handles_of_runTools {profile : Profile} {calls : List ToolCall} {before : Bool}
    {way : List (Exchange Call Answer)} {ending : Except ShapeFault (List Message × Bool)}
    (goes : (profile.runTools calls before).Goes way ending) :
    (∃ handlings after, ending = .ok (handlings.map Handling.message, after) ∧
        handlings.map Handling.call = calls ∧ way = handlings.flatMap Handling.way ∧
        HandledAll profile before handlings after) ∨
      ∃ fault, ending = .error fault ∧ BreaksAt profile calls before way fault := by
  induction calls generalizing before way ending with
  | nil =>
    obtain ⟨rfl, rfl⟩ := goes_done.mp goes
    exact .inl ⟨[], before, rfl, rfl, rfl, .nil before⟩
  | cons call calls inductionHypothesis =>
    obtain ⟨first, second, value, rfl, runs, onward⟩ := goes_bind.mp goes
    rcases handles_of_runTool runs with
      ⟨result, told, middle, rfl, isTold, handled⟩ | ⟨fault, rfl | ⟨result, fired, rfl, isTold⟩, breaks⟩
    · simp only [isTold] at onward
      obtain ⟨third, last, value, rfl, others, finishes⟩ := goes_bind.mp onward
      rcases inductionHypothesis others with
        ⟨handlings, after, rfl, rfl, rfl, rest⟩ |
          ⟨fault, rfl, handlings, later, broken, left, final, rfl, rest, rfl, breaks⟩
      · obtain ⟨rfl, rfl⟩ := goes_done.mp finishes
        refine .inl ⟨⟨call, first, told⟩ :: handlings, after, rfl, rfl, ?_, .cons handled rest⟩
        rw [List.append_nil, List.flatMap_cons]
      · obtain ⟨rfl, rfl⟩ := goes_done.mp finishes
        refine .inr ⟨fault, rfl, ⟨call, first, told⟩ :: handlings, later, broken, left, final, rfl,
          .cons handled rest, ?_, breaks⟩
        rw [List.append_nil, List.flatMap_cons, List.append_assoc]
    · obtain ⟨rfl, rfl⟩ := goes_done.mp onward
      exact .inr ⟨fault, rfl, [], before, call, calls, first, rfl, .nil before, List.append_nil first, breaks⟩
    · simp only [isTold] at onward
      obtain ⟨rfl, rfl⟩ := goes_done.mp onward
      exact .inr ⟨fault, rfl, [], before, call, calls, first, rfl, .nil before, List.append_nil first, breaks⟩

/-! ## Executions -/

/-- Whether the tool calls in an iteration are all handled, with a message for each. -/
def Iteration.Handles (profile : Profile) (iteration : Iteration) : Prop :=
  ∀ content first others, iteration.block = some (.working content first others) ->
    ∃ before after handlings, HandledAll profile before handlings after ∧
      handlings.map Handling.call = (first :: others).map Prod.fst ∧
      handlings.map Handling.message = Block.answersTo (first :: others) ∧
      iteration.further = handlings.flatMap Handling.way

/-- The ways in which work can go, from its opening to its end. -/
inductive Execution (profile : Profile) (task : Task) (aborted : Bool) :
    List (Exchange Call Answer) -> Except ShapeFault (Outcome × Bool) -> Prop where
  /-- It comes back. All tool calls are handled. -/
  | returned {iterations : List Iteration} {fired concluded : Bool} {outcome : Outcome}
      (conversation : Conversation profile task profile.maxIterations.toNat (Profile.opening task) aborted
        iterations fired concluded)
      (yields : profile.Yields profile.maxIterations.toNat 0 (Profile.opening task) iterations outcome concluded)
      (handles : ∀ iteration ∈ iterations, iteration.Handles profile) :
      Execution profile task aborted (iterations.flatMap Iteration.exchanges) (.ok (outcome, fired))
  /-- After some iterations a tool call of a reply breaks the agent down. All earlier ones are handled. -/
  | brokeDown {iterations : List Iteration} {reply : Reply} {fired : Bool} {further : List (Exchange Call Answer)}
      {fault : ShapeFault} (less : iterations.length < profile.maxIterations.toNat)
      (conversation : Conversation profile task iterations.length (Profile.opening task) aborted iterations false
        false)
      (handles : ∀ iteration ∈ iterations, iteration.Handles profile)
      (breaks : BreaksAt profile reply.toolCalls fired further fault) :
      Execution profile task aborted (iterations.flatMap Iteration.exchanges ++
        ⟨.chat (profile.request task (Profile.opening task ++ iterations.flatMap Iteration.messages)),
          .answered reply fired⟩ :: further) (.error fault)

/-- In an iteration all tool calls are handled. -/
theorem Takes.handles {profile : Profile} {task : Task} {transcript : List Message} {iteration : Iteration}
    {aborted fired concluded : Bool} (takes : Takes profile task transcript aborted iteration fired concluded) :
    iteration.Handles profile := by
  intro content first others isBlock
  cases takes with
  | worked _ _ _ further before after works =>
    cases isBlock
    rcases Profile.handles_of_runTools works with ⟨handlings, last, same, areCalls, isWay, handled⟩ | ⟨_, same, -⟩
    · obtain ⟨messages, rfl⟩ := Prod.mk.inj (Except.ok.inj same)
      exact ⟨before, _, handlings, handled, areCalls, messages.symm, isWay⟩
    · nomatch same
  | _ => nomatch isBlock

/-- In a conversation all tool calls are handled. -/
theorem Conversation.handles {profile : Profile} {task : Task} {remaining : Nat} {transcript : List Message}
    {iterations : List Iteration} {aborted fired concluded : Bool}
    (conversation : Conversation profile task remaining transcript aborted iterations fired concluded) :
    ∀ iteration ∈ iterations, iteration.Handles profile := by
  induction conversation with
  | spent => exact fun _ member => nomatch member
  | concluded takes => exact List.forall_mem_singleton.mpr takes.handles
  | onward takes rest inductionHypothesis => exact List.forall_mem_cons.mpr ⟨takes.handles, inductionHypothesis⟩

/-- Whether all data that tools deliver on a way can be written. -/
def AllWritable (way : List (Exchange Call Answer)) : Prop := ∀ name arguments data fired,
  (⟨.work name arguments, .answered data fired⟩ : Exchange Call Answer) ∈ way -> data.integersFit = true

variable {profile : Profile} {task : Task} {aborted : Bool} {way : List (Exchange Call Answer)}
  {ending : Except ShapeFault (Outcome × Bool)}

/-- Work goes in one of its ways. -/
theorem execution_of_goes (goes : (profile.execute task aborted).Goes way ending) :
    Execution profile task aborted way ending := by
  cases ending with
  | ok result =>
    obtain ⟨iterations, concluded, conversation, rfl, yields⟩ := conversation_of_goes goes
    exact .returned conversation yields conversation.handles
  | error fault =>
    obtain ⟨iterations, rest, less, conversation, rfl, reply, fired, further, rfl, works⟩ :=
      conversation_of_fault goes
    rcases Profile.handles_of_runTools works with ⟨_, _, same, -⟩ | ⟨_, same, breaks⟩
    · nomatch same
    · obtain rfl := Except.error.inj same
      exact .brokeDown less conversation conversation.handles breaks

/-- Work comes back when all schemas are regular and all data that tools deliver can be written. -/
theorem Execution.returns (execution : Execution profile task aborted way ending)
    (regular : ∀ call definition, profile.tool? call = some definition -> definition.IsRegular)
    (writable : AllWritable way) : ∃ outcome fired, ending = .ok (outcome, fired) := by
  cases execution with
  | returned => exact ⟨_, _, rfl⟩
  | brokeDown less conversation handles breaks =>
    obtain ⟨handlings, middle, call, rest, last, -, -, rfl, breaks⟩ := breaks
    cases breaks with
    | schema found strange =>
      obtain ⟨problems, are⟩ := (regular call _ found).exists_argumentProblems call.arguments
      nomatch strange.symm.trans are
    | data found suits data fired overlong =>
      have fits := writable call.name call.arguments data fired (by simp [working])
      nomatch overlong.symm.trans fits

/-- **Tool calls.** Work comes to an end among any surroundings. Up to there, every tool call is told about in one
message, in the order of the calls, trouble after a mark, and the conversation goes on after them. It ends with an
outcome, or with a fault at a tool call whose schema is strange or whose data cannot be written; it does end with an
outcome if there are no such schemas and no such data. -/
theorem execute_handles {σ : Type} (answer : (request : Call) -> σ -> Answer request × σ) (state : σ)
    (profile : Profile) (task : Task) (aborted : Bool) :
    let way := (profile.execute task aborted).exchanges answer state
    let ending := ((profile.execute task aborted).run answer state).1
    Execution profile task aborted way ending ∧
      ((∀ call definition, profile.tool? call = some definition -> definition.IsRegular) ->
        AllWritable way -> ∃ outcome fired, ending = .ok (outcome, fired)) := by
  intro way ending
  have goes : (profile.execute task aborted).Goes way ending := Activity.goes_run _ state
  exact ⟨execution_of_goes goes, (execution_of_goes goes).returns⟩

/-- Surroundings in which replies are recited, tools deliver nothing and nobody interferes. -/
def reciting : (request : Call) -> List Reply -> Answer request × List Reply
  | .chat _, reply :: replies => (.answered reply false, replies)
  | .chat _, [] => (.cutOff, [])
  | .work _ _, replies => (.answered .null false, replies)
  | .judge _, replies | .pause, replies => (false, replies)

/-- An agent with a tool of some schema. -/
def singleProfile (parameters : List (String × Json)) : Profile :=
  ⟨"key", some [⟨"read_file", "Read a file.", parameters⟩], .never, 3⟩

/-- A task to be answered in JSON. -/
def jsonTask : Task := ⟨"You read code.", "Describe it.", [], true, true⟩

/-- A reply that calls the tool, and one that ends the work. -/
def callingReplies : List Reply := [⟨"", [⟨"call-1", "read_file", [("path", .str "a.py")]⟩]⟩, ⟨"\x7b\x7d", []⟩]

/-- A tool without parameters is told about and the work comes back; a tool whose properties are null breaks the
agent down. -/
theorem callingReplies_handled :
    (∃ outcome fired, (((singleProfile Chat.ToolDefinition.noParameters).execute jsonTask false).run reciting
      callingReplies).1 = .ok (outcome, fired)) ∧
    (((singleProfile [("properties", .null)]).execute jsonTask false).run reciting callingReplies).1 =
      .error (.noOperation "NoneType" "get") := by
  refine ⟨(execute_handles reciting callingReplies (singleProfile Chat.ToolDefinition.noParameters) jsonTask
    false).2 ?_ ?_, rfl⟩
  · intro call definition found
    replace found : [(_ : Chat.ToolDefinition)].find? (fun definition => definition.name == call.name) =
      some definition := found
    obtain rfl := List.mem_singleton.mp (List.mem_of_find?_eq_some found)
    exact ⟨⟨[], rfl, fun _ member => nomatch member⟩, [], rfl, fun _ _ found => nomatch found⟩
  · intro name arguments data fired member
    have isWay : ((singleProfile Chat.ToolDefinition.noParameters).execute jsonTask false).exchanges reciting
      callingReplies = [_, ⟨.work _ _, .answered .null false⟩, ⟨.chat _, _⟩] := rfl
    rw [isWay] at member
    rcases List.mem_cons.mp member with same | member
    · nomatch congrArg Exchange.request same
    rcases List.mem_cons.mp member with same | member
    · cases same
      rfl
    · nomatch congrArg Exchange.request (List.mem_singleton.mp member)

end RepoSurvey.Agent

/-! ## What agents hear -/

namespace RepoSurvey.Agent

open Activity (Exchange Keeps Terms)

/-- Terms on which an agent hears contents of replies and data of tools that are as they should be. It may ask
anything. -/
def hearing (heard : String -> Prop) (delivered : Json -> Prop) : Terms Call Answer where
  told
    | .chat _, delivery => ∀ reply, Delivery.value? delivery = some reply -> heard reply.content
    | .work _ _, delivery => ∀ data, Delivery.value? delivery = some data -> delivered data
    | _, _ => True
  asks _ := True

/-- What can break down an agent: a tool with a strange schema, or data that was delivered and cannot be written. -/
def Profile.IsFragile (profile : Profile) (delivered : Json -> Prop) : Prop :=
  (∃ call definition, profile.tool? call = some definition ∧ ¬definition.IsRegular) ∨
    ∃ data, delivered data ∧ data.integersFit = false

/-- Whether work comes back with what was heard or with nothing, and breaks down only if the agent is fragile. -/
def Profile.EndsHeard (profile : Profile) (heard : String -> Prop) (delivered : Json -> Prop) :
    Except Json.ShapeFault (Outcome × Bool) -> Prop
  | .ok (outcome, _) => outcome.content = "" ∨ heard outcome.content
  | .error _ => profile.IsFragile delivered

section Conversations

variable {profile : Profile} {task : Task} {remaining : Nat} {transcript : List Chat.Message}
  {iterations : List Iteration} {aborted fired concluded : Bool}

/-- In a conversation, iterations add the blocks of their replies. -/
theorem Conversation.added
    (conversation : Conversation profile task remaining transcript aborted iterations fired concluded) :
    ∀ iteration ∈ iterations, iteration.block.map Block.reply = iteration.reply? := by
  induction conversation with
  | spent => exact fun _ member => nomatch member
  | concluded takes => exact List.forall_mem_singleton.mpr takes.added
  | onward takes rest inductionHypothesis => exact List.forall_mem_cons.mpr ⟨takes.added, inductionHypothesis⟩

/-- The content that comes back from a conversation is nothing or that of a reply. -/
theorem Conversation.content {spent : Nat} {outcome : Outcome}
    (conversation : Conversation profile task remaining transcript aborted iterations fired concluded)
    (yields : profile.Yields remaining spent transcript iterations outcome concluded) :
    outcome.content = "" ∨ ∃ asked reply before, reply.content = outcome.content ∧
      (⟨.chat asked, .answered reply before⟩ : Exchange Call Answer) ∈ iterations.flatMap Iteration.exchanges := by
  cases concluded with
  | false =>
    obtain ⟨-, rfl⟩ := yields
    exact .inl rfl
  | true =>
    obtain ⟨earlier, last, block, rfl, isBlock, rfl⟩ := yields
    have isReply : last.reply? = some block.reply := by
      rw [← conversation.added last (by simp), isBlock, Option.map_some]
    obtain ⟨⟨request, delivery⟩, isAsked, isValue⟩ := Option.bind_eq_some_iff.mp isReply
    cases delivery with
    | answered reply before =>
      obtain rfl := Option.some.inj isValue
      exact .inr ⟨request, block.reply, before, rfl, by simp [Iteration.exchanges, isAsked]⟩
    | refused _ _ => nomatch isValue
    | cutOff => nomatch isValue

end Conversations

/-- Work ends with what is heard. -/
theorem Profile.keeps_hearing (profile : Profile) (task : Task) (aborted : Bool) (heard : String -> Prop)
    (delivered : Json -> Prop) :
    (profile.execute task aborted).Keeps (hearing heard delivered) (profile.EndsHeard heard delivered) := by
  refine Activity.keeps_of_goes (fun _ => trivial) fun way ending goes told => ?_
  cases execution_of_goes goes with
  | returned conversation yields handles =>
    refine (conversation.content yields).imp_right ?_
    rintro ⟨asked, reply, before, same, member⟩
    exact same ▸ told _ member reply rfl
  | brokeDown less conversation handles breaks =>
    obtain ⟨handlings, middle, call, rest, last, -, -, rfl, breaks⟩ := breaks
    cases breaks with
    | schema found strange =>
      refine .inl ⟨call, _, found, fun regular => ?_⟩
      obtain ⟨problems, are⟩ := regular.exists_argumentProblems call.arguments
      nomatch strange.symm.trans are
    | data found suits data fired overlong =>
      refine .inr ⟨data, ?_, overlong⟩
      exact told ⟨.work call.name call.arguments, .answered data fired⟩ (by simp [working]) data rfl

end RepoSurvey.Agent

import RepoSurvey.Proofs.Agent.Requests
import RepoSurvey.Proofs.Analysis.Recitals
import RepoSurvey.Proofs.Session.Rooms

/-!
# Records of tool calls

What an agent did is recorded in a session after the fact: the calls and their answers are paired again, by the
identifiers that the model chose for the calls. `recordActivity_account` says what comes of it. Calls of one reply
that have one identifier count as one, with the name of the last and the answer to the first of them. Where the
identifiers of each reply are distinct, there is one record for each answer, under the name of the call that it
answers; identifiers may come again in later replies.
-/

namespace RepoSurvey

namespace Chat

/-- The tool calls of one reply, each with its answer. -/
abbrev Round := List (ToolCall × String)

namespace Round

/-- The calls of a round. -/
def calls (round : Round) : List ToolCall := round.map Prod.fst

/-- The identifiers of the calls of a round. -/
def ids (round : Round) : List String := round.map fun call => call.1.id

/-- The answers of a round, each as a message. -/
def answers (round : Round) : List Message := round.map fun call => .toolAnswer call.1.id call.2

/-- The first call of each identifier. -/
def earliest : Round -> Round
  | [] => []
  | call :: round => call :: (earliest round).filter fun other => other.1.id ≠ call.1.id

/-- The name of the last call of an identifier; that of the call itself if the identifier does not come again. -/
def lastName (round : Round) (call : ToolCall × String) : String :=
  round.foldl (fun name other => if other.1.id = call.1.id then other.1.name else name) call.1.name

/-- The calls that come first are calls of the round, in their order. -/
theorem earliest_sublist (round : Round) : round.earliest.Sublist round := by
  induction round with
  | nil => exact .slnil
  | cons call round inductionHypothesis =>
    apply List.Sublist.cons_cons
    exact List.filter_sublist.trans inductionHypothesis

/-- All calls come first when no identifier comes again. -/
theorem earliest_eq_self {round : Round} (distinct : round.ids.Nodup) : round.earliest = round := by
  induction round with
  | nil => rfl
  | cons call round inductionHypothesis =>
    obtain ⟨fresh, distinct⟩ := List.nodup_cons.mp distinct
    have kept : ∀ other ∈ round, decide (other.1.id ≠ call.1.id) = true := by
      intro other member
      apply decide_eq_true
      intro same
      exact fresh (List.mem_map.mpr ⟨other, member, same⟩)
    rw [earliest, inductionHypothesis distinct, List.filter_eq_self.mpr kept]

/-- The calls that come first have distinct identifiers. -/
theorem nodup_earliest (round : Round) : round.earliest.ids.Nodup := by
  induction round with
  | nil => exact List.nodup_nil
  | cons call round inductionHypothesis =>
    rw [earliest, ids, List.map_cons, List.nodup_cons]
    constructor
    · intro member
      obtain ⟨other, isOther, same⟩ := List.mem_map.mp member
      exact of_decide_eq_true (List.mem_filter.mp isOther).2 same
    · exact (List.filter_sublist.map _).nodup inductionHypothesis

/-- As many calls come first as there are only when no identifier comes again. -/
theorem length_earliest_iff {round : Round} : round.earliest.length = round.length ↔ round.ids.Nodup := by
  constructor
  · intro same
    have all : round.earliest = round := round.earliest_sublist.eq_of_length same
    exact all ▸ round.nodup_earliest
  · intro distinct
    rw [earliest_eq_self distinct]

/-- Where no identifier comes again, the last call of an identifier is the call itself. -/
theorem lastName_eq_self {round : Round} (distinct : round.ids.Nodup) {call : ToolCall × String}
    (member : call ∈ round) : round.lastName call = call.1.name := by
  unfold lastName
  have same : ∀ other ∈ round, other.1.id = call.1.id -> other.1.name = call.1.name := by
    intro other isOther sameId
    rw [List.inj_on_of_nodup_map distinct isOther member sameId]
  clear member distinct
  induction round with
  | nil => rfl
  | cons other round inductionHypothesis =>
    obtain ⟨first, others⟩ := List.forall_mem_cons.mp same
    rw [List.foldl_cons]
    split
    · next isIt => rw [first isIt]; exact inductionHypothesis others
    · exact inductionHypothesis others

end Round

/-- Messages in which the calls of each reply are answered at once, and the rounds of calls and answers in them. -/
inductive HoldRounds : List Message -> List Round -> Prop where
  | nil : HoldRounds [] []
  /-- A message that makes no calls and answers none. -/
  | other {message : Message} {messages : List Message} {rounds : List Round} (silent : message.toolCalls = [])
      (speaks : message.role ≠ .tool) (rest : HoldRounds messages rounds) : HoldRounds (message :: messages) rounds
  /-- A reply and the answers to its calls. -/
  | worked {messages : List Message} {rounds : List Round} (content : String) (round : Round)
      (rest : HoldRounds messages rounds) :
      HoldRounds ((.assistant content round.calls :: round.answers) ++ messages) (round :: rounds)

/-- The messages of a dialogue hold rounds. -/
theorem Dialogue.holdRounds {before after : Bool} {messages : List Message}
    (dialogue : Dialogue before messages after) : ∃ rounds, HoldRounds messages rounds := by
  induction dialogue with
  | nil => exact ⟨[], .nil⟩
  | system content rest inductionHypothesis =>
    obtain ⟨rounds, held⟩ := inductionHypothesis
    exact ⟨rounds, .other rfl (fun isTool => nomatch isTool) held⟩
  | user content rest inductionHypothesis =>
    obtain ⟨rounds, held⟩ := inductionHypothesis
    exact ⟨rounds, .other rfl (fun isTool => nomatch isTool) held⟩
  | spoken content rest inductionHypothesis =>
    obtain ⟨rounds, held⟩ := inductionHypothesis
    exact ⟨rounds, .other rfl (fun isTool => nomatch isTool) held⟩
  | worked content first others rest inductionHypothesis =>
    obtain ⟨rounds, held⟩ := inductionHypothesis
    exact ⟨(first :: others) :: rounds, .worked content (first :: others) held⟩

namespace HoldRounds

variable {messages : List Message} {rounds : List Round}

/-- The answers in messages are those of their rounds. -/
theorem answers (held : HoldRounds messages rounds) :
    messages.filter (fun message => message.role = .tool) = rounds.flatMap Round.answers := by
  induction held with
  | nil => rfl
  | other silent speaks rest inductionHypothesis =>
    rw [List.filter_cons_of_neg (by simpa using speaks), inductionHypothesis]
  | worked content round rest inductionHypothesis =>
    have all : round.answers.filter (fun message => message.role = .tool) = round.answers := by
      apply List.filter_eq_self.mpr
      intro message member
      obtain ⟨call, -, rfl⟩ := List.mem_map.mp member
      rfl
    rw [List.cons_append, List.filter_cons_of_neg (by simp [Message.assistant]), List.filter_append, all,
      inductionHypothesis, List.flatMap_cons]

/-- The calls in messages are those of their rounds. -/
theorem calls (held : HoldRounds messages rounds) :
    messages.flatMap Message.toolCalls = rounds.flatMap Round.calls := by
  induction held with
  | nil => rfl
  | other silent speaks rest inductionHypothesis =>
    rw [List.flatMap_cons, silent, List.nil_append, inductionHypothesis]
  | worked content round rest inductionHypothesis =>
    have none : round.answers.flatMap Message.toolCalls = [] := by
      apply List.flatMap_eq_nil_iff.mpr
      intro message member
      obtain ⟨call, -, rfl⟩ := List.mem_map.mp member
      rfl
    rw [List.cons_append, List.flatMap_cons, List.flatMap_append, none, List.nil_append, inductionHypothesis,
      List.flatMap_cons]
    rfl

end HoldRounds

end Chat

namespace Analysis

open Chat (Dialogue HoldRounds Message Round ToolCall)

/-! ## Names that are awaited -/

namespace Awaited

/-- A call that is awaited has its name under its identifier. -/
theorem name?_await (awaited : Awaited) (call : ToolCall) (id : String) :
    (awaited.await call).name? id = if call.id = id then some call.name else awaited.name? id := by
  unfold await name?
  by_cases same : call.id = id
  · simp [same]
  · rw [if_neg same, List.find?_cons_of_neg (by simpa using same), List.find?_filter]
    congr 2
    funext entry
    by_cases isIt : entry.1 = id
    · simp [isIt, Ne.symm same]
    · simp [isIt]

/-- The name under an identifier is that of the last call of the identifier. -/
theorem name?_awaitAll (calls : List ToolCall) (awaited : Awaited) (id : String) :
    (calls.foldl await awaited).name? id =
      calls.foldl (fun name? call => if call.id = id then some call.name else name?) (awaited.name? id) := by
  induction calls generalizing awaited with
  | nil => rfl
  | cons call calls inductionHypothesis =>
    rw [List.foldl_cons, inductionHypothesis, name?_await, List.foldl_cons]

/-- Of an identifier that is forgotten, no name is known any more. -/
theorem name?_forget (awaited : Awaited) (id other : String) :
    (awaited.forget id).name? other = if other = id then none else awaited.name? other := by
  unfold forget name?
  rw [List.find?_filter]
  by_cases same : other = id
  · simp [same]
  · rw [if_neg same]
    congr 2
    funext entry
    by_cases isIt : entry.1 = other
    · simp [isIt, same]
    · simp [isIt]

/-- Nothing changes when an identifier of no name is forgotten. -/
theorem forget_of_none {awaited : Awaited} {id : String} (none : awaited.name? id = none) :
    awaited.forget id = awaited := by
  apply List.filter_eq_self.mpr
  intro entry member
  have absent := List.find?_eq_none.mp (Option.map_eq_none_iff.mp none) entry member
  simpa using absent

/-- Nothing is awaited any more when all that is awaited has been forgotten. -/
theorem forgetAll_awaitAll (round : Round) :
    round.foldl (fun awaited call => awaited.forget call.1.id) (round.calls.foldl await []) = [] := by
  have awaits : ∀ (calls : List ToolCall) (awaited : Awaited), ∀ entry ∈ calls.foldl await awaited,
      entry ∈ awaited ∨ ∃ call ∈ calls, call.id = entry.1 := by
    intro calls
    induction calls with
    | nil => exact fun _ _ member => .inl member
    | cons call calls inductionHypothesis =>
      intro awaited entry member
      rcases inductionHypothesis _ entry member with earlier | ⟨other, isOther, same⟩
      · rcases List.mem_cons.mp earlier with rfl | earlier
        · exact .inr ⟨call, .head _, rfl⟩
        · exact .inl (List.mem_filter.mp earlier).1
      · exact .inr ⟨other, .tail _ isOther, same⟩
  have forgets : ∀ (round : Round) (awaited : Awaited),
      ∀ entry ∈ round.foldl (fun awaited call => awaited.forget call.1.id) awaited,
        entry ∈ awaited ∧ ∀ call ∈ round, call.1.id ≠ entry.1 := by
    intro round
    induction round with
    | nil => exact fun _ _ member => ⟨member, fun _ isCall => nomatch isCall⟩
    | cons call round inductionHypothesis =>
      intro awaited entry member
      obtain ⟨kept, apart⟩ := inductionHypothesis _ entry member
      obtain ⟨earlier, other⟩ := List.mem_filter.mp kept
      exact ⟨earlier, List.forall_mem_cons.mpr ⟨fun same => by simp [same] at other, apart⟩⟩
  apply List.eq_nil_iff_forall_not_mem.mpr
  intro entry member
  obtain ⟨awaited, apart⟩ := forgets round _ entry member
  rcases awaits _ _ entry awaited with none | ⟨call, isCall, same⟩
  · nomatch none
  · obtain ⟨answered, isAnswered, rfl⟩ := List.mem_map.mp isCall
    exact apart answered isAnswered same

/-- When all calls of a round are awaited, the name under the identifier of one is that of the last. -/
theorem name?_awaitAll_calls {round : Round} {call : ToolCall × String} (member : call ∈ round) :
    (round.calls.foldl await []).name? call.1.id = some (round.lastName call) := by
  have agree : ∀ (round : Round) (name? : Option String) (name : String),
      (call ∈ round ∨ name? = some name) ->
      round.foldl (fun name? other => if other.1.id = call.1.id then some other.1.name else name?) name? =
        some (round.foldl (fun name other => if other.1.id = call.1.id then other.1.name else name) name) := by
    intro round
    induction round with
    | nil =>
      rintro _ _ (member | same)
      · nomatch member
      · exact same
    | cons other round inductionHypothesis =>
      intro name? name begun
      rw [List.foldl_cons, List.foldl_cons]
      by_cases isIt : other.1.id = call.1.id
      · rw [if_pos isIt, if_pos isIt]
        exact inductionHypothesis _ _ (.inr rfl)
      · rw [if_neg isIt, if_neg isIt]
        apply inductionHypothesis
        rcases begun with member | same
        · rcases List.mem_cons.mp member with rfl | later
          · exact absurd rfl isIt
          · exact .inl later
        · exact .inr same
  rw [name?_awaitAll, Round.calls, List.foldl_map]
  exact agree round _ _ (.inl member)

end Awaited

/-! ## What is recorded of a conversation -/

/-- How a call under some name came out, by its answer. -/
def ToolOutcome.told (answer name : String) : ToolOutcome := ⟨name, !answer.startsWith failureMark, answer⟩

/-- How the calls of a round came out, as it is recorded: calls of one identifier count as one, with the name of the
last and the answer to the first of them. -/
def roundOutcomes (round : Round) : List ToolOutcome :=
  round.earliest.map fun call => .told call.2 (round.lastName call)

/-- How the calls of a round came out, one by one. -/
def callOutcomes (round : Round) : List ToolOutcome := round.map fun call => .told call.2 call.1.name

/-- Where the identifiers are distinct, all calls are recorded one by one. -/
theorem roundOutcomes_eq {round : Round} (distinct : round.ids.Nodup) : roundOutcomes round = callOutcomes round := by
  unfold roundOutcomes callOutcomes
  rw [Round.earliest_eq_self distinct]
  apply List.map_congr_left
  intro call member
  rw [Round.lastName_eq_self distinct member]

/-- Of the answers to awaited calls, those count that come first for their identifiers. -/
theorem toolOutcomes_answers (round : Round) (awaited : Awaited) (messages : List Message) :
    toolOutcomes awaited (round.answers ++ messages) =
      (round.earliest.filterMap fun call => (awaited.name? call.1.id).map (.told call.2)) ++
        toolOutcomes (round.foldl (fun awaited call => awaited.forget call.1.id) awaited) messages := by
  induction round generalizing awaited with
  | nil => rfl
  | cons call round inductionHypothesis =>
    have filtered : ∀ names : Awaited, (∀ id, names.name? id = if id = call.1.id then none else awaited.name? id) ->
        ((Round.earliest round).filterMap fun other => (names.name? other.1.id).map (.told other.2)) =
          ((Round.earliest round).filter fun other => other.1.id ≠ call.1.id).filterMap
            fun other => (awaited.name? other.1.id).map (ToolOutcome.told other.2) := by
      intro names agrees
      rw [List.filterMap_filter]
      congr 1
      funext other
      rw [agrees]
      by_cases same : other.1.id = call.1.id <;> simp [same]
    rw [List.foldl_cons, Round.earliest, List.filterMap_cons]
    cases found : awaited.name? call.1.id with
    | none =>
      have skipped : toolOutcomes awaited (Round.answers (call :: round) ++ messages) =
          toolOutcomes awaited (Round.answers round ++ messages) := by
        simp [Round.answers, toolOutcomes, Message.toolAnswer, found]
      rw [skipped, inductionHypothesis, Awaited.forget_of_none found, Option.map_none]
      rw [filtered awaited fun id => ?_]
      split
      · next same => rw [same, found]
      · rfl
    | some name =>
      have recorded : toolOutcomes awaited (Round.answers (call :: round) ++ messages) =
          .told call.2 name :: toolOutcomes (awaited.forget call.1.id) (Round.answers round ++ messages) := by
        simp [Round.answers, toolOutcomes, Message.toolAnswer, found, ToolOutcome.told]
      rw [recorded, inductionHypothesis, Option.map_some, filtered _ (awaited.name?_forget call.1.id), List.cons_append]

/-- What is recorded of messages are the outcomes of their rounds. -/
theorem toolOutcomes_eq {messages : List Message} {rounds : List Round} (held : HoldRounds messages rounds) :
    toolOutcomes [] messages = rounds.flatMap roundOutcomes := by
  induction held with
  | nil => rfl
  | @other message messages rounds silent speaks rest inductionHypothesis =>
    rw [← inductionHypothesis]
    obtain ⟨role, content, calls, answers⟩ := message
    obtain rfl := silent
    cases role with
    | tool => exact absurd rfl speaks
    | _ => simp [toolOutcomes]
  | @worked messages rounds content round rest inductionHypothesis =>
    have known : ((Round.earliest round).filterMap fun call =>
        ((round.calls.foldl Awaited.await []).name? call.1.id).map (.told call.2)) = roundOutcomes round := by
      rw [roundOutcomes, ← List.filterMap_eq_map]
      apply List.filterMap_congr
      intro call member
      rw [Awaited.name?_awaitAll_calls ((Round.earliest_sublist round).subset member)]
      rfl
    calc toolOutcomes [] ((.assistant content round.calls :: round.answers) ++ messages)
        = toolOutcomes (round.calls.foldl Awaited.await []) (round.answers ++ messages) := by
          simp [toolOutcomes, Message.assistant]
      _ = roundOutcomes round ++ toolOutcomes [] messages := by
          rw [toolOutcomes_answers, known, Awaited.forgetAll_awaitAll]
      _ = (round :: rounds).flatMap roundOutcomes := by
          rw [inductionHypothesis, List.flatMap_cons]

/-- At most as many outcomes are recorded as there are calls, and as many only when no identifier comes again within a
round. -/
theorem length_roundOutcomes (rounds : List Round) :
    (rounds.flatMap roundOutcomes).length ≤ (rounds.flatMap Round.calls).length ∧
      ((rounds.flatMap roundOutcomes).length = (rounds.flatMap Round.calls).length ↔
        ∀ round ∈ rounds, round.ids.Nodup) := by
  induction rounds with
  | nil => simp
  | cons round rounds inductionHypothesis =>
    obtain ⟨atMost, allDistinct⟩ := inductionHypothesis
    have fewer : (roundOutcomes round).length ≤ round.calls.length := by
      rw [roundOutcomes, List.length_map, Round.calls, List.length_map]
      exact round.earliest_sublist.length_le
    have distinct : (roundOutcomes round).length = round.calls.length ↔ round.ids.Nodup := by
      rw [roundOutcomes, List.length_map, Round.calls, List.length_map, Round.length_earliest_iff]
    rw [List.flatMap_cons, List.flatMap_cons, List.length_append, List.length_append, List.forall_mem_cons, ← distinct,
      ← allDistinct]
    constructor
    · omega
    · omega

/-- Where the identifiers of each reply are distinct, all calls are recorded one by one. -/
theorem flatMap_roundOutcomes {rounds : List Round} (distinct : ∀ round ∈ rounds, round.ids.Nodup) :
    rounds.flatMap roundOutcomes = rounds.flatMap callOutcomes :=
  List.flatMap_congr fun round member => roundOutcomes_eq (distinct round member)

end Analysis

/-! ## What becomes of the session -/

namespace Session

open Clock (Moment)

/-- A session that was just used. -/
def usedAt (session : Session) (now : Moment) : Session := { session with updatedAt := .ofMoment now }

namespace Table

variable {table : Table} {session : Session} {now : Moment} {update : Session -> Session}

/-- A session that is changed is found as it was changed. -/
theorem find?_modify (keeps : ∀ session, (update session).id = session.id) (id : String) :
    (table.modify id update).find? id = (table.find? id).map update := by
  have same : ((fun session : Session => session.id == id) ∘
      fun session => if session.id = id then update session else session) = fun session => session.id == id := by
    funext session
    by_cases isIt : session.id = id <;> simp [isIt, keeps]
  unfold modify find?
  rw [List.find?_map, same]
  cases found : table.sessions.find? fun session => session.id == id with
  | none => rfl
  | some session =>
    have isIt : session.id = id := by simpa using List.find?_some found
    rw [Option.map_some, Option.map_some, if_pos isIt]

/-- A session that is found and is not over is changed. -/
theorem change_found (keeps : ∀ session, (update session).id = session.id)
    (found : table.find? session.id = some session) (lasts : table.isOver now session = false) :
    (table.change session.id now update).2.find? session.id = some (update (session.usedAt now)) ∧
      (table.change session.id now update).2.timeLimit = table.timeLimit := by
  have changed : table.change session.id now update =
      (true, (table.modify session.id (usedAt · now)).modify session.id update) := by
    rw [change, access, found]
    dsimp only
    rw [lasts]
    rfl
  rw [changed]
  constructor
  · have used : (table.modify session.id (usedAt · now)).find? session.id = some (session.usedAt now) := by
      rw [@find?_modify table (usedAt · now) fun _ => rfl, found, Option.map_some]
    rw [find?_modify keeps, used, Option.map_some]
  · rfl

end Table

end Session

namespace Analysis

open Activity (Exchange)
open Chat (Dialogue HoldRounds Round)
open Clock (Moment)
open Session (ToolRecord)

/-- The record of how a call came out. -/
def ToolOutcome.record (outcome : ToolOutcome) (now : Moment) : ToolRecord :=
  Session.Table.toolRecord outcome.toolName outcome.success outcome.summary now

section Recording

variable {σ : Type} {surroundings : Surroundings σ} {world : World σ} {session : Session}

/-- Whether a session is live: it is found, and it will not be over at the next call. -/
structure World.Holds (surroundings : Surroundings σ) (world : World σ) (session : Session) : Prop where
  found : world.sessions.find? session.id = some session
  lasts : world.sessions.isOver (world.next surroundings) session = false

/-- Whether no call takes longer than sessions may stand unused. -/
def World.IsBrisk (surroundings : Surroundings σ) (world : World σ) : Prop :=
  ∀ state, ((surroundings.elapsed state).1 : Int) ≤ world.sessions.timeLimit

/-- Whether one world came of another in which a session was live: the session is still live in some later state, and
all other sessions were left alone. -/
structure World.Passes (surroundings : Surroundings σ) (world : World σ) (session : Session) (after : World σ)
    (later : Session) : Prop where
  holds : after.Holds surroundings later
  brisk : after.IsBrisk surroundings
  others : after.sessions.remove session.id = world.sessions.remove session.id

/-- A request that changes a live session leaves it live as it was changed. -/
theorem World.Holds.changed (holds : world.Holds surroundings session) (brisk : world.IsBrisk surroundings)
    (asked : Session.Request) (update : Session -> Session) (keeps : ∀ session, (update session).id = session.id)
    (unused : ∀ session, (update session).updatedAt = session.updatedAt)
    (changes : (Session.Table.answer (world.next surroundings) asked world.sessions).2 =
      (world.sessions.change session.id (world.next surroundings) update).2) :
    world.Passes surroundings session (world.answer surroundings (.session asked)).2
      (update (session.usedAt (world.next surroundings))) := by
  obtain ⟨found, limit⟩ := Session.Table.change_found keeps holds.found holds.lasts
  have sessions : (world.answer surroundings (.session asked)).2.sessions =
      (world.sessions.change session.id (world.next surroundings) update).2 := changes
  have brisker : (world.answer surroundings (.session asked)).2.IsBrisk surroundings := by
    intro state
    rw [sessions, limit]
    exact brisk state
  constructor
  · constructor
    · rw [sessions, keeps]
      exact found
    · have pause := brisker (world.answer surroundings (.session asked)).2.outside
      apply decide_eq_false
      rw [unused, World.next, World.clock_answer]
      simp only [Session.usedAt, Clock.Timestamp.ofMoment, Moment.since, Moment.after]
      omega
  · exact brisker
  · rw [sessions]
    exact Session.Table.remove_change keeps

/-- Outcomes that are recorded in a live session are added to its records, in their order. -/
theorem run_recordTools (outcomes : List ToolOutcome) (holds : world.Holds surroundings session)
    (brisk : world.IsBrisk surroundings) :
    ∃ (moments : List Moment) (used : Clock.Timestamp) (after : World σ), moments.length = outcomes.length ∧
      World.run surroundings (recordTools session.id outcomes).run world = (.ok (), after) ∧
      world.Passes surroundings session after { session with
        updatedAt := used
        toolRecords := session.toolRecords ++ List.zipWith ToolOutcome.record outcomes moments } := by
  induction outcomes generalizing world session with
  | nil => exact ⟨[], session.updatedAt, world, rfl, rfl, by simpa using holds, brisk, rfl⟩
  | cons outcome outcomes inductionHypothesis =>
    let now := world.next surroundings
    let asked := Session.Request.toolRecord session.id outcome.toolName outcome.success outcome.summary
    have first := holds.changed brisk asked (Session.Table.addToolRecord (outcome.record now))
      (fun _ => rfl) (fun _ => rfl) rfl
    obtain ⟨moments, used, after, length, ran, later⟩ := inductionHypothesis first.holds first.brisk
    refine ⟨now :: moments, used, after, congrArg Nat.succ length, ran, ?_, later.brisk,
      later.others.trans first.others⟩
    have together : session.toolRecords ++ List.zipWith ToolOutcome.record (outcome :: outcomes) (now :: moments) =
        session.toolRecords ++ [outcome.record now] ++ List.zipWith ToolOutcome.record outcomes moments := by
      rw [List.zipWith_cons_cons, List.append_assoc, List.singleton_append]
    rw [together]
    exact later.holds

/-- What is recorded of an agent in a live session are the outcomes that its history shows, in their order, and a remark
about the stage. Other sessions are left alone. -/
theorem run_recordActivity (stage : Stage) (outcome : Agent.Outcome) (holds : world.Holds surroundings session)
    (brisk : world.IsBrisk surroundings) :
    ∃ (moments : List Moment) (last : Moment) (after : World σ),
      moments.length = (toolOutcomes [] outcome.history).length ∧
      World.run surroundings (recordActivity session.id stage outcome).run world = (.ok (), after) ∧
      world.Passes surroundings session after { session with
        updatedAt := .ofMoment last
        remarks := session.remarks ++ [⟨"assistant", activityLine stage outcome, .ofMoment last⟩]
        toolRecords := session.toolRecords ++
          List.zipWith ToolOutcome.record (toolOutcomes [] outcome.history) moments } := by
  obtain ⟨moments, used, middle, length, ran, recorded⟩ :=
    run_recordTools (toolOutcomes [] outcome.history) holds brisk
  let last := middle.next surroundings
  let line := activityLine stage outcome
  have remarked := recorded.holds.changed recorded.brisk (.remark session.id "assistant" line)
    (Session.Table.addRemark ⟨"assistant", line, .ofMoment last⟩) (fun _ => rfl) (fun _ => rfl) rfl
  refine ⟨moments, last, _, length, ?_, remarked.holds, remarked.brisk, remarked.others.trans recorded.others⟩
  rw [World.run] at ran ⊢
  rw [recordActivity, Activity.run_then, Activity.run_bind, ran]
  rfl

end Recording

/-- **Records of agents.** The history of an agent's work holds rounds, each the calls of one reply with the answers to
them. What is recorded of it are the outcomes of these rounds: of several calls of one identifier in a reply there is
one record, with the name of the last and the answer to the first of them. If the identifiers of each reply are
distinct, then every answer is recorded under the name of the call that it answers; and only then are there as many
records as tool calls. In a session that is live, just these records are added, in their order, before a remark. -/
theorem recordActivity_account {profile : Agent.Profile} {task : Agent.Task} {aborted fired waits : Bool}
    {way : List (Exchange Agent.Call Agent.Answer)} {outcome : Agent.Outcome}
    (dialogue : Dialogue false task.history waits)
    (goes : (profile.execute task aborted).Goes way (.ok (outcome, fired))) :
    (∃ rounds : List Round, HoldRounds outcome.history rounds ∧
      outcome.history.filter (fun message => message.role = .tool) = rounds.flatMap Round.answers ∧
      toolOutcomes [] outcome.history = rounds.flatMap roundOutcomes ∧
      ((∀ round ∈ rounds, round.ids.Nodup) -> toolOutcomes [] outcome.history = rounds.flatMap callOutcomes) ∧
      ((toolOutcomes [] outcome.history).length = outcome.toolCallCount ↔ ∀ round ∈ rounds, round.ids.Nodup)) ∧
    ∀ {σ : Type} {surroundings : Surroundings σ} {world : World σ} {session : Session} (stage : Stage),
      world.Holds surroundings session -> world.IsBrisk surroundings ->
      ∃ (moments : List Moment) (last : Moment) (after : World σ),
        moments.length = (toolOutcomes [] outcome.history).length ∧
        World.run surroundings (recordActivity session.id stage outcome).run world = (.ok (), after) ∧
        world.Passes surroundings session after { session with
          updatedAt := .ofMoment last
          remarks := session.remarks ++ [⟨"assistant", activityLine stage outcome, .ofMoment last⟩]
          toolRecords := session.toolRecords ++
            List.zipWith ToolOutcome.record (toolOutcomes [] outcome.history) moments } := by
  constructor
  · obtain ⟨_, whole⟩ := (Agent.dialogue_of_execute dialogue goes).2
    obtain ⟨rounds, held⟩ := whole.holdRounds
    have recorded := toolOutcomes_eq held
    have counted : outcome.toolCallCount = (rounds.flatMap Round.calls).length := by
      rw [Agent.Outcome.toolCallCount, ← held.calls, List.length_flatMap]
    refine ⟨rounds, held, held.answers, recorded, ?_, ?_⟩
    · intro distinct
      rw [recorded, flatMap_roundOutcomes distinct]
    · rw [recorded, counted]
      exact (length_roundOutcomes rounds).2
  · intro σ surroundings world session stage holds brisk
    exact run_recordActivity stage outcome holds brisk

/-- A task that asks for JSON. -/
def jsonTask : Agent.Task := { Agent.plainTask with jsonOutput := true }

/-- Two calls of one identifier. -/
def twinCalls : Round :=
  [(⟨"1", "a", []⟩, "Error: tool \"a\" not found"), (⟨"1", "b", []⟩, "Error: tool \"b\" not found")]

/-- A way on which two calls of one identifier are made in one reply. -/
def twinReplies : List (Exchange Agent.Call Agent.Answer) :=
  let opening := Agent.Profile.opening jsonTask
  let worked := opening ++ .assistant "" twinCalls.calls :: twinCalls.answers
  [ ⟨.chat (Agent.untooledProfile.request jsonTask opening), .answered ⟨"", twinCalls.calls⟩ false⟩,
    ⟨.chat (Agent.untooledProfile.request jsonTask worked), .answered ⟨"\x7b\x7d", []⟩ false⟩ ]

/-- A session that was just created. -/
def freshSession : Session := ⟨"session-0", "repo", "goal", .ofMoment ⟨0⟩, .ofMoment ⟨0⟩, [], [], []⟩

/-- A world with that session, in which no time passes. -/
def attendedWorld : World (List String) := { World.untouched [] with sessions := ⟨1, 0, [freshSession]⟩ }

/-- Of the two calls of one identifier one is recorded, under the name of the other. -/
theorem twinCalls_recorded : Dialogue false jsonTask.history false ∧
    ∃ outcome, (Agent.untooledProfile.execute jsonTask false).Goes twinReplies (.ok (outcome, false)) ∧
      outcome.toolCallCount = 2 ∧
      toolOutcomes [] outcome.history = [⟨"b", false, "Error: tool \"a\" not found"⟩] ∧
      ∃ moments last after, List.length moments = 1 ∧
        World.run (.reciting fun _ => none) (recordActivity "session-0" .overview outcome).run attendedWorld =
          (.ok (), after) ∧
        attendedWorld.Passes (.reciting fun _ => none) freshSession after { freshSession with
          updatedAt := .ofMoment last
          remarks := [⟨"assistant", activityLine .overview outcome, .ofMoment last⟩]
          toolRecords := List.zipWith ToolOutcome.record (toolOutcomes [] outcome.history) moments } := by
  have dialogue : Dialogue false jsonTask.history false := .nil false
  have goes : (Agent.untooledProfile.execute jsonTask false).Goes twinReplies (.ok (_, false)) :=
    .call _ (.call _ (.done _))
  have holds : attendedWorld.Holds (.reciting fun _ => none) freshSession := ⟨by decide, by decide⟩
  have brisk : attendedWorld.IsBrisk (.reciting fun _ => none) := fun _ => Int.le_refl 0
  obtain ⟨-, recorded⟩ := recordActivity_account dialogue goes
  refine ⟨dialogue, _, goes, by rfl, by decide +kernel, ?_⟩
  obtain ⟨moments, last, after, length, ran, passes⟩ := recorded .overview holds brisk
  exact ⟨moments, last, after, length, ran, passes⟩

end Analysis

end RepoSurvey

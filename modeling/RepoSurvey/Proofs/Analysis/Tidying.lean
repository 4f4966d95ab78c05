import RepoSurvey.Proofs.Analysis.Recitals

/-!
# What runs leave of the sessions

A run works in one session. It creates the session under an identifier that was just made up, asks the sessions about
no other, and ends it whatever comes of the work: of what it does with the sessions nothing is left but the room that
was made for its own. `runRequest_tidies` says so for every way in which a run can end.

The identifier that is made up is assumed to be new to the table of sessions.
-/

namespace RepoSurvey.Analysis

open Activity (Abides Answered Exchange)
open Clock (Moment)
open Session (Table)

variable {σ : Type} {surroundings : Surroundings σ} {world after : World σ} {way : List (Exchange Call Answer)}
  {context : Context} {listening : Listening} {request : Request} {id : String}

namespace World

/-- A look into the cache makes up no identifier. -/
theorem identifiers_readCache (surroundings : Surroundings σ) (key : String) (world : World σ) :
    (answer surroundings (.readCache key) world).2.identifiers = world.identifiers := by
  simp only [answer, carryOut, answerCache, orRefusal]
  split <;> rfl

/-- A request to the sessions does to their table at the moment of the call what it does. -/
theorem sessions_session (surroundings : Surroundings σ) (asked : Session.Request) (world : World σ) :
    (answer surroundings (.session asked) world).2.sessions =
      (Table.answer (world.next surroundings) asked world.sessions).2 := rfl

/-- What every request to the sessions on a way leaves alone in their table is left alone by the way. -/
theorem sessions_answered {α : Type} (view : Table -> α) (answered : Answered (answer surroundings) world way after)
    (kept : ∀ exchange ∈ way, ∀ asked, exchange.request = .session asked -> ∀ now table,
      view (Table.answer now asked table).2 = view table) : view after.sessions = view world.sessions := by
  induction answered with
  | nil => rfl
  | @cons world _ _ call rest inductionHypothesis =>
    rw [inductionHypothesis fun exchange member => kept exchange (.tail _ member)]
    cases call with
    | session asked =>
      rw [sessions_session]
      exact kept _ (.head _) asked rfl _ _
    | _ => exact congrArg view (sessions_answer fun _ isSession => (nomatch isSession))

/-- Calls on a way that are about one session leave all others alone. -/
theorem remove_answered (answered : Answered (answer surroundings) world way after)
    (stays : ∀ exchange ∈ way, exchange.request.StaysIn (some id)) :
    after.sessions.remove id = world.sessions.remove id := by
  refine sessions_answered (Table.remove · id) answered fun exchange member asked same now table => ?_
  have isAbout := stays exchange member
  rw [same] at isAbout
  obtain ⟨_, ⟨⟩, isAbout⟩ := isAbout
  exact Table.remove_answer isAbout now table

/-- When a session has been ended, it is gone. -/
theorem sessions_closed {closed : Bool}
    (answered : Answered (answer surroundings) world [⟨.session (.close id), closed⟩] after) :
    after.sessions = world.sessions.remove id := by
  obtain ⟨-, ends⟩ := Activity.answered_cons.mp answered
  rw [Activity.answered_nil.mp ends, sessions_session, Table.close_answer]

/-- Calls on a way of which none is to the sessions leave them alone. -/
theorem sessions_unasked (answered : Answered (answer surroundings) world way after)
    (stays : ∀ exchange ∈ way, exchange.request.StaysIn none) : after.sessions = world.sessions := by
  refine sessions_answered (·) answered fun exchange member asked same => ?_
  have isAbout := stays exchange member
  rw [same] at isAbout
  obtain ⟨_, ⟨⟩, -⟩ := isAbout

end World

/-! ## Parts of runs -/

/-- Whether a call creates a session of an identifier, if there is room. -/
def Call.Creates (id : String) : Call -> Prop
  | .session (.create other _ _) => other = id
  | _ => False

/-- A call about a session that is there already creates none. -/
theorem Call.StaysIn.not_creates {call : Call} {session : Option String} (stays : call.StaysIn session) :
    ¬ call.Creates id := by
  intro creates
  cases call with
  | session asked =>
    obtain ⟨_, -, isAbout⟩ := stays
    cases asked <;> first | exact isAbout | exact creates
  | _ => exact creates

/-- A session is created under the identifier that was made up. -/
theorem creates_of_sessionCreated {created : Except Session.NoRoom Unit} :
    ∀ exchange ∈ sessionCreated context request id created, ∀ other, exchange.request.Creates other ->
      other = "session-" ++ id := by
  unfold sessionCreated
  rw [List.forall_mem_cons, List.forall_mem_singleton]
  exact ⟨fun _ creates => creates.elim, fun _ creates => creates.symm⟩

/-- A run in a session asks the sessions about no other. -/
theorem staysIn_of_outcome {session : String} {outcome : Except Problem Result}
    (goes : ((runIn context listening request session).outcome context).run.Goes way outcome) :
    ∀ exchange ∈ way, exchange.request.StaysIn (some session) := by
  have abides : Abides (Activity.asking Answer (Call.StaysIn (some session)))
      ((runIn context listening request session).outcome context) := by
    refine abides_working (tells_anything fun _ notes => notes.staysIn _) trivial ?_
    exact Running.serves_anything (hosts_of_recorded fun _ _ stays => stays) (fun _ _ stays _ => stays) trivial
      fun _ => trivial
  exact abides.confined goes

/-- The look for a kept result asks the sessions about nothing. -/
theorem staysIn_of_lookUp {checkout : Files.Checkout} {looked : Except Problem (Option Json)}
    (goes : (lookUp checkout request).run.Goes way looked) : ∀ exchange ∈ way, exchange.request.StaysIn none := by
  have abides : Abides (Activity.asking Answer (Call.StaysIn none)) (lookUp checkout request) := abides_looking trivial
  exact abides.confined goes

/-- A rejection asks the sessions about nothing. -/
theorem staysIn_of_rejectRun {problem : Problem} {outcome : Except Problem Result}
    (goes : (rejectRun context listening request problem).run.Goes way outcome) :
    ∀ exchange ∈ way, exchange.request.StaysIn none := by
  obtain ⟨_, reporting, -⟩ := goes_rejectRun goes
  have abides : Abides (Activity.asking Answer (Call.StaysIn none)) (reportFailure context listening
      request.repositoryUrl (Stage.notStarted.name ++ ": " ++ problem.message)) :=
    abides_reportFailure (fun _ notes => notes.staysIn _) _
  exact abides.confined reporting

/-- To give back what is kept asks the sessions about nothing. -/
theorem staysIn_of_giveBack {value : Json} {outcome : Except Problem Result}
    (goes : (giveBack context listening request value).run.Goes way outcome) :
    ∀ exchange ∈ way, exchange.request.StaysIn none := by
  have abides : Abides (Activity.asking Answer (Call.StaysIn none)) (giveBack context listening request value) :=
    abides_returning (tells_anything fun _ notes => notes.staysIn _) value
  exact abides.confined goes

/-- A session is created, or there is no room for it, under an identifier that is made up at that time. -/
theorem created_of_answered {created : Except Session.NoRoom Unit}
    (answered : Answered (World.answer surroundings) world (sessionCreated context request id created) after) :
    id = World.identifier world.identifiers ∧ ∃ now : Moment, world.clock.microseconds ≤ now.microseconds ∧
      now.microseconds ≤ after.clock.microseconds ∧
      (world.sessions.create ("session-" ++ id) sessionGoal (context.checkout request.repositoryPath).path.text now).1 =
        created ∧
      (world.sessions.create ("session-" ++ id) sessionGoal (context.checkout request.repositoryPath).path.text now).2 =
        after.sessions := by
  obtain ⟨isId, creating⟩ := Activity.answered_cons.mp answered
  obtain ⟨isCreated, ends⟩ := Activity.answered_cons.mp creating
  obtain rfl := Activity.answered_nil.mp ends
  refine ⟨isId, (World.answer surroundings .freshId world).2.next surroundings, ?_, ?_, isCreated.symm, rfl⟩
  · have named := World.clock_answer surroundings .freshId world
    exact Int.le_trans (named ▸ World.clock_le_next surroundings world) (World.clock_le_next surroundings _)
  · rw [World.clock_answer]

/-- Nothing but room for its session is left of a run that started, and it created no other. -/
theorem madeRoom_of_startRun {outcome : Except Problem Result}
    (goes : (startRun context listening request).run.Goes way outcome)
    (answered : Answered (World.answer surroundings) world way after)
    (distinct : (world.sessions.sessions.map Session.id).Nodup)
    (fresh : world.sessions.find? ("session-" ++ World.identifier world.identifiers) = none) :
    (∃ now : Moment, world.clock.microseconds ≤ now.microseconds ∧
      now.microseconds ≤ after.clock.microseconds ∧ world.sessions.MadeRoom now after.sessions) ∧
      (∃ exchange ∈ way, ∃ other, exchange.request.Creates other) ∧ ∀ exchange ∈ way, ∀ other,
        exchange.request.Creates other -> other = "session-" ++ World.identifier world.identifiers := by
  obtain ⟨id, ⟨problem, rfl, -⟩ | ⟨working, closed, rfl, worked⟩⟩ := goes_startRun goes
  · obtain ⟨rfl, now, low, high, failed, isAfter⟩ := created_of_answered answered
    refine ⟨⟨now, low, high, ?_⟩, ⟨_, .tail _ (.head _), _, rfl⟩, ?_⟩
    · rw [isAfter.symm.trans (Table.create_error failed)]
      exact Table.madeRoom_roomy distinct now
    · exact creates_of_sessionCreated
  · obtain ⟨started, start, finish⟩ := Activity.answered_append.mp answered
    obtain ⟨ended, workingAnswered, closing⟩ := Activity.answered_append.mp finish
    obtain ⟨rfl, now, low, high, succeeded, isStarted⟩ := created_of_answered start
    have stays := staysIn_of_outcome worked
    refine ⟨⟨now, low, ?_, ?_⟩, ⟨_, .tail _ (.head _), _, rfl⟩, ?_⟩
    · exact Int.le_trans high (World.clock_le_answered finish)
    · have madeRoom := Table.madeRoom_roomy distinct now
      have left := calc after.sessions
        _ = ended.sessions.remove _ := World.sessions_closed closing
        _ = started.sessions.remove _ := World.remove_answered workingAnswered stays
        _ = (world.sessions.roomy now).remove _ := by rw [← isStarted, Table.create_ok succeeded]
        _ = world.sessions.roomy now := Table.remove_of_none (madeRoom.find?_eq_none fresh)
      exact left ▸ madeRoom
    · simp only [List.forall_mem_append, List.forall_mem_singleton]
      exact ⟨creates_of_sessionCreated,
        fun exchange member _ creates => ((stays exchange member).not_creates creates).elim,
        fun _ creates => creates.elim⟩

/-- **The sessions after a run.** However a run ends, no session that it created is left. The table of sessions is
as it was, or the run created a session, for which room was made at some moment: sessions that were over by then are
gone, and as many others as it took, those that were created first. -/
theorem runRequest_tidies {outcome : Except Problem Result}
    (ran : World.run surroundings (runRequest context listening request).run world = (outcome, after))
    (distinct : (world.sessions.sessions.map Session.id).Nodup)
    (fresh : world.sessions.find? ("session-" ++ World.identifier world.identifiers) = none) :
    (∀ exchange ∈ runExchanges surroundings context listening request world, ∀ id,
        exchange.request.Creates id -> after.sessions.find? id = none) ∧
      (after.sessions = world.sessions ∨
        (∃ exchange ∈ runExchanges surroundings context listening request world, ∃ id, exchange.request.Creates id) ∧
          ∃ now : Moment, world.clock.microseconds ≤ now.microseconds ∧ now.microseconds ≤ after.clock.microseconds ∧
            world.sessions.MadeRoom now after.sessions) := by
  obtain ⟨goes, answered⟩ := way_of_run ran
  generalize runExchanges surroundings context listening request world = way at goes answered
  obtain ⟨looking, rest, looked, rfl, look, onward⟩ := goes_runRequest goes
  obtain ⟨middle, start, finish⟩ := Activity.answered_append.mp answered
  have looks := staysIn_of_lookUp look
  have unasked : (∀ exchange ∈ rest, exchange.request.StaysIn none) ->
      (∀ exchange ∈ looking ++ rest, ∀ id, exchange.request.Creates id -> after.sessions.find? id = none) ∧
        after.sessions = world.sessions := fun stays =>
    have stays := List.forall_mem_append.mpr ⟨looks, stays⟩
    ⟨fun exchange member _ creates => ((stays exchange member).not_creates creates).elim,
      World.sessions_unasked answered stays⟩
  rcases looked with problem | (- | value)
  · exact (unasked (staysIn_of_rejectRun onward)).imp_right .inl
  · obtain ⟨kept, rfl⟩ := goes_lookUp_none look
    obtain ⟨-, ends⟩ := Activity.answered_cons.mp start
    obtain rfl := Activity.answered_nil.mp ends
    have sameSessions := World.sessions_unasked start looks
    rw [← World.identifiers_readCache surroundings (resultKey request.repositoryUrl request.analysisType.name) world,
      ← sameSessions] at fresh
    obtain ⟨⟨now, low, high, madeRoom⟩, creation, creates⟩ :=
      madeRoom_of_startRun onward finish (sameSessions ▸ distinct) fresh
    refine ⟨List.forall_mem_cons.mpr ⟨fun _ creates => creates.elim, fun exchange member id isId => ?_⟩,
      .inr ⟨?_, now, Int.le_trans (World.clock_le_answered start) low, high, sameSessions ▸ madeRoom⟩⟩
    · rw [creates exchange member id isId]
      exact madeRoom.find?_eq_none fresh
    · obtain ⟨exchange, member, isCreation⟩ := creation
      exact ⟨exchange, .tail _ member, isCreation⟩
  · exact (unasked (staysIn_of_giveBack onward)).imp_right .inl

/-- A session that was left behind. -/
def leftSession : Session := ⟨"session-left", "repo", sessionGoal, .ofMoment ⟨0⟩, .ofMoment ⟨0⟩, [], [], []⟩

/-- A world in which a session that was left behind takes all the room there is. -/
def crowdedWorld : World (List String) :=
  { World.untouched [] with sessions := ⟨1, Session.defaultTimeLimit, [leftSession]⟩ }

set_option maxRecDepth 100000 in
/-- A run in the crowded world leaves no session at all. -/
theorem sessions_crowdedRun : (World.run (.reciting fun _ => none) emptyRun crowdedWorld).2.sessions =
    ⟨1, Session.defaultTimeLimit, []⟩ := by
  simp only [emptyRun, runRequest, startRun, Running.outcome, Running.course, Running.advance, Running.inspect,
    Running.declaredDependencies, emptyRequest, emptyContext_checkout, ofCheckout_empty]
  decide +kernel

/-- In the crowded world, a run makes room for its own session. -/
theorem crowdedRun_tidies : ∃ now, crowdedWorld.sessions.MadeRoom now
    (World.run (.reciting fun _ => none) emptyRun crowdedWorld).2.sessions := by
  have distinct : (crowdedWorld.sessions.sessions.map Session.id).Nodup := by decide
  have fresh : crowdedWorld.sessions.find? ("session-" ++ World.identifier crowdedWorld.identifiers) = none := by decide
  obtain ⟨-, same | ⟨-, now, -, -, madeRoom⟩⟩ := runRequest_tidies (Prod.eta (World.run _ emptyRun crowdedWorld)).symm
    distinct fresh
  · rw [sessions_crowdedRun] at same
    nomatch same
  · exact ⟨now, madeRoom⟩

end RepoSurvey.Analysis

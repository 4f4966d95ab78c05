import RepoSurvey.Proofs.Analysis.Terms

/-!
# What becomes of the progress record

`emit_cases` says that progress is written without trouble into a cache that is orderly then, unless what
was held in place of the record does not read as one. `holdsRecord_of_emit` and `holdsRecord_of_reportFailure`
say what the record is after progress or a failure was reported. They need that a record that was just made is
still found by the next call: nothing is claimed about lifetimes that are over before that.
-/

namespace RepoSurvey.Analysis

open Activity (Answered Exchange Fares)
open Clock (Moment)
open Store (Cache Lifetime)

variable {σ α : Type} {surroundings : Surroundings σ} {way : List (Exchange Call Answer)}
  {world after : World σ} {url : String} {lifetime : Lifetime}

/-! ## Ways of single calls -/

/-- A look into the cache finds what is kept, unless it is null. -/
theorem goes_readCache_ok {key : String} {found : Option Json} :
    (readCache key).run.Goes way (.ok found) ↔
      ∃ kept, way = [⟨.readCache key, .ok kept⟩] ∧ found = kept.filter (· != .null) := by
  unfold readCache
  rw [Activity.goes_then_value_ok fun _ => rfl]
  exact exists_congr fun kept => and_congr_left' (goes_accepted_ok.trans Activity.goes_ask)

/-- A look into the cache that is served finds what is kept, unless it is null. -/
theorem goes_readCache_of_served {key : String} {outcome : Except Problem (Option Json)} (served : AllServed way)
    (goes : (readCache key).run.Goes way outcome) :
    ∃ kept, way = [⟨.readCache key, .ok kept⟩] ∧ outcome = .ok (kept.filter (· != .null)) := by
  cases outcome with
  | ok found =>
    obtain ⟨kept, isWay, rfl⟩ := goes_readCache_ok.mp goes
    exact ⟨kept, isWay, rfl⟩
  | error problem =>
    obtain ⟨obstacle, asked⟩ := obstacle_of_goes_accepted ((Activity.goes_then_value_error fun _ => rfl).mp goes)
    obtain rfl := Activity.goes_ask.mp asked
    nomatch (served _ (.head _)).choose_spec

/-- A look for the record of a URL is a look into the cache, and what it finds is read at the present moment. -/
theorem goes_get {outcome : Except Problem (Option Progress)} (goes : (Progress.get url).run.Goes way outcome) :
    (∃ problem, (readCache (progressKey url)).run.Goes way (.error problem) ∧ outcome = .error problem) ∨
      (∃ kept, way = [⟨.readCache (progressKey url), .ok kept⟩] ∧ kept.filter (· != .null) = none ∧
        outcome = .ok none) ∨
      ∃ value now, way = [⟨.readCache (progressKey url), .ok (some value)⟩, ⟨.now, now⟩] ∧
        outcome =
          ((((Progress.codec now).read value).toExcept Progress.recordName).mapError Problem.record).map some := by
  unfold Progress.get at goes
  rw [Activity.run_then] at goes
  obtain ⟨looking, rest, looked, rfl, look, onward⟩ := Activity.goes_bind.mp goes
  rcases looked with problem | found
  · obtain ⟨rfl, rfl⟩ := Activity.goes_done.mp onward
    exact .inl ⟨problem, by rwa [List.append_nil], rfl⟩
  · obtain ⟨kept, rfl, rfl⟩ := goes_readCache_ok.mp look
    cases isKept : kept.filter (· != .null) with
    | none =>
      rw [isKept] at onward
      obtain ⟨rfl, rfl⟩ := Activity.goes_value.mp onward
      exact .inr (.inl ⟨kept, rfl, isKept, rfl⟩)
    | some held =>
      rw [isKept] at onward
      obtain ⟨rfl, -⟩ := Option.filter_eq_some_iff.mp isKept
      dsimp only at onward
      rw [Activity.run_then] at onward
      obtain ⟨first, last, seen, rfl, presents, ends⟩ := Activity.goes_bind.mp onward
      obtain ⟨now, asked, rfl⟩ := goes_certain.mp presents
      obtain rfl := Activity.goes_ask.mp asked
      refine .inr (.inr ⟨held, now, ?_⟩)
      dsimp only at ends
      cases read : ((Progress.codec now).read held).toExcept Progress.recordName with
      | ok record =>
        rw [read] at ends
        obtain ⟨rfl, rfl⟩ := Activity.goes_value.mp ends
        exact ⟨rfl, rfl⟩
      | error report =>
        rw [read] at ends
        obtain ⟨rfl, rfl⟩ := Activity.goes_problem.mp ends
        exact ⟨rfl, rfl⟩

/-- The record of a URL is what was found for it and reads as one. -/
theorem goes_get_ok {found : Option Progress}
    (goes : (Progress.get url).run.Goes way (.ok found)) :
    found = none ∧ (∃ kept, way = [⟨.readCache (progressKey url), .ok kept⟩] ∧
        kept.filter (· != .null) = none) ∨
      ∃ value now record, found = some record ∧
        way = [⟨.readCache (progressKey url), .ok (some value)⟩, ⟨.now, now⟩] ∧
        (Progress.codec now).read value = .valid record := by
  rcases goes_get goes with ⟨_, -, same⟩ | ⟨kept, isWay, nothing, same⟩ | ⟨value, now, isWay, same⟩
  · nomatch same
  · exact .inl ⟨Except.ok.inj same, kept, isWay, nothing⟩
  · obtain ⟨record, isRead, rfl⟩ := map_eq_ok.mp same.symm
    exact .inr ⟨value, now, record, rfl, isWay, Schema.Checked.toExcept_eq_ok.mp (mapError_eq_ok.mp isRead)⟩

/-- A look for a record fails only on a value that does not read as one. -/
theorem goes_get_error {problem : Problem} (served : AllServed way)
    (goes : (Progress.get url).run.Goes way (.error problem)) :
    ∃ value now report, way = [⟨.readCache (progressKey url), .ok (some value)⟩, ⟨.now, now⟩] ∧
      (∀ record, (Progress.codec now).read value ≠ .valid record) ∧ problem = .record report := by
  rcases goes_get goes with ⟨_, failed, -⟩ | ⟨_, -, -, same⟩ | ⟨value, now, isWay, same⟩
  · obtain ⟨_, -, same⟩ := goes_readCache_of_served served failed
    nomatch same
  · nomatch same
  · cases read : (Progress.codec now).read value with
    | valid record =>
      rw [read] at same
      nomatch same
    | invalid issues =>
      rw [read] at same
      exact ⟨value, now, _, isWay, by simp [read], Except.error.inj same⟩

/-- A look for a record that succeeds finds none or one that reads. -/
theorem reads_of_get {found : Option Progress}
    (goes : (Progress.get url).run.Goes way (.ok found)) :
    ∃ kept rest, way = ⟨.readCache (progressKey url), .ok kept⟩ :: rest ∧
      ∀ value, kept = some value -> value ≠ .null -> IsRecord (fun _ => True) value := by
  rcases goes_get_ok goes with ⟨-, kept, rfl, nothing⟩ | ⟨value, now, record, -, rfl, read⟩
  · refine ⟨kept, _, rfl, ?_⟩
    rintro value rfl noNull
    simp [noNull] at nothing
  · refine ⟨some value, _, rfl, ?_⟩
    rintro found same - later
    obtain ⟨record, read⟩ := Progress.read_later later read
    exact ⟨record, Option.some.inj same ▸ read, trivial⟩

/-- Writing an event begins with a look for the record, and ends with it if that fails. -/
theorem goes_note {event : Event} {outcome : Except Problem (Option Progress)}
    (goes : (Progress.note lifetime url event).run.Goes way outcome) :
    ∃ first second got, way = first ++ second ∧ (Progress.get url).run.Goes first got ∧
      ∀ problem, got = .error problem -> second = [] ∧ outcome = .error problem := by
  unfold Progress.note at goes
  rw [Activity.run_then] at goes
  obtain ⟨updating, rest, updated, rfl, update, onward⟩ := Activity.goes_bind.mp goes
  unfold Progress.update at update
  rw [Activity.run_then] at update
  obtain ⟨first, second, got, rfl, get, writing⟩ := Activity.goes_bind.mp update
  refine ⟨first, second ++ rest, got, List.append_assoc _ _ _, get, ?_⟩
  rintro problem rfl
  obtain ⟨rfl, rfl⟩ := Activity.goes_done.mp writing
  obtain ⟨rfl, rfl⟩ := Activity.goes_done.mp onward
  exact ⟨rfl, rfl⟩

/-- An event is written without trouble into a cache that is orderly then, or what is held in place of the
record does not read as one. -/
theorem note_cases {event : Event} (inRange : 0 ≤ event.progress ∧ event.progress ≤ 100)
    {outcome : Except Problem (Option Progress)}
    (goes : (Progress.note lifetime url event).run.Goes way outcome)
    (answered : Answered (World.answer surroundings) world way after) (served : AllServed way) :
    ((∃ found, outcome = .ok found) ∧ Orderly (fun _ => True) url after.cache ∧
        ∀ exchange ∈ way, exchange.request.Told (fun _ => True) url exchange.answer) ∨
      ∃ report, outcome = .error (.record report) := by
  obtain ⟨first, second, got, isWay, get, stops⟩ := goes_note goes
  cases got with
  | error problem =>
    obtain ⟨rfl, rfl⟩ := stops problem rfl
    rw [List.append_nil] at isWay
    subst isWay
    obtain ⟨_, _, report, -, -, rfl⟩ := goes_get_error served get
    exact .inr ⟨report, rfl⟩
  | ok found =>
    left
    obtain ⟨kept, rest, rfl, isRecord⟩ := reads_of_get get
    rw [List.cons_append] at isWay
    subst isWay
    have fares : Fares (terms (fun _ => True) url fun _ => True) (fun _ => True) (fun _ => False)
      (Progress.note lifetime url event) := fares_note (fun _ _ => trivial) trivial inRange
    obtain ⟨next, form⟩ : ∃ next, (Progress.note lifetime url event).run =
      .call (.readCache (progressKey url)) next := ⟨_, rfl⟩
    unfold Fares at fares
    rw [form] at fares goes
    obtain ⟨answer, later, same, onward⟩ := Activity.goes_call.mp goes
    cases same
    obtain ⟨isAnswer, restAnswered⟩ := Activity.answered_cons.mp answered
    have isFound := World.cache_get_of_served isAnswer.symm
    have servedFirst := served _ (.head _)
    have told : Call.Told (fun _ => True) url (.readCache (progressKey url)) (.ok kept) :=
      fun _ value found noNull => isRecord value (Except.ok.inj found) noNull
    -- What was looked for is still held afterwards, or nothing is.
    have orderly : Orderly (fun _ => True) url
        (World.answer surroundings (.readCache (progressKey url)) world).2.cache := by
      intro value held noNull
      rw [World.cache_of_served (isAnswer ▸ servedFirst)] at held
      cases kept with
      | none =>
        rw [Call.caching, Cache.held?_get_of_none isFound] at held
        cases held
      | some found =>
        have sameValue := (Cache.held?_get held).symm.trans (Cache.held?_of_get isFound)
        exact isRecord value (congrArg some (Option.some.inj sameValue).symm) noNull
    obtain ⟨toldRest, ending, orderlyAfter⟩ := Activity.Keeps.answered upholds_terms
      (fares.2 _ ⟨servedFirst, told⟩) onward restAnswered orderly
      fun exchange member => served exchange (.tail _ member)
    refine ⟨?_, orderlyAfter, ?_⟩
    · cases outcome with
      | ok found => exact ⟨found, rfl⟩
      | error problem => exact ending.elim
    · intro exchange member
      rcases List.mem_cons.mp member with rfl | member
      · exact told
      · exact (toldRest exchange member).1.2

/-- A listener who is served is told, and nothing else is done. -/
theorem goes_tell_of_served {listening : Listening} {event : Event} {outcome : Except Problem Unit}
    (served : AllServed way) (goes : (listening.tell event).run.Goes way outcome) :
    (∀ exchange ∈ way, exchange.request = .report event) ∧ outcome = .ok () := by
  unfold Listening.tell at goes
  split at goes
  · cases outcome with
    | ok done =>
      obtain rfl := Activity.goes_ask.mp (goes_accepted_ok.mp goes)
      exact ⟨fun exchange member => List.mem_singleton.mp member ▸ rfl, rfl⟩
    | error problem =>
      obtain ⟨obstacle, asked⟩ := obstacle_of_goes_accepted goes
      obtain rfl := Activity.goes_ask.mp asked
      nomatch served _ (.head _)
  · obtain ⟨rfl, same⟩ := Activity.goes_value.mp goes
    exact ⟨fun _ member => (nomatch member), same⟩

/-- Progress is reported and written without trouble into a cache that is orderly then, or what is held in
place of the record does not read as one. -/
theorem emit_cases {context : Context} {listening : Listening} {stage : String} {progress : Int}
    (inRange : 0 ≤ progress ∧ progress ≤ 100) {outcome : Except Problem Unit}
    (goes : (emit context listening url stage progress).run.Goes way outcome)
    (answered : Answered (World.answer surroundings) world way after) (served : AllServed way) :
    (outcome = .ok () ∧ Orderly (fun _ => True) url after.cache ∧
        ∀ exchange ∈ way, exchange.request.Told (fun _ => True) url exchange.answer) ∨
      ∃ report, outcome = .error (.record report) := by
  unfold emit at goes
  rw [Activity.run_then] at goes
  obtain ⟨telling, rest, told, rfl, tell, onward⟩ := Activity.goes_bind.mp goes
  obtain ⟨middle, -, answered⟩ := Activity.answered_append.mp answered
  obtain ⟨servedTelling, servedRest⟩ := allServed_append.mp served
  obtain ⟨reports, rfl⟩ := goes_tell_of_served servedTelling tell
  obtain ⟨noted, note, rfl⟩ := (Activity.goes_then_done fun _ => rfl).mp onward
  rcases note_cases inRange note answered servedRest with ⟨⟨found, rfl⟩, orderly, toldNote⟩ | ⟨report, rfl⟩
  · refine .inl ⟨rfl, orderly, fun exchange member => ?_⟩
    rcases List.mem_append.mp member with member | member
    · obtain ⟨request, answer⟩ := exchange
      obtain rfl := reports _ member
      trivial
    · exact toldNote exchange member
  · exact .inr ⟨report, rfl⟩

/-! ## Records that are held -/

/-- Whether a cache holds a record of some kind under the key of a URL. -/
def HoldsRecord (url : String) (isKind : Progress -> Prop) (cache : Cache) : Prop :=
  ∃ value record, cache.held? (progressKey url) = some value ∧
    (∀ now, (Progress.codec now).read value = .valid record) ∧ isKind record

/-- Whether a record is that of a failure. -/
def Progress.Failed (details : String) (record : Progress) : Prop :=
  record.status = .failed ∧ record.progress = 0 ∧ record.details = some details

/-- Whether a record is one into which an event was written. -/
def Progress.Shows (event : Event) (record : Progress) : Prop :=
  record.stage = event.stage ∧ record.progress = event.progress ∧ record.details = event.details ∧
    record.status = if 100 ≤ event.progress then .completed else .analyzing

/-- What was kept by the last of some exchanges is kept. -/
theorem kept_of_written {key : String} {value : Json} (sound : value.Sound)
    (answered : Answered (World.answer surroundings) world
      (way ++ [⟨.writeCache key value lifetime, .ok ()⟩]) after) :
    after.cache.kept? key =
      some ⟨some value, fun later => lifetime.isOver (later.since after.clock)⟩ := by
  obtain ⟨before, -, answered⟩ := Activity.answered_append.mp answered
  obtain ⟨isAnswer, ends⟩ := Activity.answered_cons.mp answered
  obtain rfl := Activity.answered_nil.mp ends
  have isSet := World.cache_set_of_served isAnswer.symm
  have served : Call.Served (.writeCache key value lifetime)
    (World.answer surroundings (.writeCache key value lifetime) before).1 := isAnswer.symm
  rw [World.cache_of_served served, World.clock_answer]
  exact Cache.kept?_set_self sound (Prod.ext isSet rfl)

/-- Saving a record ends with its being kept. -/
theorem goes_save_ok {record : Progress}
    (goes : (Progress.save lifetime record).run.Goes way (.ok ())) :
    way = [⟨.writeCache (progressKey record.repositoryUrl)
      ((Progress.codec record.updatedAt.reading).write .stored record) lifetime, .ok ()⟩] :=
  Activity.goes_ask.mp (goes_accepted_ok.mp goes)

/-- Creating a record ends with the fresh record's being kept. -/
theorem goes_create_ok {record : Progress}
    (goes : (Progress.create lifetime url).run.Goes way (.ok record)) :
    ∃ id now first, way = first ++ [⟨.writeCache (progressKey url)
        ((Progress.codec now).write .stored (.fresh id url now)) lifetime, .ok ()⟩] := by
  unfold Progress.create at goes
  obtain ⟨naming, _, id, rfl, -, onward⟩ := Activity.goes_then_ok.mp goes
  obtain ⟨looking, _, now, rfl, -, finish⟩ := Activity.goes_then_ok.mp onward
  obtain ⟨_, saved, -⟩ := (Activity.goes_then_value_ok fun _ => rfl).mp finish
  rw [goes_save_ok saved]
  exact ⟨_, now, naming ++ looking, by simp; rfl⟩

/-- Changing a record finds none, or ends with the changed record's being kept. -/
theorem goes_update_ok {changes : List (String × Json)} {change : Progress -> Moment -> Progress}
    {found : Option Progress} (leads : Progress.Leads changes change)
    (goes : (Progress.update lifetime url changes).run.Goes way (.ok found)) (served : AllServed way) :
    found = none ∧ (∃ kept, way = [⟨.readCache (progressKey url), .ok kept⟩] ∧
        kept.filter (· != .null) = none) ∨
      ∃ record later, found = some (change record later) ∧ (change record later).Regular ∧
        ∃ value now rest, (Progress.codec now).read value = .valid record ∧
          way = ⟨.readCache (progressKey url), .ok (some value)⟩ :: rest ++
            [⟨.writeCache (progressKey record.repositoryUrl)
              ((Progress.codec (change record later).updatedAt.reading).write .stored
                (change record later)) lifetime, .ok ()⟩] := by
  unfold Progress.update at goes
  obtain ⟨getting, _, kept, rfl, got, onward⟩ := Activity.goes_then_ok.mp goes
  rcases goes_get_ok got with ⟨rfl, kept, rfl, nothing⟩ | ⟨value, now, record, rfl, rfl, read⟩
  · obtain ⟨rfl, same⟩ := Activity.goes_value.mp onward
    exact .inl ⟨Except.ok.inj same, kept, rfl, nothing⟩
  · obtain ⟨looking, _, later, rfl, looked, finish⟩ := Activity.goes_then_ok.mp onward
    obtain ⟨moment, asked, same⟩ := goes_certain.mp looked
    obtain rfl := Except.ok.inj same
    obtain rfl := Activity.goes_ask.mp asked
    have inCalendar : now.InCalendar := served ⟨.now, now⟩ (by simp)
    have laterInCalendar : later.InCalendar := served ⟨.now, later⟩ (by simp)
    have regular := Progress.regular_of_read inCalendar read
    rw [leads.changed record later regular laterInCalendar] at finish
    obtain ⟨_, saved, same⟩ := (Activity.goes_then_value_ok fun _ => rfl).mp finish
    refine .inr ⟨record, later, same, leads.regular record later regular laterInCalendar,
      value, now, [⟨.now, now⟩, ⟨.now, later⟩], read, ?_⟩
    rw [goes_save_ok saved, leads.sameUrl]
    rfl

/-- Whether a URL has the same progress record as another. -/
def SharesRecord (url other : String) : Prop := progressKey other = progressKey url

/-- A URL shares its record with itself. -/
theorem SharesRecord.refl (url : String) : SharesRecord url url := rfl

/-- An attempt is told what is orderly in an orderly cache, and each of its calls keeps the cache so. -/
theorem orderly_answered {ε : Type} {owned : String -> Prop}
    {attempt : ExceptT ε (Activity Call Answer) α} {outcome : Except ε α} {succeeds : α -> Prop}
    {fails : ε -> Prop} {allowed : Call -> Prop}
    (fares : Fares (terms owned url allowed) succeeds fails attempt)
    (orderly : Orderly owned url world.cache) (goes : attempt.run.Goes way outcome)
    (answered : Answered (World.answer surroundings) world way after) (served : AllServed way) :
    (∀ exchange ∈ way, exchange.request.Told owned url exchange.answer ∧
        exchange.request.KeepsOrder owned url) ∧
      Activity.Ends succeeds fails outcome ∧ Orderly owned url after.cache := by
  obtain ⟨kept, ending, final⟩ :=
    Activity.Keeps.answered upholds_terms fares goes answered orderly served
  exact ⟨fun exchange member => ⟨(kept exchange member).1.2, (kept exchange member).2.2⟩, ending, final⟩

/-- Calls that keep caches orderly leave an orderly cache so. -/
theorem orderly_of_keepsOrder {owned : String -> Prop} (orderly : Orderly owned url world.cache)
    (keepsOrder : ∀ exchange ∈ way, exchange.request.KeepsOrder owned url)
    (answered : Answered (World.answer surroundings) world way after) (served : AllServed way) :
    Orderly owned url after.cache := by
  induction answered with
  | nil => exact orderly
  | cons request rest inductionHypothesis =>
    have asks : (terms owned url fun _ => True).asks request := ⟨trivial, keepsOrder _ (.head _)⟩
    exact inductionHypothesis (upholds_terms request _ orderly asks (served _ (.head _))).2
      (fun exchange member => keepsOrder exchange (.tail _ member))
      fun exchange member => served exchange (.tail _ member)

section Held

variable {changes : List (String × Json)} {change : Progress -> Moment -> Progress}
  {isKind : Progress -> Prop} (leads : Progress.Leads changes change)
  (isChanged : ∀ record now, isKind (change record now))

include leads isChanged

/-- In an orderly cache a record that was changed is held afterwards. -/
theorem holdsRecord_of_update {found : Progress} (orderly : Orderly (SharesRecord url) url world.cache)
    (goes : (Progress.update lifetime url changes).run.Goes way (.ok (some found)))
    (answered : Answered (World.answer surroundings) world way after) (served : AllServed way) :
    HoldsRecord url isKind after.cache := by
  have fares : Fares (terms (SharesRecord url) url fun _ => True) (fun _ => True) (fun _ => True)
    (Progress.update lifetime url changes) := fares_update (fun _ _ => trivial) (.refl url) leads
  have told := (orderly_answered fares orderly goes answered served).1
  rcases goes_update_ok leads goes served with ⟨nothing, -⟩ |
    ⟨record, later, -, regular, value, now, rest, read, rfl⟩
  · nomatch nothing
  · have noNull : value ≠ .null := by
      rintro rfl
      nomatch read
    obtain ⟨other, otherRead, shares⟩ := (told _ (.head _)).1 rfl value rfl noNull now
    obtain rfl := Schema.Checked.valid.inj (read.symm.trans otherRead)
    have kept := kept_of_written (Progress.sound_written _) answered
    rw [shares] at kept
    exact ⟨(Progress.codec (change record later).updatedAt.reading).write .stored (change record later),
      change record later, by rw [Cache.held?, kept]; rfl, Progress.restores regular,
      isChanged record later⟩

/-- In an orderly cache a record that is made and then changed is held afterwards, provided that a record
that was just made is still found by the next call. -/
theorem holdsRecord_of_create {first second : List (Exchange Call Answer)} {fresh : Progress}
    {found : Option Progress} (orderly : Orderly (SharesRecord url) url world.cache)
    (swift : ∀ state, lifetime.isOver (surroundings.elapsed state).1 = .ok false)
    (created : (Progress.create lifetime url).run.Goes first (.ok fresh))
    (updated : (Progress.update lifetime url changes).run.Goes second (.ok found))
    (answered : Answered (World.answer surroundings) world (first ++ second) after)
    (served : AllServed (first ++ second)) : HoldsRecord url isKind after.cache := by
  obtain ⟨made, making, changing⟩ := Activity.answered_append.mp answered
  obtain ⟨servedMaking, servedChanging⟩ := allServed_append.mp served
  have fares : Fares (terms (SharesRecord url) url fun _ => True) (fun _ => True) (fun _ => True)
      (Progress.create lifetime url) := fares_create (fun _ _ => trivial) (.refl url)
  have orderlyThen := (orderly_answered fares orderly created making servedMaking).2.2
  cases found with
  | some record => exact holdsRecord_of_update leads isChanged orderlyThen updated changing servedChanging
  | none =>
    -- The record that was just made would have to be over already.
    obtain ⟨id, now, before, rfl⟩ := goes_create_ok created
    have kept := kept_of_written (Progress.sound_written _) making
    rcases goes_update_ok leads updated servedChanging with ⟨-, looked, rfl, nothing⟩ | ⟨_, _, same, -⟩
    · obtain ⟨isAnswer, -⟩ := Activity.answered_cons.mp changing
      have isFound := World.cache_get_of_served isAnswer.symm
      have elapsed : (made.next surroundings).since made.clock =
          (surroundings.elapsed made.outside).1 := by
        simp only [World.next, Moment.after, Moment.since]
        omega
      rw [Cache.get_fst, kept, Cache.found] at isFound
      simp only [elapsed, swift, Except.ok.injEq] at isFound
      rw [← isFound] at nothing
      cases nothing
    · cases same

/-- In an orderly cache a record that was changed is held afterwards, also when no record was found and one was made
to be changed. -/
theorem holdsRecord_of_change {first second : List (Exchange Call Answer)} {found : Option Progress}
    (orderly : Orderly (SharesRecord url) url world.cache)
    (swift : ∀ state, lifetime.isOver (surroundings.elapsed state).1 = .ok false)
    (updated : (Progress.update lifetime url changes).run.Goes first (.ok found))
    (onward : found.isSome ∧ second = [] ∨ ∃ creating changing fresh again, second = creating ++ changing ∧
      (Progress.create lifetime url).run.Goes creating (.ok fresh) ∧
      (Progress.update lifetime url changes).run.Goes changing (.ok again))
    (answered : Answered (World.answer surroundings) world (first ++ second) after)
    (served : AllServed (first ++ second)) : HoldsRecord url isKind after.cache := by
  rcases onward with ⟨isFound, rfl⟩ | ⟨creating, changing, fresh, again, rfl, created, updatedAgain⟩
  · obtain ⟨record, rfl⟩ := Option.isSome_iff_exists.mp isFound
    rw [List.append_nil] at answered served
    exact holdsRecord_of_update leads isChanged orderly updated answered served
  · obtain ⟨middle, start, finish⟩ := Activity.answered_append.mp answered
    obtain ⟨servedFirst, servedRest⟩ := allServed_append.mp served
    have fares : Fares (terms (SharesRecord url) url fun _ => True) (fun _ => True) (fun _ => True)
        (Progress.update lifetime url changes) := fares_update (fun _ _ => trivial) (.refl url) leads
    have orderlyThen := (orderly_answered fares orderly updated start servedFirst).2.2
    exact holdsRecord_of_create leads isChanged orderlyThen swift created updatedAgain finish servedRest

end Held

/-- After a failure was written down the record of the failure is held. -/
theorem holdsRecord_of_noteFailure {context : Context} {details : String}
    (orderly : Orderly (SharesRecord url) url world.cache)
    (swift : ∀ state, context.progressLifetime.isOver (surroundings.elapsed state).1 = .ok false)
    (goes : (noteFailure context url details).run.Goes way (.ok ()))
    (answered : Answered (World.answer surroundings) world way after) (served : AllServed way) :
    HoldsRecord url (Progress.Failed details) after.cache := by
  unfold noteFailure at goes
  obtain ⟨first, second, found, rfl, marked, onward⟩ := Activity.goes_then_ok.mp goes
  refine holdsRecord_of_change (Progress.leads_failed details) (fun _ _ => ⟨rfl, rfl, rfl⟩) orderly swift marked ?_
    answered served
  cases found with
  | some record =>
    obtain ⟨rfl, -⟩ := Activity.goes_value.mp onward
    exact .inl ⟨rfl, rfl⟩
  | none =>
    obtain ⟨creating, _, fresh, rfl, created, again⟩ := Activity.goes_then_ok.mp onward
    obtain ⟨found, remarked, -⟩ := (Activity.goes_then_value_ok fun _ => rfl).mp again
    exact .inr ⟨creating, _, fresh, found, rfl, created, remarked⟩

/-- After an event was written down the record that shows it is held. -/
theorem holdsRecord_of_note {event : Event} (inRange : 0 ≤ event.progress ∧ event.progress ≤ 100)
    (orderly : Orderly (SharesRecord url) url world.cache)
    (swift : ∀ state, lifetime.isOver (surroundings.elapsed state).1 = .ok false) {found : Option Progress}
    (goes : (Progress.note lifetime url event).run.Goes way (.ok found))
    (answered : Answered (World.answer surroundings) world way after) (served : AllServed way) :
    HoldsRecord url (Progress.Shows event) after.cache := by
  unfold Progress.note at goes
  obtain ⟨first, second, updated, rfl, update, onward⟩ := Activity.goes_then_ok.mp goes
  refine holdsRecord_of_change (Progress.leads_reported inRange) (fun _ _ => ⟨rfl, rfl, rfl, rfl⟩) orderly swift update
    ?_ answered served
  cases updated with
  | some record =>
    obtain ⟨rfl, -⟩ := Activity.goes_value.mp onward
    exact .inl ⟨rfl, rfl⟩
  | none =>
    obtain ⟨creating, changing, fresh, rfl, created, again⟩ := Activity.goes_then_ok.mp onward
    exact .inr ⟨creating, changing, fresh, found, rfl, created, again⟩

/-- To tell listeners of an event leaves an orderly cache so. -/
theorem orderly_of_tell {listening : Listening} {event : Event} {told : Except Problem Unit}
    (orderly : Orderly (SharesRecord url) url world.cache) (goes : (listening.tell event).run.Goes way told)
    (answered : Answered (World.answer surroundings) world way after) (served : AllServed way) :
    Orderly (SharesRecord url) url after.cache := by
  have fares : Fares (terms (SharesRecord url) url fun _ => True) (fun _ => True) (fun _ => True)
    (listening.tell event) := fares_tell (fun _ _ => trivial) _
  exact (orderly_answered fares orderly goes answered served).2.2

/-- After a failure was reported the record of the failure is held. -/
theorem holdsRecord_of_reportFailure {context : Context} {listening : Listening} {details : String}
    (orderly : Orderly (SharesRecord url) url world.cache)
    (swift : ∀ state, context.progressLifetime.isOver (surroundings.elapsed state).1 = .ok false)
    (goes : (reportFailure context listening url details).run.Goes way (.ok ()))
    (answered : Answered (World.answer surroundings) world way after) (served : AllServed way) :
    HoldsRecord url (Progress.Failed details) after.cache := by
  unfold reportFailure at goes
  obtain ⟨telling, _, _, rfl, told, onward⟩ := Activity.goes_then_ok.mp goes
  obtain ⟨middle, start, finish⟩ := Activity.answered_append.mp answered
  obtain ⟨servedFirst, servedRest⟩ := allServed_append.mp served
  have orderly := orderly_of_tell orderly told start servedFirst
  obtain ⟨noting, rest, outcome, rfl, noted, ends⟩ := Activity.goes_bind.mp onward
  obtain ⟨rfl, -⟩ := Activity.goes_done.mp ends
  rw [List.append_nil] at finish servedRest
  have fares : Fares (terms (SharesRecord url) url fun _ => True) (fun _ => True) (fun _ => False)
    (noteFailure context url details) := fares_noteFailure (fun _ _ => trivial) (SharesRecord.refl url) details
  have ending := (orderly_answered fares orderly noted finish servedRest).2.1
  cases outcome with
  | error problem => exact ending.elim
  | ok done => exact holdsRecord_of_noteFailure orderly swift noted finish servedRest

/-- After progress was reported the record that shows it is held. -/
theorem holdsRecord_of_emit {context : Context} {listening : Listening} {stage : String} {progress : Int}
    (inRange : 0 ≤ progress ∧ progress ≤ 100) (orderly : Orderly (SharesRecord url) url world.cache)
    (swift : ∀ state, context.progressLifetime.isOver (surroundings.elapsed state).1 = .ok false)
    (goes : (emit context listening url stage progress).run.Goes way (.ok ()))
    (answered : Answered (World.answer surroundings) world way after) (served : AllServed way) :
    HoldsRecord url (Progress.Shows ⟨stage, progress, none⟩) after.cache := by
  unfold emit at goes
  obtain ⟨telling, _, _, rfl, told, onward⟩ := Activity.goes_then_ok.mp goes
  obtain ⟨middle, start, finish⟩ := Activity.answered_append.mp answered
  obtain ⟨servedFirst, servedRest⟩ := allServed_append.mp served
  have orderly := orderly_of_tell orderly told start servedFirst
  obtain ⟨found, noted, -⟩ := (Activity.goes_then_value_ok fun _ => rfl).mp onward
  exact holdsRecord_of_note inRange orderly swift noted finish servedRest

end RepoSurvey.Analysis

import Mathlib.Data.List.Nodup
import RepoSurvey.Proofs.Analysis.Recitals
import RepoSurvey.Proofs.Service.Traffic

/-!
# Requests that cross

A request for an analysis looks whether a run of its repository is under way, creates a progress record, and registers
a run only then. Requests of one repository cross when each of them found none under way and has not registered one
yet; then each registers one. `single_or_crossed` says that this is the only way in which two runs of one repository
come to be under way, in whatever order requests and runs advance, and that until then the register knows whether one
is. `crossingRequests_cross` shows two requests that do cross.
-/

namespace RepoSurvey.Service

open Analysis (Context Problem Result Surroundings World)

/-! ## Registers -/

/-- The parts of a list before and after a place in it. -/
theorem exists_parts {α : Type} {values : List α} {index : Nat} {value : α} (isThere : values[index]? = some value) :
    ∃ before after, values = before ++ value :: after ∧ values.eraseIdx index = before ++ after ∧
      ∀ other, values.set index other = before ++ other :: after := by
  obtain ⟨below, rfl⟩ := List.getElem?_eq_some_iff.mp isThere
  refine ⟨values.take index, values.drop (index + 1), ?_, List.eraseIdx_eq_take_drop_succ values index, fun other => ?_⟩
  · rw [← List.drop_eq_getElem_cons below, List.take_append_drop]
  · rw [List.set_eq_take_append_cons_drop, if_pos below]

namespace Register

variable {register : Register} {url other : String} {number : Nat}

/-- Whether the numbers in a register are told apart, and name runs of the URLs they are registered for. -/
structure Consistent (register : Register) : Prop where
  distinct : (register.underWay.map Prod.fst).Nodup
  issued : ∀ run ∈ register.underWay, run.1 < register.issued
  latest : ∀ entry ∈ register.latest, entry.2 < register.issued ∧
    ∀ run ∈ register.underWay, run.1 = entry.2 -> run.2 = entry.1

/-- Whether every run of a URL that is under way is the latest one. -/
def Registers (register : Register) (url : String) : Prop :=
  ∀ run ∈ register.underWay, run.2 = url ->
    register.latest.find? (fun entry => entry.1 == url) = some (url, run.1)

/-- A register without runs is consistent. -/
theorem consistent_empty : Consistent empty := ⟨List.nodup_nil, nofun, nofun⟩

/-- A register stays consistent when a run is added. -/
theorem Consistent.add (consistent : register.Consistent) (url : String) : (register.add url).Consistent where
  distinct := by
    simp only [Register.add, List.map_append, List.map_cons, List.map_nil]
    refine List.nodup_append.mpr ⟨consistent.distinct, List.nodup_singleton _, ?_⟩
    intro number member last isLast
    obtain ⟨run, isRun, rfl⟩ := List.mem_map.mp member
    have earlier := consistent.issued run isRun
    rw [List.mem_singleton.mp isLast]
    omega
  issued run member := by
    simp only [Register.add, List.mem_append, List.mem_singleton] at member ⊢
    rcases member with member | rfl
    · exact Nat.lt_succ_of_lt (consistent.issued run member)
    · exact Nat.lt_succ_self _
  latest entry member := by
    simp only [Register.add, List.mem_cons, List.mem_filter, List.mem_append, List.not_mem_nil, or_false] at member ⊢
    rcases member with rfl | ⟨member, -⟩
    · refine ⟨Nat.lt_succ_self _, fun run isRun same => ?_⟩
      rcases isRun with isRun | rfl
      · have earlier := consistent.issued run isRun
        omega
      · rfl
    · obtain ⟨earlier, names⟩ := consistent.latest entry member
      refine ⟨Nat.lt_succ_of_lt earlier, fun run isRun same => ?_⟩
      rcases isRun with isRun | rfl
      · exact names run isRun same
      · dsimp only at same
        omega

/-- A register stays consistent when a run ends. -/
theorem Consistent.finish (consistent : register.Consistent) (number : Nat) (url : String) :
    (register.finish number url).Consistent where
  distinct := consistent.distinct.sublist (List.filter_sublist.map _)
  issued run member := consistent.issued run (List.mem_filter.mp member).1
  latest entry member := by
    obtain ⟨earlier, names⟩ := consistent.latest entry (List.mem_filter.mp member).1
    exact ⟨earlier, fun run isRun => names run (List.mem_filter.mp isRun).1⟩

/-- Of runs with distinct numbers, all others are left when that of one number is taken away. -/
theorem filter_number {before after : List (Nat × String)}
    (distinct : ((before ++ (number, url) :: after).map Prod.fst).Nodup) :
    (before ++ (number, url) :: after).filter (fun run => run.1 != number) = before ++ after := by
  rw [List.map_append, List.map_cons, List.nodup_middle, List.nodup_cons, ← List.map_append] at distinct
  rw [List.filter_append, List.filter_cons_of_neg (by simp), ← List.filter_append]
  refine List.filter_eq_self.mpr fun run member => ?_
  have differs : run.1 ≠ number := by
    rintro rfl
    exact distinct.1 (List.mem_map.mpr ⟨run, member, rfl⟩)
  simpa using differs

/-- What stands in a register for one URL is not touched when the entry of another is removed. -/
theorem find?_without (different : other ≠ url) (latest : List (String × Nat)) :
    (latest.filter fun entry => entry.1 != other).find? (fun entry => entry.1 == url) =
      latest.find? fun entry => entry.1 == url := by
  rw [List.find?_filter]
  congr 1
  funext entry
  by_cases same : entry.1 = url
  · simp [same, different.symm]
  · simp [same]

/-- A run that is added is the latest one of its URL; those of other URLs stay registered. -/
theorem Registers.add (registers : register.Registers url)
    (vacant : other = url -> ∀ run ∈ register.underWay, run.2 ≠ url) : (register.add other).Registers url := by
  intro run member isUrl
  simp only [Register.add, List.mem_append, List.mem_singleton] at member ⊢
  by_cases same : other = url
  · rcases member with member | rfl
    · exact absurd isUrl (vacant same run member)
    · simp [same]
  · rcases member with member | rfl
    · rw [List.find?_cons_of_neg (by simpa using same), find?_without same]
      exact registers run member isUrl
    · exact absurd isUrl same

/-- A run that ends takes no other run of a URL out of the register, if there is none. -/
theorem Registers.finish (registers : register.Registers url)
    (alone : other = url -> ∀ run ∈ register.underWay, run.2 = url -> run.1 = number) :
    (register.finish number other).Registers url := by
  intro run member isUrl
  obtain ⟨member, stays⟩ := List.mem_filter.mp member
  by_cases same : other = url
  · exact absurd (alone same run member isUrl) (by simpa using stays)
  · exact (find?_without same _).trans (registers run member isUrl)

/-- A register in which the runs of a URL are registered tells whether there is one. -/
theorem isRunning_iff (consistent : register.Consistent) (registers : register.Registers url) :
    register.isRunning url = true ↔ ∃ run ∈ register.underWay, run.2 = url := by
  constructor
  · intro running
    unfold isRunning at running
    split at running
    · nomatch running
    · next key number found =>
      obtain ⟨run, member, same⟩ := List.any_eq_true.mp running
      have isKey : key = url := by simpa using List.find?_some found
      have names := (consistent.latest _ (List.mem_of_find?_eq_some found)).2 run member (by simpa using same)
      exact ⟨run, member, names.trans isKey⟩
  · rintro ⟨run, member, isUrl⟩
    unfold isRunning
    rw [registers run member isUrl]
    exact List.any_eq_true.mpr ⟨run, member, by simp⟩

end Register

/-! ## Books -/

variable {σ : Type} {surroundings : Surroundings σ} {context : Option Context} {state : State σ}

/-- Whether a register names the runs in the background, and tells them apart. -/
structure State.Booked (state : State σ) : Prop where
  underWay : state.register.underWay = state.background.map fun run => (run.number, run.url)
  consistent : state.register.Consistent

namespace State

/-- Calls other than to register a run leave runs alone. -/
theorem reply_other {call : Call} (other : ∀ request, call ≠ .register request) :
    (state.reply surroundings context call).2.register = state.register ∧
      (state.reply surroundings context call).2.background = state.background := by
  cases call with
  | register request => exact absurd rfl (other request)
  | _ => exact ⟨rfl, rfl⟩

/-- A run that is enrolled is booked. -/
theorem Booked.enroll (booked : state.Booked) (runs : Context) (request : Analysis.Request) :
    (state.enroll runs request).Booked where
  underWay := by
    simp only [State.enroll, Register.add, booked.underWay, List.map_append, List.map_cons, List.map_nil]
  consistent := booked.consistent.add request.repositoryUrl

/-- Books stay in order when a call of a request is answered. -/
theorem Booked.reply (booked : state.Booked) (call : Call) : (state.reply surroundings context call).2.Booked := by
  by_cases registers : ∃ request, call = .register request
  · obtain ⟨request, rfl⟩ := registers
    cases context with
    | none => exact booked
    | some runs => exact booked.enroll runs request
  · obtain ⟨sameRegister, sameBackground⟩ := @reply_other σ surroundings context state call
      fun request same => registers ⟨request, same⟩
    exact ⟨by rw [sameRegister, sameBackground, booked.underWay], sameRegister ▸ booked.consistent⟩

end State

/-! ## Turns -/

/-- What can come of a turn. -/
inductive Turn (surroundings : Surroundings σ) (context : Option Context) : Traffic σ -> Traffic σ -> Prop where
  | idle {traffic} : Turn surroundings context traffic traffic
  | arrives {state handlers} (request : Request) : Turn surroundings context ⟨state, handlers⟩
      ⟨state, handlers ++ [⟨none, (respond context request).run⟩]⟩
  | calls {state : State σ} {before after vacant} (call : Call)
      (onward : Answer call -> Activity Call Answer (Except Failure Response)) :
      Turn surroundings context ⟨state, before ++ ⟨vacant, .call call onward⟩ :: after⟩
        ⟨(state.reply surroundings context call).2, before ++
          ⟨call.vacancy vacant (state.reply surroundings context call).1,
            onward (state.reply surroundings context call).1⟩ :: after⟩
  | responds {state before after vacant} (response : Except Failure Response) :
      Turn surroundings context ⟨state, before ++ ⟨vacant, .done response⟩ :: after⟩ ⟨state, before ++ after⟩
  | works {world : World σ} {register before after number url handlers} (call : Analysis.Call)
      (onward : Analysis.Answer call -> Analysis.Doing (Except Problem Result)) :
      Turn surroundings context ⟨⟨world, register, before ++ ⟨number, url, .call call onward⟩ :: after⟩, handlers⟩
        ⟨⟨(World.answer surroundings call world).2, register, before ++
          ⟨number, url, onward (World.answer surroundings call world).1⟩ :: after⟩, handlers⟩
  | ends {world register before after number url handlers} (outcome : Except Problem Result) :
      Turn surroundings context ⟨⟨world, register, before ++ ⟨number, url, .done outcome⟩ :: after⟩, handlers⟩
        ⟨⟨world, register.finish number url, before ++ after⟩, handlers⟩

/-- Whoever makes a move has a turn. -/
theorem Turn.of_next (traffic : Traffic σ) (move : Move) :
    Turn surroundings context traffic (traffic.next surroundings context move) := by
  obtain ⟨⟨world, register, background⟩, handlers⟩ := traffic
  cases move with
  | arrives request => exact .arrives request
  | handles index =>
    simp only [Traffic.next]
    split
    · exact .idle
    · next vacant response isThere =>
      obtain ⟨before, after, rfl, erased, -⟩ := exists_parts isThere
      rw [erased]
      exact .responds response
    · next vacant call onward isThere =>
      obtain ⟨before, after, rfl, -, changed⟩ := exists_parts isThere
      rw [changed]
      exact .calls call onward
  | works index =>
    simp only [Traffic.next]
    split
    · exact .idle
    · next number url outcome isThere =>
      obtain ⟨before, after, rfl, erased, -⟩ := exists_parts isThere
      rw [erased]
      exact .ends outcome
    · next number url call onward isThere =>
      obtain ⟨before, after, rfl, -, changed⟩ := exists_parts isThere
      rw [changed]
      exact .works call onward

/-- Whether the books of a service are in order, and requests register runs for URLs only that they found without. -/
structure Traffic.Sound (traffic : Traffic σ) : Prop where
  booked : traffic.state.Booked
  heeds : ∀ handler ∈ traffic.handlers, Heeds handler.vacant handler.rest

/-- Traffic stays sound with every turn. -/
theorem Turn.sound {traffic further : Traffic σ} (turn : Turn surroundings context traffic further)
    (sound : traffic.Sound) : further.Sound := by
  obtain ⟨booked, heeds⟩ := sound
  cases turn with
  | idle => exact ⟨booked, heeds⟩
  | arrives request =>
    exact ⟨booked, List.forall_mem_append.mpr ⟨heeds, List.forall_mem_singleton.mpr (heeds_respond context request)⟩⟩
  | calls call onward =>
    obtain ⟨before, here, after⟩ := (List.forall_mem_append.mp heeds).imp_right List.forall_mem_cons.mp
    exact ⟨booked.reply call, List.forall_mem_append.mpr ⟨before, List.forall_mem_cons.mpr ⟨here.2 _, after⟩⟩⟩
  | responds response =>
    obtain ⟨before, here, after⟩ := (List.forall_mem_append.mp heeds).imp_right List.forall_mem_cons.mp
    exact ⟨booked, List.forall_mem_append.mpr ⟨before, after⟩⟩
  | works call onward => exact ⟨⟨by simpa using booked.underWay, booked.consistent⟩, heeds⟩
  | @ends world register before after number url handlers outcome =>
    refine ⟨⟨?_, booked.consistent.finish number url⟩, heeds⟩
    have distinct := booked.consistent.distinct
    have listed : register.underWay = before.map (fun run => (run.number, run.url)) ++
        (number, url) :: after.map fun run => (run.number, run.url) := by simpa using booked.underWay
    change register.underWay.filter (fun run => run.1 != number) =
      (before ++ after).map fun run => (run.number, run.url)
    change (register.underWay.map Prod.fst).Nodup at distinct
    rw [listed] at distinct ⊢
    rw [Register.filter_number distinct, List.map_append]

/-! ## Single runs -/

/-- Whether there is a single run of a URL under way or about to be started, if any, and it is registered. -/
structure Traffic.Single (url : String) (traffic : Traffic σ) : Prop where
  few : (traffic.underWay url).length + traffic.starting url ≤ 1
  registers : traffic.state.register.Registers url

/-- No run of a URL is under way when the register names none. -/
theorem State.Booked.filter_eq_nil (booked : state.Booked) {url : String} :
    state.background.filter (fun run => run.url == url) = [] ↔ ∀ run ∈ state.register.underWay, run.2 ≠ url := by
  rw [booked.underWay, List.forall_mem_map, List.filter_eq_nil_iff]
  simp

variable {url : String}

/-- What is about to start a run of a URL found none of it. -/
theorem Handler.vacant_of_isStarting {handler : Handler} (starts : handler.isStarting url = true) :
    handler.vacant = some url := by
  unfold isStarting at starts
  split at starts
  · simpa using starts
  · nomatch starts

/-- One request among others. -/
theorem Traffic.starting_parts (state : State σ) (before after : List Handler) (handler : Handler) :
    Traffic.starting url ⟨state, before ++ handler :: after⟩ =
      (before ++ after).countP (Handler.isStarting url) + if handler.isStarting url then 1 else 0 := by
  simp only [Traffic.starting, List.countP_append, List.countP_cons]
  omega

/-- One run among others. -/
theorem Traffic.length_underWay {world : World σ} {register : Register} {before after : List Background}
    {run : Background} {handlers : List Handler} :
    (Traffic.underWay url ⟨⟨world, register, before ++ run :: after⟩, handlers⟩).length =
      (before ++ after).countP (fun other => other.url == url) + if run.url == url then 1 else 0 := by
  simp only [Traffic.underWay, ← List.countP_eq_length_filter, List.countP_append, List.countP_cons]
  omega

/-- Fewer are about to start a run when one that goes on is about to only if it was before. -/
theorem Traffic.starting_le {later : State σ} {before after : List Handler} {handler further : Handler}
    (stays : further.isStarting url = true -> handler.isStarting url = true) :
    Traffic.starting url ⟨later, before ++ further :: after⟩ ≤
      Traffic.starting url ⟨state, before ++ handler :: after⟩ := by
  rw [starting_parts, starting_parts]
  refine Nat.add_le_add_left ?_ _
  split
  · next starts => rw [if_pos (stays starts)]
  · exact Nat.zero_le _

/-- A single run stays single when no run begins or ends and no more requests are about to start one. -/
theorem Traffic.Single.of_le {traffic further : Traffic σ} (single : traffic.Single url)
    (sameRegister : further.state.register = traffic.state.register)
    (sameBackground : further.state.background = traffic.state.background)
    (fewer : further.starting url ≤ traffic.starting url) : further.Single url where
  few := by
    unfold underWay
    rw [sameBackground]
    exact Nat.le_trans (Nat.add_le_add_left fewer _) single.few
  registers := sameRegister ▸ single.registers

/-- Whoever may not register a run is not about to start one. -/
theorem Handler.isStarting_none (rest : Activity Call Answer (Except Failure Response)) :
    Handler.isStarting url ⟨none, rest⟩ = false :=
  Bool.eq_false_iff.mpr fun starts => nomatch vacant_of_isStarting starts

/-- A run that is registered is single, as the request for it was the only one and found none under way. -/
theorem Traffic.Single.enroll {before after : List Handler} {call : Call}
    {onward : Answer call -> Activity Call Answer (Except Failure Response)} {request : Analysis.Request}
    (single : Traffic.Single url ⟨state, before ++ ⟨some request.repositoryUrl, .call call onward⟩ :: after⟩)
    (booked : state.Booked) (runs : Context) (rest : Activity Call Answer (Except Failure Response)) :
    Traffic.Single url ⟨state.enroll runs request, before ++ ⟨none, rest⟩ :: after⟩ := by
  obtain ⟨few, registers⟩ := single
  have begun : Traffic.underWay url ⟨state.enroll runs request, before ++ ⟨none, rest⟩ :: after⟩ =
      state.background.filter (fun run => run.url == url) ++ if request.repositoryUrl = url then
        [⟨state.register.issued, request.repositoryUrl, (Analysis.runRequest runs ⟨false⟩ request).run⟩] else [] := by
    simp [underWay, State.enroll, List.filter_append, List.filter_cons]
  rw [starting_parts] at few
  simp only [underWay, Handler.isStarting] at few
  by_cases same : request.repositoryUrl = url
  · subst same
    simp only [beq_self_eq_true, if_true] at few
    have none : state.background.filter (fun run => run.url == request.repositoryUrl) = [] :=
      List.length_eq_zero_iff.mp (by omega)
    refine ⟨?_, registers.add fun _ => booked.filter_eq_nil.mp none⟩
    rw [begun, starting_parts, Handler.isStarting_none, none]
    simp only [if_true, List.nil_append, List.length_singleton, Bool.false_eq_true, if_false]
    omega
  · refine ⟨?_, registers.add fun isUrl => absurd isUrl same⟩
    rw [begun, starting_parts, Handler.isStarting_none, if_neg same, List.append_nil]
    simp only [Bool.false_eq_true, if_false]
    omega

/-- A single run stays single when a request looks for one, unless another is about to start one as well. -/
theorem Traffic.Single.look {before after : List Handler} {vacant : Option String} {other : String}
    {onward : Bool -> Activity Call Answer (Except Failure Response)}
    (single : Traffic.Single url ⟨state, before ++ ⟨vacant, .call (.isRunning other) onward⟩ :: after⟩)
    (booked : state.Booked) {further : Handler}
    (looked : further.vacant = (Call.isRunning other).vacancy vacant (state.register.isRunning other))
    (calm : Traffic.starting url ⟨state, before ++ further :: after⟩ ≤ 1) :
    Traffic.Single url ⟨state, before ++ further :: after⟩ := by
  by_cases none : state.background.filter (fun run => run.url == url) = []
  · refine ⟨?_, single.registers⟩
    rw [show Traffic.underWay url ⟨state, before ++ further :: after⟩ = [] from none]
    simpa using calm
  · refine single.of_le rfl rfl (Traffic.starting_le fun starts => ?_)
    have isVacant := looked.symm.trans (Handler.vacant_of_isStarting starts)
    have running : state.register.isRunning url = true := by
      rw [Register.isRunning_iff booked.consistent single.registers]
      simpa [booked.filter_eq_nil] using none
    change (if state.register.isRunning other = true then _ else _) = _ at isVacant
    split at isVacant
    · nomatch isVacant
    · next notRunning =>
      obtain rfl := Option.some.inj isVacant
      exact absurd running notRunning

/-- When a single run ends, none is left that its end could take out of the register. -/
theorem Traffic.Single.alone {before after : List Background} {run : Background} {register : Register}
    {world : World σ} {handlers : List Handler}
    (single : Traffic.Single run.url ⟨⟨world, register, before ++ run :: after⟩, handlers⟩)
    (booked : State.Booked (⟨world, register, before ++ run :: after⟩ : State σ)) :
    ∀ entry ∈ register.underWay, entry.2 = run.url -> entry.1 = run.number := by
  have few := Nat.le_trans (Nat.le_add_right _ _) single.few
  rw [Traffic.length_underWay, if_pos (beq_self_eq_true _)] at few
  have others : (before ++ after).countP (fun other => other.url == run.url) = 0 := by omega
  rw [booked.underWay, List.forall_mem_map]
  intro other member isUrl
  rcases List.mem_cons.mp (List.perm_middle.mem_iff.mp member) with rfl | isOther
  · rfl
  · exact absurd (beq_iff_eq.mpr isUrl) (List.countP_eq_zero.mp others other isOther)

/-- A single run stays single with every turn that leaves no more than one request about to start another. -/
theorem Turn.single {traffic further : Traffic σ} (turn : Turn surroundings context traffic further)
    (sound : traffic.Sound) (single : traffic.Single url) (calm : further.starting url ≤ 1) :
    further.Single url := by
  cases turn with
  | idle => exact single
  | arrives request =>
    refine single.of_le rfl rfl (Nat.le_of_eq ?_)
    simp [Traffic.starting, List.countP_append, Handler.isStarting_none]
  | @calls state before after vacant call onward =>
    have here := (sound.heeds _ (List.mem_append_right _ (.head _))).1
    cases call with
    | isRunning other => exact single.look sound.booked rfl calm
    | register request =>
      obtain rfl : vacant = some request.repositoryUrl := here request rfl
      cases context with
      | none =>
        refine single.of_le rfl rfl (Traffic.starting_le fun starts => ?_)
        nomatch Handler.vacant_of_isStarting starts
      | some runs => exact single.enroll sound.booked runs _
    | _ =>
      refine single.of_le rfl rfl (Traffic.starting_le fun starts => ?_)
      exact beq_iff_eq.mpr (Handler.vacant_of_isStarting starts)
  | responds response =>
    refine single.of_le rfl rfl ?_
    rw [Traffic.starting_parts]
    exact Nat.le_add_right _ _
  | works call onward =>
    obtain ⟨few, registers⟩ := single
    refine ⟨?_, registers⟩
    rw [Traffic.length_underWay] at few ⊢
    exact few
  | @ends world register before after number other handlers outcome =>
    refine ⟨?_, single.registers.finish fun same => ?_⟩
    · have few := single.few
      rw [Traffic.length_underWay] at few
      rw [Traffic.underWay, ← List.countP_eq_length_filter]
      exact Nat.le_trans (Nat.add_le_add_right (Nat.le_add_right _ _) _) few
    · subst same
      exact single.alone sound.booked

/-! ## Orders -/

/-- A service without runs and requests is sound. -/
theorem Traffic.sound_start (world : World σ) : (Traffic.start world).Sound :=
  ⟨⟨rfl, Register.consistent_empty⟩, nofun⟩

/-- Traffic stays sound in every order. -/
theorem Traffic.Sound.after {traffic : Traffic σ} (sound : traffic.Sound) (moves : List Move) :
    (traffic.after surroundings context moves).Sound := by
  induction moves generalizing traffic with
  | nil => exact sound
  | cons move moves inductionHypothesis => exact inductionHypothesis ((Turn.of_next traffic move).sound sound)

/-- A single run stays single in every order in which no two requests are ever about to start one. -/
theorem Traffic.Single.after {traffic : Traffic σ} (sound : traffic.Sound) (single : traffic.Single url)
    (moves : List Move)
    (calm : ∀ first rest, moves = first ++ rest -> (traffic.after surroundings context first).starting url ≤ 1) :
    (traffic.after surroundings context moves).Single url := by
  induction moves generalizing traffic with
  | nil => exact single
  | cons move moves inductionHypothesis =>
    have turn : Turn surroundings context traffic _ := .of_next traffic move
    refine inductionHypothesis (turn.sound sound) (turn.single sound single (calm [move] moves rfl))
      fun first rest isMoves => calm (move :: first) rest (isMoves ▸ rfl)

/-- **Single runs.** In whatever order requests and runs advance, at every moment no more than one run of a repository
is under way or about to be started, and a request for it is told so, or two requests for it have crossed: at that
moment or earlier, both had found no run under way and neither had registered one yet. -/
theorem single_or_crossed (surroundings : Surroundings σ) (context : Option Context) (world : World σ)
    (moves : List Move) (url : String) :
    let traffic := (Traffic.start world).after surroundings context moves
    ((traffic.underWay url).length + traffic.starting url ≤ 1 ∧
        (traffic.state.register.isRunning url = true ↔ traffic.underWay url ≠ [])) ∨
      ∃ first rest, moves = first ++ rest ∧
        2 ≤ ((Traffic.start world).after surroundings context first).starting url := by
  intro traffic
  by_cases calm : ∀ first rest, moves = first ++ rest ->
      ((Traffic.start world).after surroundings context first).starting url ≤ 1
  · have sound : traffic.Sound := (Traffic.sound_start world).after moves
    have begins : (Traffic.start world).Single url := ⟨Nat.zero_le 1, nofun⟩
    have single : traffic.Single url := begins.after (Traffic.sound_start world) moves calm
    refine .inl ⟨single.few, ?_⟩
    rw [Register.isRunning_iff sound.booked.consistent single.registers, Ne, Traffic.underWay,
      sound.booked.filter_eq_nil]
    simp
  · push Not at calm
    obtain ⟨first, rest, isMoves, crossed⟩ := calm
    exact .inr ⟨first, rest, isMoves, crossed⟩

/-- A request for an analysis of the empty repository. -/
def emptyPost : Request :=
  ⟨"POST", "/v1/analyses", [], some "\x7b\"repository_url\":\"u\",\"repository_path\":\"repo\"\x7d"⟩

/-- Two requests come in. The second looks for a run while the record of the first is being written. -/
def crossingMoves : List Move :=
  [.arrives emptyPost, .arrives emptyPost, .handles 0, .handles 0, .handles 0, .handles 1, .handles 1, .handles 1,
    .handles 0, .handles 0, .handles 1, .handles 1]

/-- What comes of the two requests. -/
def crossingTraffic : Traffic (List String) :=
  (Traffic.start (World.untouched [])).after (.reciting fun _ => none) (some Analysis.emptyContext) crossingMoves

set_option maxRecDepth 100000 in
/-- Two runs of the repository are under way. -/
theorem underWay_crossingTraffic : (crossingTraffic.underWay "u").length = 2 := by
  decide +kernel

/-- Both requests started a run, as they had crossed. -/
theorem crossingRequests_cross : (crossingTraffic.underWay "u").length = 2 ∧
    ∃ first rest, crossingMoves = first ++ rest ∧ 2 ≤ ((Traffic.start (World.untouched [])).after
      (.reciting fun _ => none) (some Analysis.emptyContext) first).starting "u" := by
  refine ⟨underWay_crossingTraffic, ?_⟩
  rcases single_or_crossed (.reciting fun _ => none) (some Analysis.emptyContext) (World.untouched []) crossingMoves
    "u" with ⟨few, -⟩ | crossed
  · change (crossingTraffic.underWay "u").length + _ ≤ 1 at few
    rw [underWay_crossingTraffic] at few
    omega
  · exact crossed

end RepoSurvey.Service

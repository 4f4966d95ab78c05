import RepoSurvey.Proofs.Agent.Declarations
import RepoSurvey.Proofs.Agent.Transcript
import RepoSurvey.Proofs.Analysis.Recitals

/-!
# Declared tools in runs

An agent of a run carries the tools of the registry, or it carries none. One that carries them does so in every
request that holds a tool call or the answer to one, with all corrections. One that carries none sends such a request
only after the model called a tool that was not declared to it, which is answered and kept all the same. Both are
`requests_declare`.
-/

namespace RepoSurvey.Analysis

open Activity (Abides Exchange Fares Keeps Terms)
open Agent (ChatRequest HoldsTools Registry Reply declaring)
open Chat (ToolDefinition)

/-- What the agents of a run declare that are sent tools, or not. -/
def Context.offered (context : Context) (withTools : Bool) : Option (List ToolDefinition) :=
  if withTools then context.registry.declared else none

/-- What is declared are the tools of the registry, if there are any. -/
theorem Context.offered_cases (context : Context) (withTools : Bool) :
    context.offered withTools = some context.registry ∧ context.registry ≠ [] ∨ context.offered withTools = none := by
  unfold offered Registry.declared
  cases withTools <;> cases context.registry <;> simp

/-- The terms of agents as terms of the run that they work for. -/
def attending (inner : Terms Agent.Call Agent.Answer) : Terms Call Answer where
  told
    | .agent call, answer => inner.told call answer
    | _, _ => True
  asks
    | .agent call => inner.asks call
    | _ => True

variable {α ε : Type} {context : Context} {checkout : Files.Checkout} {offers : Option (List ToolDefinition) -> Prop}
  {watched : String -> Option (List ToolDefinition) -> Prop} {withTools : Bool} {session : Option String}

/-- The terms of agents say nothing about the other calls of a run. -/
theorem attending_asks {inner : Terms Agent.Call Agent.Answer} {call : Call} (other : ∀ asked, call ≠ .agent asked) :
    (attending inner).asks call := by
  cases call with
  | agent asked => exact absurd rfl (other asked)
  | _ => trivial

/-- What keeps to the terms of agents does so in a run. -/
theorem keeps_attending {inner : Terms Agent.Call Agent.Answer} {ends : α -> Prop} {activity : Agent.Doing α}
    (keeps : activity.Keeps inner ends) :
    (Activity.embed Call.agent (fun _ answer => answer) activity : Doing α).Keeps (attending inner) ends :=
  keeps.embed (fun _ asks => asks) fun _ _ told => told

/-- Conversations can be held on terms about declared tools: an agent goes on from histories that are free of tools
as long as its requests are watched. -/
theorem hosts_declaring (offered : offers (context.offered withTools)) :
    Hosts context (attending (declaring offers watched)) withTools session where
  calls _ _ _ other := attending_asks other
  works key := by
    refine ⟨fun history => watched key (context.offered withTools) -> ¬ HoldsTools history,
      fun _ => Agent.holdsTools_nil, ?_⟩
    rintro task rfl free
    have own : (context.agent key).FreeIfWatched task watched task.history := free
    have works : ((context.agent key).execute task false).Keeps (declaring offers watched) _ :=
      Agent.Profile.keeps_declaring offered own false
    refine Activity.keeps_bind.mpr ((keeps_attending works).mono fun ending ends => ?_)
    cases ending with
    | ok result => exact fun isWatched holds => ends isWatched holds.of_drop
    | error fault => exact ⟨fault, rfl⟩

/-! ## Where traces of tools come from -/

section Ways

variable {attempt : ExceptT ε (Activity Call Answer) α} {outcome : Except ε α} {way earlier later : List (Exchange Call Answer)}
  {asked : ChatRequest} {delivery : Agent.Answer (.chat asked)}

/-- A request that holds traces of tools carries declarations that are offered, and it comes after one with the same
key and the same declarations that was answered with tool calls. -/
theorem traces_grounded (abides : ∀ watched, Abides (attending (declaring offers watched)) attempt)
    (goes : attempt.run.Goes (earlier ++ ⟨.agent (.chat asked), delivery⟩ :: later) outcome)
    (holds : HoldsTools asked.messages) : offers asked.tools ∧ ∃ (before : ChatRequest) (reply : Reply) (fired : Bool),
      ⟨.agent (.chat before), .answered reply fired⟩ ∈ earlier ∧ before.key = asked.key ∧
        before.tools = asked.tools ∧ reply.toolCalls ≠ [] := by
  have asks := fun watched told => (abides watched).asks_next goes told holds
  refine ⟨(asks (fun _ _ => False) ?_).1, ?_⟩
  · rintro ⟨request, answer⟩ -
    cases request with
    | agent call =>
      cases call with
      | chat before => exact fun _ _ isWatched => isWatched.elim
      | _ => trivial
    | _ => trivial
  · by_contra nothing
    refine (asks (fun key tools => key = asked.key ∧ tools = asked.tools) ?_).2 ⟨rfl, rfl⟩
    rintro ⟨request, answer⟩ member
    cases request with
    | agent call =>
      cases call with
      | chat before =>
        rintro reply isReply ⟨sameKey, sameTools⟩
        by_contra calls
        cases answer with
        | answered value fired =>
          obtain rfl : value = reply := Option.some.inj isReply
          exact nothing ⟨before, value, fired, member, sameKey, sameTools, calls⟩
        | _ => nomatch isReply
      | _ => trivial
    | _ => trivial

end Ways

/-! ## What requests declare -/

/-- Whether every request on a way that holds traces of tools declares the tools of a registry, which are some. -/
def Declared (registry : Registry) (way : List (Exchange Call Answer)) : Prop :=
  ∀ (asked : ChatRequest) (delivery : Agent.Answer (.chat asked)), ⟨.agent (.chat asked), delivery⟩ ∈ way ->
    HoldsTools asked.messages -> asked.tools = some registry ∧ registry ≠ []

/-- Whether tools were called on a way in answer to a request with a key that declared none. -/
def Unbidden (key : String) (way : List (Exchange Call Answer)) : Prop :=
  ∃ (asked : ChatRequest) (reply : Reply) (fired : Bool), ⟨.agent (.chat asked), .answered reply fired⟩ ∈ way ∧
    asked.key = key ∧ asked.tools = none ∧ reply.toolCalls ≠ []

/-- Whether every request on a way that holds traces of tools declares the tools of a registry, which are some, or
tools were called before in answer to a request with its key that declared none, and it declares none either. -/
def DeclaredUnlessUnbidden (registry : Registry) (way : List (Exchange Call Answer)) : Prop :=
  ∀ (earlier : List (Exchange Call Answer)) (asked : ChatRequest) (delivery : Agent.Answer (.chat asked))
    (later : List (Exchange Call Answer)), way = earlier ++ ⟨.agent (.chat asked), delivery⟩ :: later ->
      HoldsTools asked.messages -> asked.tools = some registry ∧ registry ≠ [] ∨
        asked.tools = none ∧ Unbidden asked.key earlier

section Requests

variable {attempt : Attempt α} {outcome : Except Problem α} {way : List (Exchange Call Answer)}

/-- Declarations of agents that are sent tools, or not. -/
def Context.Offers (context : Context) (tools : Option (List ToolDefinition)) : Prop :=
  ∃ withTools, tools = context.offered withTools

/-- What keeps to terms about declared tools sends traces of tools together with the tools of the registry, unless
they come unbidden. -/
theorem declaredUnlessUnbidden_of_abides
    (abides : ∀ watched, Abides (attending (declaring context.Offers watched)) attempt)
    (goes : attempt.run.Goes way outcome) : DeclaredUnlessUnbidden context.registry way := by
  rintro earlier asked delivery later rfl holds
  obtain ⟨⟨withTools, isOffered⟩, before, reply, fired, member, sameKey, sameTools, calls⟩ :=
    traces_grounded abides goes holds
  rcases context.offered_cases withTools with ⟨isRegistry, some⟩ | isNone
  · exact .inl ⟨isOffered.trans isRegistry, some⟩
  · have none := isOffered.trans isNone
    exact .inr ⟨none, before, reply, fired, member, sameKey, sameTools.trans none, calls⟩

/-- What keeps to terms on which the tools of the registry are offered sends traces of tools together with them. -/
theorem declared_of_abides (some : context.registry ≠ [])
    (abides : ∀ watched, Abides (attending (declaring (· = context.offered true) watched)) attempt)
    (goes : attempt.run.Goes way outcome) : Declared context.registry way := by
  intro asked delivery member holds
  obtain ⟨earlier, later, rfl⟩ := List.append_of_mem member
  have isOffered := (traces_grounded abides goes holds).1
  rcases context.offered_cases true with ⟨isRegistry, -⟩ | isNone
  · exact ⟨isOffered.trans isRegistry, some⟩
  · simp [Context.offered, Registry.declared, some] at isNone

/-- A run keeps to terms about declared tools. -/
theorem abides_declaring (listening : Listening) (request : Request) :
    Abides (attending (declaring context.Offers watched)) (runRequest context listening request) := by
  refine abides_running (tells_anything fun _ notes => attending_asks notes.not_agent) trivial trivial
    (fun _ _ _ => trivial) (fun _ => trivial) fun session => ?_
  exact Running.serves_anything (fun withTools => hosts_declaring ⟨withTools, rfl⟩) (fun _ _ _ => attending_asks) trivial
    fun _ => trivial

/-- **Declared tools.** Whatever is answered, a request of a run that holds tool calls or answers to them declares
the tools of the registry, unless the model called tools in answer to an earlier request with its key that declared
none; then it declares none either. The same goes for every stage by itself, with all its corrections; and a
stage that is sent the tools of a registry with tools declares them in all such requests, however the model calls
them. -/
theorem requests_declare (context : Context) :
    (∀ listening request way outcome, (runRequest context listening request).run.Goes way outcome ->
        DeclaredUnlessUnbidden context.registry way) ∧
      (∀ checkout inquiry way outcome, (askForJson context checkout inquiry).run.Goes way outcome ->
        DeclaredUnlessUnbidden context.registry way ∧
          (inquiry.withTools = true -> context.registry ≠ [] -> Declared context.registry way)) ∧
      ∀ checkout values session way outcome, (askForPlan context checkout values session).run.Goes way outcome ->
        DeclaredUnlessUnbidden context.registry way ∧
          (context.registry ≠ [] -> Declared context.registry way) := by
  refine ⟨?_, ?_, ?_⟩
  · intro listening request way outcome goes
    exact declaredUnlessUnbidden_of_abides (fun _ => abides_declaring listening request) goes
  · intro checkout inquiry way outcome goes
    refine ⟨declaredUnlessUnbidden_of_abides (fun _ => ?_) goes, fun sent some =>
      declared_of_abides some (fun _ => ?_) goes⟩
    · exact (fares_askForJson (hosts_declaring ⟨_, rfl⟩)).abides
    · exact (fares_askForJson (hosts_declaring (by rw [sent]))).abides
  · intro checkout values session way outcome goes
    refine ⟨declaredUnlessUnbidden_of_abides (fun _ => ?_) goes, fun some =>
      declared_of_abides some (fun watched => ?_) goes⟩
    · exact (fares_askForPlan (hosts_declaring ⟨_, rfl⟩) values).abides
    · have hosts : Hosts context (attending (declaring (· = context.offered true) watched)) true session :=
        hosts_declaring rfl
      exact (fares_askForPlan hosts values).abides

end Requests

/-- A context with a tool. -/
def toolContext : Context :=
  { emptyContext with
    registry := [⟨"read_file", "Read a file.", Chat.ToolDefinition.noParameters⟩]
    maxIterations := 2 }

/-- What a model is asked that is sent tools or not. -/
def toolInquiry (withTools : Bool) : Inquiry where
  stage := .writing
  promptName := "translator"
  values := []
  session := none
  withTools := withTools
  withEnvironment := false

/-- Contexts with the prompts of the empty one render the prompt for translations. -/
theorem rendered_translator {context : Context} (same : context.prompts = emptyContext.prompts) :
    rendered context "translator" [] = pure ⟨"role", "action"⟩ := by
  have isPrompt : emptyContext.prompts.render "translator" [] = .ok ⟨"role", "action"⟩ := by decide +kernel
  unfold rendered
  rw [same, isPrompt]

/-- A way on which the model has the tool work before it replies. -/
def callingWay (withTools : Bool) : List (Exchange Call Answer) :=
  let tools := toolContext.offered withTools
  let opening := [.system "role", .user "action"]
  [ ⟨.drawKey, "key"⟩,
    ⟨.agent (.chat ⟨"key", opening, tools, true⟩), .answered ⟨"", [Agent.strayCall]⟩ false⟩,
    ⟨.agent (.work "read_file" []), .answered (.str "text") false⟩,
    ⟨.agent (.chat ⟨"key", opening ++ (Agent.Block.working "" (Agent.strayCall, "text") []).messages, tools, true⟩),
      .answered ⟨"\x7b\x7d", []⟩ false⟩ ]

/-- An inquiry about which tools are called goes this way, whether or not they are declared. -/
theorem goes_callingWay (withTools : Bool) :
    (askForJson toolContext (toolContext.checkout "repo") (toolInquiry withTools)).run.Goes (callingWay withTools)
      (.ok (.obj [])) := by
  unfold askForJson
  change (rendered toolContext "translator" [] >>= _).run.Goes _ _
  rw [@rendered_translator toolContext rfl]
  cases withTools <;> exact .call _ (.call _ (.call _ (.call _ (.done _))))

/-- When the tool is declared, it is declared again after it was called; when it is not, the request that tells what
it found declares nothing, and the call came unbidden. -/
theorem callingWay_declares : Declared toolContext.registry (callingWay true) ∧
    ∃ earlier asked delivery, callingWay false = earlier ++ [⟨.agent (.chat asked), delivery⟩] ∧
      HoldsTools asked.messages ∧ asked.tools = none ∧ Unbidden "key" earlier := by
  obtain ⟨-, stages, -⟩ := requests_declare toolContext
  have split : callingWay false = (callingWay false).take 3 ++ [⟨.agent (.chat _), .answered _ false⟩] := rfl
  have holds : HoldsTools ([.system "role", .user "action"] ++
      (Agent.Block.working "" (Agent.strayCall, "text") []).messages) := by decide
  refine ⟨(stages _ _ _ _ (goes_callingWay true)).2 rfl (List.cons_ne_nil _ _), _, _, _, split, holds, rfl, ?_⟩
  rcases (stages _ _ _ _ (goes_callingWay false)).1 _ _ _ _ split holds with ⟨declared, -⟩ | ⟨-, unbidden⟩
  · nomatch declared
  · exact unbidden

end RepoSurvey.Analysis

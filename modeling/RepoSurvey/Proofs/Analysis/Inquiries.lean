import RepoSurvey.Proofs.Agent.Handling
import RepoSurvey.Proofs.Analysis.Declarations

/-!
# How inquiries end

Whatever the model replies, an inquiry comes to its record or the stage fails, as long as its prompt can be rendered,
the tools cannot break the agent down, and no reply holds more digits in a row than an integer may have. What comes of
it otherwise is in `inquiries_end`, together with what comes of single replies and of corrections.
-/

namespace RepoSurvey.Analysis

open Activity (Ends Exchange Fares Terms)
open Agent (hearing)
open Schema

/-- Whether some text is what the model replied on a way. -/
def Heard (way : List (Exchange Call Answer)) (content : String) : Prop :=
  ∃ (asked : Agent.ChatRequest) (reply : Agent.Reply) (fired : Bool),
    ⟨.agent (.chat asked), .answered reply fired⟩ ∈ way ∧ reply.content = content

/-- Whether some data is what a tool delivered on a way. -/
def Delivered (way : List (Exchange Call Answer)) (data : Json) : Prop :=
  ∃ (name : String) (arguments : List (String × Json)) (fired : Bool),
    ⟨.agent (.work name arguments), .answered data fired⟩ ∈ way

/-- What can break down the agents of a context: a tool with a strange schema, or data that was delivered and cannot be
written. -/
def Context.IsFragile (context : Context) (delivered : Json -> Prop) : Prop :=
  (∃ definition ∈ context.registry, ¬definition.IsRegular) ∨ ∃ data, delivered data ∧ data.integersFit = false

variable {context : Context} {heard : String -> Prop} {delivered : Json -> Prop}

/-- The agents of a context are as fragile as it is. -/
theorem Context.isFragile_of_agent {key : String} (fragile : (context.agent key).IsFragile delivered) :
    context.IsFragile delivered := by
  refine fragile.imp_left ?_
  rintro ⟨call, definition, found, strange⟩
  replace found : context.registry.find? call.name = some definition := found
  exact ⟨definition, List.mem_of_find?_eq_some found, strange⟩

/-- Agents work on what is heard, and break down when their context is fragile. -/
theorem works_hearing (context : Context) (withTools : Bool) (heard : String -> Prop) (delivered : Json -> Prop)
    (key : String) : Works context (attending (hearing heard delivered)) withTools heard
      (fun problem => ∃ fault, problem = .shape fault ∧ context.IsFragile delivered) key := by
  refine ⟨fun _ => True, trivial, fun task _ _ => ?_⟩
  refine Activity.keeps_bind.mpr ((keeps_attending
    ((context.agent key).keeps_hearing task false heard delivered)).mono fun ending ends => ?_)
  cases ending with
  | ok result => exact ⟨trivial, ends⟩
  | error fault => exact ⟨fault, rfl, Context.isFragile_of_agent ends⟩

/-- On every way, what is heard and delivered on it is told. -/
theorem told_heard (way : List (Exchange Call Answer)) : ∀ exchange ∈ way,
    (attending (hearing (Heard way) (Delivered way))).told exchange.request exchange.answer := by
  rintro ⟨request, answer⟩ member
  cases request with
  | agent call =>
    cases call with
    | chat asked =>
      intro reply isReply
      cases answer with
      | answered value fired =>
        obtain rfl : value = reply := Option.some.inj isReply
        exact ⟨asked, value, fired, member, rfl⟩
      | _ => nomatch isReply
    | work name arguments =>
      intro data isData
      cases answer with
      | answered value fired =>
        obtain rfl : value = data := Option.some.inj isData
        exact ⟨name, arguments, fired, member⟩
      | _ => nomatch isData
    | _ => trivial
  | _ => trivial

/-- How an inquiry fails on a way. -/
abbrev Inquiry.FailsOn (context : Context) (inquiry : Inquiry) (way : List (Exchange Call Answer)) : Problem -> Prop :=
  inquiry.Fails context (Heard way) fun problem => ∃ fault, problem = .shape fault ∧ context.IsFragile (Delivered way)

/-- Whether no reply on a way has more digits in a row than an integer may have. -/
def HeardShort (way : List (Exchange Call Answer)) : Prop :=
  ∀ content digits, Heard way content -> Json.HasDigits digits content.toList -> digits ≤ Json.integerDigitLimit

section Ways

variable {α : Type} {checkout : Files.Checkout} {inquiry : Inquiry} {way : List (Exchange Call Answer)}

/-- Whoever hears what is heard on a way can hold conversations. -/
theorem hosts_hearing (withTools : Bool) (session : Option String) :
    Hosts context (attending (hearing heard delivered)) withTools session :=
  hosts_of_outside (fun call _ => by cases call <;> trivial) withTools

/-- What is promised of an attempt that is told what is heard on its way comes true on it. -/
theorem ends_of_fares {succeeds : α -> Prop} {fails : Problem -> Prop} {attempt : Attempt α}
    {outcome : Except Problem α}
    (fares : Fares (attending (hearing (Heard way) (Delivered way))) succeeds fails attempt)
    (goes : attempt.run.Goes way outcome) : Ends succeeds fails outcome :=
  (Activity.Keeps.goes fares goes (told_heard way)).2

/-- On every way, an inquiry comes to an object or fails as inquiries do. -/
theorem ends_askForJson {outcome : Except Problem Json}
    (goes : (askForJson context checkout inquiry).run.Goes way outcome) :
    Ends (fun value => ∃ members, value = .obj members) (inquiry.FailsOn context way) outcome := by
  have ends := ends_of_fares (fares_askForJson_heard (hosts_hearing _ _) (works_hearing context _ _ _)) goes
  cases outcome with
  | ok value => exact ends.2
  | error problem => exact ends

/-- On every way, an inquiry about a record comes to a record that is read from an object, or fails as inquiries do. -/
theorem ends_askForRecord {recordName : String} {codec : Codec α} {outcome : Except Problem α}
    (goes : (askForRecord context checkout inquiry recordName codec).run.Goes way outcome) :
    Ends (fun found => ∃ members, codec.read (.obj members) = .valid found) (inquiry.FailsOn context way) outcome := by
  have ends := ends_of_fares
    (fares_askForRecord_heard (hosts_hearing _ _) (works_hearing context _ _ _) recordName codec) goes
  cases outcome with
  | ok found =>
    obtain ⟨members, -, read⟩ := ends
    exact ⟨members, read⟩
  | error problem => exact ends

/-- An inquiry fails as its stage does when its prompt can be rendered, agents do not break down, and no integer that is
heard is too long. -/
theorem Inquiry.Fails.isStaged {problem : Problem} (fails : inquiry.FailsOn context way problem)
    (isRendered : ∃ prompt, context.prompts.render inquiry.promptName inquiry.values = .ok prompt)
    (sturdy : ¬context.IsFragile (Delivered way)) (short : HeardShort way) :
    ∃ report, problem = .stage inquiry.stage report := by
  cases fails with
  | unrendered isReason =>
    obtain ⟨prompt, isPrompt⟩ := isRendered
    nomatch isReason.symm.trans isPrompt
  | brokeDown broken =>
    obtain ⟨fault, -, fragile⟩ := broken
    exact (sturdy fragile).elim
  | overlong isHeard long has => exact (Nat.not_le_of_lt long (short _ _ isHeard has)).elim
  | staged report => exact ⟨report, rfl⟩

end Ways

/-- **Replies.** In a reply an object is found, or it fails as one that can be corrected and is kept with the failure,
unless an integer in it has too many digits; and with an object that has such an integer it does fail so. Every reply
that can be corrected is answered by a correction as long as there are some left, and what is found comes of the last
one. Whatever the model replies, an inquiry then comes to an object, and one about a record to a record or to the
failure of its stage; but for prompts that cannot be rendered, agents that break down, and integers of too many
digits. -/
theorem inquiries_end (context : Context) :
    (∀ reply, Reply.Found reply (Reply.parseObject reply)) ∧
      (∀ (style : Json.Style) (members : List (String × Json)) (before after : String),
        (Json.obj members).Sound -> (Json.obj members).integersFit = false ->
          '{' ∉ before.toList -> '}' ∉ after.toList ->
            ∃ digits, Reply.parseObject (before ++ Json.text style (.obj members) ++ after) =
              .error (.overlongInteger digits)) ∧
      (∀ (limit : Nat) (reply : String) (way : List (Exchange String fun _ => String))
          (result : Except ExtractionFailure Json),
        (Reply.extract Reply.reasked limit reply ()).Goes way (result, ()) ↔
          way.length ≤ limit ∧ Reply.Corrected reply way ∧ Reply.Concludes reply way result ∧
            ∀ failure, result = .error failure -> failure.isCorrectable = true -> way.length = limit) ∧
      (∀ (checkout : Files.Checkout) (inquiry : Inquiry) (way : List (Exchange Call Answer))
          (outcome : Except Problem Json), (askForJson context checkout inquiry).run.Goes way outcome ->
        Ends (fun value => ∃ members, value = .obj members) (inquiry.FailsOn context way) outcome) ∧
      ∀ (α : Type) (checkout : Files.Checkout) (inquiry : Inquiry) (recordName : String) (codec : Codec α)
          (way : List (Exchange Call Answer)) (outcome : Except Problem α),
        (askForRecord context checkout inquiry recordName codec).run.Goes way outcome ->
          Ends (fun found => ∃ members, codec.read (.obj members) = .valid found) (inquiry.FailsOn context way)
              outcome ∧
            ((∃ prompt, context.prompts.render inquiry.promptName inquiry.values = .ok prompt) ->
              ¬context.IsFragile (Delivered way) -> HeardShort way ->
                (∃ found, outcome = .ok found) ∨ ∃ report, outcome = .error (.stage inquiry.stage report)) := by
  refine ⟨Reply.found_parseObject, fun style members before after sound overlong noOpening noClosing =>
    Reply.parseObject_overlong style sound overlong noOpening noClosing, Reply.goes_extract_iff,
    fun checkout inquiry way outcome goes => ends_askForJson goes, ?_⟩
  intro α checkout inquiry recordName codec way outcome goes
  have ends := ends_askForRecord goes
  refine ⟨ends, fun isRendered sturdy short => ?_⟩
  cases outcome with
  | ok found => exact .inl ⟨found, rfl⟩
  | error problem =>
    obtain ⟨report, rfl⟩ := Inquiry.Fails.isStaged ends isRendered sturdy short
    exact .inr ⟨report, rfl⟩

/-- An object with an integer of one digit too many. -/
def overlongMembers : List (String × Json) := [("a", .int ((10 ^ Json.writtenDigitLimit : Nat) : Int))]

/-- The integer in it does not fit. -/
theorem integersFit_overlongMembers : (Json.obj overlongMembers).integersFit = false := by
  simp only [overlongMembers, Json.integersFit, Json.memberIntegersFit, Bool.and_true]
  refine decide_eq_false ?_
  rw [Int.natAbs_natCast]
  exact Nat.lt_irrefl _

/-- A reply with that object around which there is more text. -/
def overlongReply : String := "Here: " ++ Json.text .compact (.obj overlongMembers) ++ "."

/-- An inquiry about a record that may be any object. -/
def anyInquiry : Attempt Json :=
  askForRecord emptyContext (emptyContext.checkout "repo") (toolInquiry false) "Object" Codec.any

/-- The way of the inquiry when the model answers by text without an object, and then by an object. -/
def correctedWay : List (Exchange Call Answer) :=
  [ ⟨.drawKey, "key"⟩,
    ⟨.agent (.chat ⟨"key", [.system "role", .user "action"], none, true⟩), .answered ⟨"none", []⟩ false⟩,
    ⟨.agent (.chat ⟨"key", [.system "role", .user "action", .assistant "none" [],
      .user (Reply.correction (.noObject "none"))], none, true⟩), .answered ⟨"\x7b\x7d", []⟩ false⟩ ]

/-- The inquiry goes this way. -/
theorem goes_correctedWay : anyInquiry.run.Goes correctedWay (.ok (.obj [])) := by
  unfold anyInquiry askForRecord askForJson
  change ((rendered emptyContext "translator" [] >>= _) >>= _).run.Goes _ _
  rw [@rendered_translator emptyContext rfl]
  exact .call _ (.call _ (.call _ (.done _)))

/-- On this way, these are the replies. -/
theorem heard_correctedWay {content : String} (isHeard : Heard correctedWay content) :
    content = "none" ∨ content = "\x7b\x7d" := by
  obtain ⟨asked, reply, fired, member, rfl⟩ := isHeard
  simp only [correctedWay, List.mem_cons, List.not_mem_nil, or_false] at member
  rcases member with drawn | first | second
  · nomatch drawn
  · cases first
    exact .inl rfl
  · cases second
    exact .inr rfl

/-- On this way, no reply has many digits. -/
theorem heardShort_correctedWay : HeardShort correctedWay := by
  rintro content digits isHeard ⟨row, within, rfl, -⟩
  have few : content.toList.length ≤ Json.integerDigitLimit := by
    rcases heard_correctedWay isHeard with rfl | rfl <;> decide
  exact within.length_le.trans few

/-- On this way, no tool delivers anything, and there is none. -/
theorem sturdy_correctedWay : ¬emptyContext.IsFragile (Delivered correctedWay) := by
  rintro (⟨definition, member, -⟩ | ⟨data, ⟨name, arguments, fired, member⟩, -⟩)
  · nomatch member
  · simp only [correctedWay, List.mem_cons, List.not_mem_nil, or_false] at member
    rcases member with drawn | first | second
    · nomatch drawn
    · nomatch first
    · nomatch second

/-- A reply with an integer of one digit too many is never corrected. One without an object is, and after it the inquiry
cannot but come to a record or to the failure of its stage. -/
theorem overlongReply_uncorrected :
    (∃ digits, Reply.parseObject overlongReply = .error (.overlongInteger digits) ∧
      ∀ limit way result, (Reply.extract Reply.reasked limit overlongReply ()).Goes way (result, ()) ->
        way = [] ∧ result = .error (.overlongInteger digits)) ∧
      anyInquiry.run.Goes correctedWay (.ok (.obj [])) ∧
      ∀ outcome, anyInquiry.run.Goes correctedWay outcome ->
        (∃ found, outcome = .ok found) ∨ ∃ report, outcome = .error (.stage .writing report) := by
  obtain ⟨-, overlong, corrections, -, records⟩ := inquiries_end emptyContext
  obtain ⟨digits, parsed⟩ := overlong .compact overlongMembers "Here: " "." ⟨List.nodup_singleton _, trivial, trivial⟩
    integersFit_overlongMembers (by decide) (by decide)
  refine ⟨⟨digits, parsed, fun limit way result goes => ?_⟩, goes_correctedWay, fun outcome goes => ?_⟩
  · obtain ⟨-, corrected, concludes, -⟩ := (corrections limit overlongReply way result).mp goes
    cases way with
    | nil => exact ⟨rfl, (Option.some.inj concludes).symm.trans parsed⟩
    | cons exchange rest =>
      obtain ⟨⟨failure, alsoParsed, isCorrectable, -⟩, -⟩ := Reply.corrected_cons.mp corrected
      obtain rfl := Except.error.inj (parsed.symm.trans alsoParsed)
      nomatch isCorrectable
  · obtain ⟨-, settles⟩ := records _ _ _ _ _ _ _ goes
    exact settles ⟨⟨"role", "action"⟩, by decide +kernel⟩ sturdy_correctedWay heardShort_correctedWay

end RepoSurvey.Analysis

import RepoSurvey.Chat.Completions
import RepoSurvey.Proofs.Json.Soundness
import RepoSurvey.Proofs.Outcomes
import RepoSurvey.Proofs.Reply.Extraction

/-!
# The completions dialect gives messages back

A message of the assistant is sent in one shape and read from answers in another. `decode_echo_account` says that
nothing is lost between the two, whether content and tool calls are there or not, and that what an answer is read as
is sent and read again without a change, arguments that were no object included.
-/

namespace RepoSurvey

namespace Json

/-- The text of an object is not empty. -/
theorem text_obj_ne_empty (style : Style) (members : List (String × Json)) : (Json.obj members).text style ≠ "" := by
  obtain ⟨inside, written⟩ := write_obj_braced style 0 members
  intro isEmpty
  have empty : write style 0 (.obj members) = [] := by simpa [text] using congrArg String.toList isEmpty
  rw [written] at empty
  exact List.cons_ne_nil _ _ empty

/-- The members that a dictionary of texts is written as are those it was made of, each name once. -/
theorem Dictionary.toMembers_ofMembers (members : List (String × Json)) :
    (Dictionary.ofMembers members).toMembers = mergeMembers members := by
  rw [toMembers, ofMembers, mergeMembers, List.foldl_map]
  rfl

end Json

namespace Schema.Codec

/-- What is read as a text is that text. -/
theorem read_text_iff {value : Json} {found : String} : text.read value = .valid found ↔ value = .str found := by
  constructor
  · intro read
    cases value with
    | str held => exact congrArg Json.str (Checked.valid.inj read)
    | _ => nomatch read
  · rintro rfl
    rfl

end Schema.Codec

namespace Chat

open Schema

/-- Arguments that come back from their text: those of an object with integers of few digits. -/
def ToolCall.IsPlain (call : ToolCall) : Prop :=
  (Json.obj call.arguments).Sound ∧ (Json.obj call.arguments).integersFit = true

/-- An assistant message that answers no tool call and whose own calls have arguments that come back. -/
structure Message.IsReply (message : Message) : Prop where
  assistant : message.role = .assistant
  answersNone : message.toolCallId = none
  plain : ∀ call ∈ message.toolCalls, call.IsPlain

/-- Arguments whose names are texts are read as they are, each name once. -/
theorem readArguments_ofMembers (arguments : List (String × Json)) :
    readArguments (.ofMembers arguments) = .valid (Json.mergeMembers arguments) := by
  simp only [readArguments]
  rw [if_pos, Json.Dictionary.toMembers_ofMembers]
  rw [List.isEmpty_iff, List.filterMap_eq_nil_iff, Json.Dictionary.ofMembers, List.forall_mem_map]
  exact fun _ _ => rfl

/-- A tool call is made up of two texts and of arguments whose names are texts. -/
theorem readCall_eq_ok_iff {id name : Answer} {arguments : List (String × Json)} {call : ToolCall} :
    readCall id name (.ofMembers arguments) = .ok call ↔
      id.toJson = .str call.id ∧ name.toJson = .str call.name ∧ call.arguments = Json.mergeMembers arguments := by
  rw [readCall, readArguments_ofMembers, ← Codec.read_text_iff, ← Codec.read_text_iff]
  cases Codec.text.read id.toJson with
  | invalid issues =>
    cases Codec.text.read name.toJson <;>
      simp [Checked.under, Checked.both, Checked.map, Checked.toExcept, Except.mapError]
  | valid id =>
    cases Codec.text.read name.toJson with
    | invalid issues =>
      simp [Checked.under, Checked.both, Checked.map, Checked.toExcept, Except.mapError]
    | valid name =>
      obtain ⟨ownId, ownName, own⟩ := call
      simp [Checked.toExcept, Except.mapError, eq_comm]

namespace Completions

/-- The message of an answer that says what is sent for a message. What is not sent is null there. -/
def echo (message : Message) : Answer :=
  match Answer.ofJson (encode message) with
  | .object attributes => .object (attributes ++ [("tool_calls", .plain .null)])
  | other => other

/-! ## From a message to its answer and back -/

/-- Arguments are read back from the text that is sent for them. -/
theorem decodeAnyArguments_text {arguments : List (String × Json)} (sound : (Json.obj arguments).Sound)
    (fits : (Json.obj arguments).integersFit = true) :
    decodeAnyArguments (.plain (.str ((Json.obj arguments).text .compact))) = .ok arguments := by
  have notEmpty := Json.text_obj_ne_empty .compact arguments
  have isPresent : (Answer.plain (.str ((Json.obj arguments).text .compact))).isPresent = true := by
    simpa [Answer.isPresent, Json.isPresent] using notEmpty
  unfold decodeAnyArguments
  rw [isPresent]
  dsimp only
  rw [decodeArguments, if_neg notEmpty, Json.text, String.toList_ofList, Json.readAll_write sound fits]

/-- A tool call is read back from what is sent for it. -/
theorem decodeCall_encodeCall {call : ToolCall} (plain : call.IsPlain) :
    decodeCall (Answer.ofJson (encodeCall call)) = .ok call := by
  obtain ⟨sound, fits⟩ := plain
  calc decodeCall (Answer.ofJson (encodeCall call))
      = decodeAnyArguments (.plain (.str ((Json.obj call.arguments).text .compact))) >>= fun arguments =>
          readCall (.plain (.str call.id)) (.plain (.str call.name)) (.ofMembers arguments) := rfl
    _ = readCall (.plain (.str call.id)) (.plain (.str call.name)) (.ofMembers call.arguments) := by
          rw [decodeAnyArguments_text sound fits, ok_bind]
    _ = .ok call := readCall_eq_ok_iff.mpr ⟨rfl, rfl, (Json.mergeMembers_of_nodup sound.1).symm⟩

/-- Tool calls are read back from what is sent for them. -/
theorem decodeCalls_encodeCalls {calls : List ToolCall} (plain : ∀ call ∈ calls, call.IsPlain) :
    (Answer.itemsOf (calls.map encodeCall)).mapM decodeCall = .ok calls := by
  induction calls with
  | nil => rfl
  | cons call calls inductionHypothesis =>
    obtain ⟨first, others⟩ := List.forall_mem_cons.mp plain
    rw [List.map_cons, Answer.itemsOf, List.mapM_cons, decodeCall_encodeCall first, ok_bind,
      inductionHypothesis others, ok_bind]
    rfl

/-- Content is read back from what is sent for it, whether an empty text is sent for no content or null. -/
theorem readAssistant_content (content : String) (calls : List ToolCall) :
    readAssistant (.plain (.str content)) calls = .ok (.assistant content calls) ∧
      readAssistant (Answer.ofJson (if content = "" then .null else .str content)) calls =
        .ok (.assistant content calls) := by
  by_cases empty : content = ""
  · subst empty
    exact ⟨rfl, rfl⟩
  · have isPresent : (Answer.plain (.str content)).isPresent = true := by
      simpa [Answer.isPresent, Json.isPresent] using empty
    have read : readAssistant (.plain (.str content)) calls = .ok (.assistant content calls) := by
      rw [readAssistant, isPresent]
      rfl
    rw [if_neg empty]
    exact ⟨read, read⟩

/-- A message of the assistant is read back from the answer that says what is sent for it. -/
theorem decode_echo {message : Message} (reply : message.IsReply) : decode (echo message) = .ok message := by
  obtain ⟨role, content, calls, answered⟩ := message
  obtain ⟨rfl, rfl, plain⟩ := reply
  cases calls with
  | nil => exact (readAssistant_content content []).1
  | cons call calls =>
    calc decode (echo ⟨.assistant, content, call :: calls, none⟩)
        = (Answer.itemsOf ((call :: calls).map encodeCall)).mapM decodeCall >>= fun read =>
            readAssistant (Answer.ofJson (if content = "" then .null else .str content)) read := rfl
      _ = readAssistant (Answer.ofJson (if content = "" then .null else .str content)) (call :: calls) := by
            rw [decodeCalls_encodeCalls plain, ok_bind]
      _ = .ok ⟨.assistant, content, call :: calls, none⟩ := (readAssistant_content content (call :: calls)).2

/-! ## What answers are read as -/

/-- Arguments that are read from a text come back. -/
theorem readable_of_decodeArguments {text : String} {arguments : List (String × Json)}
    (read : decodeArguments text = .ok arguments) :
    (Json.obj arguments).Sound ∧ (Json.obj arguments).integersFit = true := by
  unfold decodeArguments at read
  split at read
  · next members found =>
    obtain rfl := Except.ok.inj read
    exact ⟨Json.sound_readAll found, Json.integersFit_readAll found⟩
  · next other _ found =>
    obtain rfl := Except.ok.inj read
    have sound := Json.sound_readAll found
    have fits := Json.integersFit_readAll found
    exact ⟨⟨List.nodup_singleton _, sound, trivial⟩, by simp [Json.integersFit, Json.memberIntegersFit, fits]⟩
  · split at read
    · nomatch read
    · obtain rfl := Except.ok.inj read
      exact ⟨⟨List.nodup_singleton _, trivial, trivial⟩, rfl⟩

/-- Arguments that are read from a part of an answer come back. -/
theorem readable_of_decodeAnyArguments {answer : Answer} {arguments : List (String × Json)}
    (read : decodeAnyArguments answer = .ok arguments) :
    (Json.obj arguments).Sound ∧ (Json.obj arguments).integersFit = true := by
  unfold decodeAnyArguments at read
  split at read
  · obtain rfl := Except.ok.inj read
    exact ⟨⟨List.nodup_nil, trivial⟩, rfl⟩
  · exact readable_of_decodeArguments read
  · nomatch read
  · nomatch read

/-- A tool call that is read has arguments that come back. -/
theorem isPlain_of_decodeCall {answer : Answer} {call : ToolCall} (read : decodeCall answer = .ok call) :
    call.IsPlain := by
  simp only [decodeCall, bind_eq_ok] at read
  obtain ⟨function, -, part, -, arguments, found, id, -, name, -, made⟩ := read
  obtain ⟨-, -, same⟩ := readCall_eq_ok_iff.mp made
  obtain ⟨sound, fits⟩ := readable_of_decodeAnyArguments found
  rw [Json.mergeMembers_of_nodup sound.1] at same
  rw [ToolCall.IsPlain, same]
  exact ⟨sound, fits⟩

/-- Tool calls that are read have arguments that come back. -/
theorem isPlain_of_decodeCalls {parts : List Answer} {calls : List ToolCall}
    (read : parts.mapM decodeCall = .ok calls) : ∀ call ∈ calls, call.IsPlain := by
  induction parts generalizing calls with
  | nil =>
    obtain rfl := Except.ok.inj read
    intro call member
    nomatch member
  | cons part parts inductionHypothesis =>
    simp only [List.mapM_cons, bind_eq_ok] at read
    obtain ⟨call, first, others, later, made⟩ := read
    obtain rfl := Except.ok.inj made
    exact List.forall_mem_cons.mpr ⟨isPlain_of_decodeCall first, inductionHypothesis later⟩

/-- An assistant message made of content and tool calls has these calls and answers none. -/
theorem of_readAssistant {content : Answer} {calls : List ToolCall} {message : Message}
    (read : readAssistant content calls = .ok message) : ∃ text, message = .assistant text calls := by
  unfold readAssistant at read
  split at read
  · rw [mapError_eq_ok] at read
    cases found : Codec.text.read content.toJson with
    | invalid issues => rw [found] at read; nomatch read
    | valid text => rw [found] at read; exact ⟨text, (Except.ok.inj read).symm⟩
  · exact ⟨"", (Except.ok.inj read).symm⟩

/-- What an answer is read as is a message of the assistant that comes back. -/
theorem isReply_of_decode {answer : Answer} {message : Message} (read : decode answer = .ok message) :
    message.IsReply := by
  simp only [decode, bind_eq_ok] at read
  obtain ⟨listed, -, parts, -, calls, found, content, -, made⟩ := read
  obtain ⟨text, rfl⟩ := of_readAssistant made
  exact ⟨rfl, rfl, isPlain_of_decodeCalls found⟩

/-- Messages of the assistant whose arguments are objects with integers of few digits are read back from what is
sent for them; and whatever an answer is read as, sending and reading it again changes nothing. -/
theorem decode_echo_account :
    (∀ message : Message, message.IsReply -> decode (echo message) = .ok message) ∧
      ∀ (answer : Answer) (message : Message),
        decode answer = .ok message -> decode (echo message) = .ok message := by
  constructor
  · intro message reply
    exact decode_echo reply
  · intro answer message read
    exact decode_echo (isReply_of_decode read)

/-- An answer whose calls have broken arguments, arguments that are no object and none at all. -/
def looseAnswer : Answer :=
  Answer.ofJson <| .obj
    [("content", .str "x"), ("tool_calls", .arr
      [ .obj [("id", .str "a"), ("function", .obj [("name", .str "f"), ("arguments", .str "\x7bbroken")])],
        .obj [("id", .str "b"), ("function", .obj [("name", .str "g"), ("arguments", .str "[true]")])],
        .obj [("id", .str "b"), ("function", .obj [("name", .str "h"), ("arguments", .null)])] ])]

/-- The message that the loose answer is read as. -/
def looseMessage : Message :=
  .assistant "x"
    [ ⟨"a", "f", [("_raw", .str "\x7bbroken")]⟩, ⟨"b", "g", [("_raw", .arr [.bool true])]⟩, ⟨"b", "h", []⟩ ]

/-- A message without content whose only call has nested arguments. -/
def silentMessage : Message := .assistant "" [⟨"", "f", [("p", .obj [("", .null)]), ("q", .arr [])]⟩]

/-- The loose answer is read as the loose message, which is read back, and so is the silent message. -/
theorem looseMessage_kept :
    decode looseAnswer = .ok looseMessage ∧ decode (echo looseMessage) = .ok looseMessage ∧
      silentMessage.IsReply ∧ decode (echo silentMessage) = .ok silentMessage := by
  have read : decode looseAnswer = .ok looseMessage := by rfl
  have reply : silentMessage.IsReply := by
    refine ⟨rfl, rfl, ?_⟩
    simp [silentMessage, Message.assistant, ToolCall.IsPlain, Json.Sound, Json.SoundMembers, Json.SoundItems,
      Json.integersFit, Json.memberIntegersFit, Json.itemIntegersFit]
  exact ⟨read, decode_echo_account.2 looseAnswer looseMessage read, reply,
    decode_echo_account.1 silentMessage reply⟩

end Completions

end Chat

end RepoSurvey

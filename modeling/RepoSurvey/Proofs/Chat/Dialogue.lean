import Mathlib
import RepoSurvey.Chat.Turn

/-!
# Turns of dialogues

In a dialogue nobody speaks out of turn: a reply comes after a message of the user or the answers of tools, and
tool calls are answered at once, each by a message of its own. `Dialogue` says so of the messages, whatever was
said before them. The turns of a dialogue that waits for a reply are as they have to be for a provider
(`Dialogue.waiting`): where a reply says nothing, no turn is left of it, and what comes before and after it is one
turn of the user. The proof goes through a dialogue from its end, where `Turn.Continues` is kept by every message.
-/

namespace RepoSurvey.Chat

/-! ## Turns that wait for a reply -/

namespace Block

/-- The identifier with which a block answers a tool call. -/
def answered? : Block -> Option (Option String)
  | .toolResult toolCallId _ => some toolCallId
  | _ => none

/-- The identifier of the tool call that a block makes. -/
def called? : Block -> Option String
  | .toolUse call => some call.id
  | _ => none

/-- Whether blocks begin with answers to some tool calls, one for each of them in their order, and hold no others. -/
def Answer (calls : List String) (blocks : List Block) : Prop :=
  ∃ answers others, blocks = answers ++ others ∧
    answers.map answered? = calls.map (fun id => some (some id)) ∧ ∀ block ∈ others, block.answered? = none

/-- Blocks without answers answer no calls. -/
theorem answer_nil {blocks : List Block} (none : ∀ block ∈ blocks, block.answered? = .none) :
    Answer [] blocks := ⟨[], blocks, rfl, rfl, none⟩

/-- Blocks that answer no calls hold no answers. -/
theorem Answer.none {blocks : List Block} (answer : Answer [] blocks) :
    ∀ block ∈ blocks, block.answered? = .none := by
  obtain ⟨answers, others, rfl, isEmpty, none⟩ := answer
  obtain rfl := List.map_eq_nil_iff.mp isEmpty
  exact none

/-- Blocks without answers may follow. -/
theorem Answer.append {calls : List String} {blocks more : List Block} (answer : Answer calls blocks)
    (others : Answer [] more) : Answer calls (blocks ++ more) := by
  obtain ⟨answers, rest, rfl, isAnswers, none⟩ := answer
  exact ⟨answers, rest ++ more, List.append_assoc _ _ _, isAnswers,
    List.forall_mem_append.mpr ⟨none, others.none⟩⟩

end Block

namespace Turn

/-- The tool calls that a turn makes. -/
def calls (turn : Turn) : List String := turn.blocks.filterMap Block.called?

/-- Whether turns begin with one of the user. -/
def BeginsWithUser (turns : List Turn) : Prop := ∃ first rest, turns = first :: rest ∧ first.speaker = .user

/-- Whether turns may follow upon some tool calls and wait for a reply. -/
structure Continues (pending : List String) (turns : List Turn) : Prop where
  /-- The speakers alternate. -/
  alternates : turns.IsChain fun turn next => turn.speaker ≠ next.speaker
  /-- No turn is empty. -/
  filled : ∀ turn ∈ turns, turn.blocks ≠ []
  /-- Each turn of the assistant is followed by one that begins with the answers to its calls. -/
  answered : turns.IsChain fun turn next => turn.speaker = .assistant -> Block.Answer turn.calls next.blocks
  /-- The assistant answers no calls. -/
  unanswering : ∀ turn ∈ turns, turn.speaker = .assistant -> Block.Answer [] turn.blocks
  /-- A turn of the user at the beginning answers the calls before it. -/
  pending : ∀ turn ∈ turns.head?, turn.speaker = .user -> Block.Answer pending turn.blocks
  /-- The last turn is one of the user. -/
  ends : ∀ turn ∈ turns.getLast?, turn.speaker = .user

/-- Whether turns are those of a conversation that waits for a reply: they begin and end with a turn of the user,
the speakers alternate, no turn is empty, and the answers to tool calls stand where they have to, and nowhere
else. -/
structure Waiting (turns : List Turn) : Prop extends Continues [] turns where
  begins : BeginsWithUser turns

/-- No turns follow upon anything. -/
theorem continues_nil (pending : List String) : Continues pending [] where
  alternates := .nil
  filled _ member := nomatch member
  answered := .nil
  unanswering _ member := nomatch member
  pending _ member := nomatch member
  ends _ member := nomatch member

/-- Nothing changes when nothing is put in front of turns. -/
@[simp] theorem prepend_nil (speaker : Speaker) (turns : List Turn) : prepend speaker [] turns = turns := rfl

/-- Blocks are put in front of a turn of the same speaker. -/
theorem prepend_same {speaker : Speaker} {blocks : List Block} (isSome : blocks ≠ []) (others : List Block)
    (rest : List Turn) :
    prepend speaker blocks (⟨speaker, others⟩ :: rest) = ⟨speaker, blocks ++ others⟩ :: rest := by
  unfold prepend
  rw [if_neg (by simpa using isSome)]
  exact if_pos rfl

/-- Blocks are a turn of their own in front of a turn of somebody else. -/
theorem prepend_other {speaker : Speaker} {blocks : List Block} (isSome : blocks ≠ []) {turns : List Turn}
    (other : ∀ first ∈ turns.head?, first.speaker ≠ speaker) :
    prepend speaker blocks turns = ⟨speaker, blocks⟩ :: turns := by
  unfold prepend
  rw [if_neg (by simpa using isSome)]
  cases turns with
  | nil => rfl
  | cons first rest => exact if_neg (other first rfl)

/-- Blocks that are put in front of turns one after another are put there together. -/
theorem prepend_append (speaker : Speaker) (first second : List Block) (turns : List Turn) :
    prepend speaker (first ++ second) turns = prepend speaker first (prepend speaker second turns) := by
  by_cases firstEmpty : first = []
  · rw [firstEmpty, List.nil_append, prepend_nil]
  by_cases secondEmpty : second = []
  · rw [secondEmpty, List.append_nil, prepend_nil]
  have isSome : first ++ second ≠ [] := fun none => firstEmpty (List.append_eq_nil_iff.mp none).1
  by_cases other : ∀ first ∈ turns.head?, first.speaker ≠ speaker
  · rw [prepend_other isSome other, prepend_other secondEmpty other, prepend_same firstEmpty]
  · obtain ⟨⟨_, others⟩, rest, rfl, rfl⟩ : ∃ turn rest, turns = turn :: rest ∧ turn.speaker = speaker := by
      cases turns with
      | nil => simp at other
      | cons turn rest => exact ⟨turn, rest, rfl, by simpa using other⟩
    rw [prepend_same isSome, prepend_same secondEmpty, prepend_same firstEmpty, List.append_assoc]

section Continuing

variable {pending : List String} {turns : List Turn} {blocks : List Block}

/-- A turn may be put in front of turns of which the first has another speaker. -/
theorem Continues.cons {calls : List String} {turn : Turn} (continues : Continues calls turns)
    (isSome : turn.blocks ≠ []) (alternates : ∀ next ∈ turns.head?, turn.speaker ≠ next.speaker)
    (answered : turn.speaker = .assistant -> ∀ next ∈ turns.head?, Block.Answer turn.calls next.blocks)
    (unanswering : turn.speaker = .assistant -> Block.Answer [] turn.blocks)
    (answers : turn.speaker = .user -> Block.Answer pending turn.blocks)
    (ends : turns = [] -> turn.speaker = .user) : Continues pending (turn :: turns) where
  alternates := List.isChain_cons.mpr ⟨alternates, continues.alternates⟩
  filled := List.forall_mem_cons.mpr ⟨isSome, continues.filled⟩
  answered := List.isChain_cons.mpr
    ⟨fun next isNext isAssistant => answered isAssistant next isNext, continues.answered⟩
  unanswering := List.forall_mem_cons.mpr ⟨unanswering, continues.unanswering⟩
  pending := by simpa using answers
  ends := by
    cases turns with
    | nil => simpa using ends rfl
    | cons next rest => simpa [List.getLast?_cons_cons] using continues.ends

/-- What continues goes on to do so after its first turn. -/
theorem Continues.tail {turn : Turn} (continues : Continues pending (turn :: turns))
    (isUser : turn.speaker = .user) : Continues [] turns where
  alternates := (List.isChain_cons.mp continues.alternates).2
  filled := (List.forall_mem_cons.mp continues.filled).2
  answered := (List.isChain_cons.mp continues.answered).2
  unanswering := (List.forall_mem_cons.mp continues.unanswering).2
  pending next isNext nextUser :=
    absurd (isUser.trans nextUser.symm) ((List.isChain_cons.mp continues.alternates).1 next isNext)
  ends := by
    cases turns with
    | nil => simp
    | cons next rest => simpa [List.getLast?_cons_cons] using continues.ends

/-- Answers to calls, or what else the user says, may be put in front of turns that follow upon no calls. -/
theorem Continues.user (continues : Continues [] turns) (isSome : blocks ≠ [])
    (answer : Block.Answer pending blocks) :
    Continues pending (prepend .user blocks turns) ∧ BeginsWithUser (prepend .user blocks turns) := by
  by_cases other : ∀ first ∈ turns.head?, first.speaker ≠ .user
  · rw [prepend_other isSome other]
    exact ⟨continues.cons isSome (fun next isNext => (other next isNext).symm) (fun isAssistant => nomatch isAssistant)
      (fun isAssistant => nomatch isAssistant) (fun _ => answer) fun _ => rfl, _, _, rfl, rfl⟩
  · obtain ⟨⟨_, others⟩, rest, rfl, rfl⟩ : ∃ turn rest, turns = turn :: rest ∧ turn.speaker = .user := by
      cases turns with
      | nil => simp at other
      | cons turn rest => exact ⟨turn, rest, rfl, by simpa using other⟩
    rw [prepend_same isSome]
    have more : Block.Answer [] others := continues.pending _ rfl rfl
    exact ⟨(continues.tail rfl).cons (by simp [isSome]) (List.isChain_cons.mp continues.alternates).1
      (fun isAssistant => nomatch isAssistant) (fun isAssistant => nomatch isAssistant)
      (fun _ => answer.append more) fun _ => rfl, _, _, rfl, rfl⟩

/-- A reply may be put in front of a turn of the user that follows upon its calls. -/
theorem Continues.assistant (continues : Continues (blocks.filterMap Block.called?) turns)
    (begins : BeginsWithUser turns) (isSome : blocks ≠ []) (unanswering : Block.Answer [] blocks) :
    Continues [] (prepend .assistant blocks turns) := by
  obtain ⟨first, rest, rfl, isUser⟩ := begins
  have other : ∀ turn ∈ (first :: rest).head?, turn.speaker ≠ .assistant := by
    simp [isUser]
  rw [prepend_other isSome other]
  refine continues.cons isSome (fun next isNext => (other next isNext).symm) ?_ (fun _ => unanswering)
    (fun isUser => nomatch isUser) fun none => nomatch none
  exact fun _ next isNext => continues.pending next isNext (by simpa [← Option.some.inj isNext] using isUser)

end Continuing

/-- The turns of the answers to tool calls and of what follows them. -/
theorem ofMessages_answers (answered : List (ToolCall × String)) (messages : List Message) :
    ofMessages (answered.map (fun call => Message.toolAnswer call.1.id call.2) ++ messages) =
      prepend .user (answered.map fun call => .toolResult (some call.1.id) call.2) (ofMessages messages) := by
  induction answered with
  | nil => rfl
  | cons call answered inductionHypothesis =>
    rw [List.map_cons, List.map_cons, List.cons_append, ← List.singleton_append (x := Block.toolResult _ _),
      prepend_append, ← inductionHypothesis]
    rfl

end Turn

/-- The blocks of a reply make its calls. -/
theorem Message.called_assistant (content : String) (calls : List ToolCall) :
    (Message.assistant content calls).blocks.filterMap Block.called? = calls.map ToolCall.id := by
  have uses : (calls.map Block.toolUse).filterMap Block.called? = calls.map ToolCall.id := by
    rw [List.filterMap_map, ← List.filterMap_eq_map]
    rfl
  show ((if content = "" then [] else [Block.text content]) ++ calls.map Block.toolUse).filterMap _ = _
  rw [List.filterMap_append, uses]
  split <;> rfl

/-- The blocks of a reply answer no calls. -/
theorem Message.answer_assistant (content : String) (calls : List ToolCall) :
    Block.Answer [] (Message.assistant content calls).blocks := by
  refine Block.answer_nil fun block member => ?_
  rcases List.mem_append.mp member with isText | isUse
  · split at isText
    · nomatch isText
    · rw [List.mem_singleton.mp isText]
      rfl
  · obtain ⟨call, -, rfl⟩ := List.mem_map.mp isUse
    rfl

/-! ## Dialogues -/

/-- Messages that may follow one another. The truth values say whether a reply is waited for before and after
them. -/
inductive Dialogue : Bool -> List Message -> Bool -> Prop where
  | nil (waits : Bool) : Dialogue waits [] waits
  /-- A system prompt changes nothing about that. -/
  | system {before after : Bool} {messages : List Message} (content : String)
      (rest : Dialogue before messages after) : Dialogue before (.system content :: messages) after
  /-- The user may always speak. -/
  | user {before after : Bool} {messages : List Message} (content : String)
      (rest : Dialogue true messages after) : Dialogue before (.user content :: messages) after
  /-- A reply without tool calls leaves the turn to the user. -/
  | spoken {after : Bool} {messages : List Message} (content : String)
      (rest : Dialogue false messages after) : Dialogue true (.assistant content [] :: messages) after
  /-- A reply with tool calls is followed by the answers to all of them. -/
  | worked {after : Bool} {messages : List Message} (content : String) (first : ToolCall × String)
      (others : List (ToolCall × String)) (rest : Dialogue true messages after) :
      Dialogue true ((.assistant content ((first :: others).map Prod.fst) ::
        (first :: others).map fun call => .toolAnswer call.1.id call.2) ++ messages) after

namespace Dialogue

/-- Dialogues in a row are a dialogue. -/
theorem append {before middle after : Bool} {first second : List Message} (start : Dialogue before first middle)
    (finish : Dialogue middle second after) : Dialogue before (first ++ second) after := by
  induction start with
  | nil waits => exact finish
  | system content rest inductionHypothesis => exact .system content (inductionHypothesis finish)
  | user content rest inductionHypothesis => exact .user content (inductionHypothesis finish)
  | spoken content rest inductionHypothesis => exact .spoken content (inductionHypothesis finish)
  | worked content first others rest inductionHypothesis =>
    rw [List.append_assoc]
    exact .worked content first others (inductionHypothesis finish)

/-- A dialogue is one without the system prompt that it begins with. -/
theorem tail {before after : Bool} {content : String} {messages : List Message}
    (dialogue : Dialogue before (.system content :: messages) after) : Dialogue before messages after := by
  generalize same : Message.system content :: messages = all at dialogue
  cases dialogue with
  | nil => nomatch same
  | system other rest =>
    obtain ⟨-, rfl⟩ := List.cons.inj same
    exact rest
  | user other rest => nomatch congrArg Message.role (List.cons.inj same).1
  | spoken other rest => nomatch congrArg Message.role (List.cons.inj same).1
  | worked other first others rest => nomatch congrArg Message.role (List.cons.inj same).1

/-- The turns of what may follow when a reply is waited for, and when it is not. -/
theorem continues {before after : Bool} {messages : List Message} (dialogue : Dialogue before messages after)
    (waits : after = true) : Turn.Continues [] (Turn.ofMessages messages) ∧
      (before = false -> Turn.BeginsWithUser (Turn.ofMessages messages)) := by
  induction dialogue with
  | nil => exact ⟨Turn.continues_nil [], fun waitsNot => nomatch waitsNot.symm.trans waits⟩
  | system content rest inductionHypothesis => exact inductionHypothesis waits
  | user content rest inductionHypothesis =>
    have said := (inductionHypothesis waits).1.user (List.cons_ne_nil (Block.text content) [])
      (Block.answer_nil (by simp [Block.answered?]))
    exact ⟨said.1, fun _ => said.2⟩
  | @spoken _ messages content rest inductionHypothesis =>
    obtain ⟨continues, begins⟩ := inductionHypothesis waits
    refine ⟨?_, fun waitsNot => nomatch waitsNot⟩
    show Turn.Continues [] (Turn.prepend .assistant (Message.assistant content []).blocks (Turn.ofMessages messages))
    by_cases silent : (Message.assistant content []).blocks = []
    · rw [silent]
      exact continues
    · refine Turn.Continues.assistant ?_ (begins rfl) silent (Message.answer_assistant content [])
      rwa [Message.called_assistant]
  | @worked _ messages content first others rest inductionHypothesis =>
    refine ⟨?_, fun waitsNot => nomatch waitsNot⟩
    show Turn.Continues [] (Turn.prepend .assistant
      (Message.assistant content ((first :: others).map Prod.fst)).blocks (Turn.ofMessages (_ ++ messages)))
    have answer : Block.Answer (((first :: others).map Prod.fst).map ToolCall.id)
        ((first :: others).map fun call => .toolResult (some call.1.id) call.2) :=
      ⟨_, [], (List.append_nil _).symm, by simp [Block.answered?], by simp⟩
    obtain ⟨continues, begins⟩ := (inductionHypothesis waits).1.user (List.cons_ne_nil _ _) answer
    rw [Turn.ofMessages_answers]
    refine Turn.Continues.assistant ?_ begins (fun none => ?_) (Message.answer_assistant _ _)
    · rwa [Message.called_assistant]
    · have called := Message.called_assistant content ((first :: others).map Prod.fst)
      rw [none] at called
      nomatch called

/-- The turns of a dialogue that waits for a reply are as they have to be. -/
theorem waiting {messages : List Message} (dialogue : Dialogue false messages true) :
    Turn.Waiting (Turn.ofMessages messages) :=
  ⟨(dialogue.continues rfl).1, (dialogue.continues rfl).2 rfl⟩

end Dialogue

end RepoSurvey.Chat

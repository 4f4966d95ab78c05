import RepoSurvey.Proofs.Activity.Goes
import RepoSurvey.Proofs.Json.Refusals
import RepoSurvey.Proofs.Reply.Extraction

/-!
# Corrections of replies

Looking for the object in a reply finds one, or fails so that the reply can be corrected and is kept with the failure,
unless an integer in it has too many digits (`found_parseObject`, `parseObject_overlong`). `goes_extract_iff` says which
conversations come of corrections: every reply that can be corrected is, up to the limit, and none else.
-/

namespace RepoSurvey.Reply

open Activity (Exchange Goes goes_call goes_done)

/-! ## Replies -/

/-- What can come of looking for the object in a reply. -/
inductive Found (reply : String) : Except ExtractionFailure Json -> Prop where
  /-- There is one. -/
  | object (members : List (String × Json)) : Found reply (.ok (.obj members))
  /-- There is none that can be read. The reply is kept with the failure, and can be corrected. -/
  | correctable {failure : ExtractionFailure} (isCorrectable : failure.isCorrectable = true)
      (isKept : failure.rawText? = some reply) : Found reply (.error failure)
  /-- An integer has too many digits, which stand in a row in the reply. -/
  | overlong {digits : Nat} (long : Json.integerDigitLimit < digits) (has : Json.HasDigits digits reply.toList) :
      Found reply (.error (.overlongInteger digits))

/-- The braced part of a text stands in it and begins with an opening brace. -/
theorem bracedPart?_shape {text part : List Char} (braced : bracedPart? text = some part) :
    part <:+: text ∧ ∃ others, part = '{' :: others := by
  unfold bracedPart? at braced
  dsimp only at braced
  split at braced
  · nomatch braced
  · next some =>
    obtain rfl := Option.some.inj braced
    have isFirst : ((text.dropWhile (· != '{')).reverse.dropWhile (· != '}')).reverse <+:
        text.dropWhile (· != '{') := by
      rw [← List.reverse_suffix, List.reverse_reverse]
      exact List.dropWhile_suffix _
    refine ⟨isFirst.isInfix.trans (List.dropWhile_suffix _).isInfix, ?_⟩
    obtain ⟨rest, split⟩ := isFirst
    cases part : ((text.dropWhile (· != '{')).reverse.dropWhile (· != '}')).reverse with
    | nil => simp [part] at some
    | cons c others =>
      have isBrace : (c != '{') = false := by
        rw [part, List.cons_append] at split
        have head := List.head?_dropWhile_not (· != '{') text
        rw [← split] at head
        simpa using head
      exact ⟨others, by rw [show c = '{' by simpa using isBrace]⟩

/-- What is found in a reply is one of these. -/
theorem found_parseObject (reply : String) : Found reply (parseObject reply) := by
  unfold parseObject
  split
  · exact .correctable rfl rfl
  · next part braced =>
    obtain ⟨within, others, rfl⟩ := bracedPart?_shape braced
    split
    · next value read =>
      obtain ⟨members, rfl⟩ := Json.obj_of_readAll read
      exact .object members
    · next fault refused =>
      split
      · next digits isFlaw =>
        obtain ⟨long, has⟩ := Json.hasDigits_of_readAll refused isFlaw
        exact .overlong long (has.mono within)
      · exact .correctable rfl rfl

/-- An object with an integer of too many digits, at whatever depth, is found in no reply around its text that has no
opening brace before it and no closing one after it, and the reply cannot be corrected. -/
theorem parseObject_overlong (style : Json.Style) {members : List (String × Json)} {before after : String}
    (sound : (Json.obj members).Sound) (overlong : (Json.obj members).integersFit = false)
    (noOpening : '{' ∉ before.toList) (noClosing : '}' ∉ after.toList) :
    ∃ digits, parseObject (before ++ Json.text style (.obj members) ++ after) = .error (.overlongInteger digits) := by
  have part : bracedPart? (before ++ Json.text style (.obj members) ++ after).toList =
      some (Json.write style 0 (.obj members)) := by
    rw [String.toList_append, String.toList_append, Json.text, String.toList_ofList]
    exact bracedPart?_write style members noOpening noClosing
  obtain ⟨fault, ⟨digits, isFlaw⟩, refused⟩ := Json.readAll_overlong sound overlong
  refine ⟨digits, ?_⟩
  rw [parseObject, part]
  dsimp only
  rw [refused]
  dsimp only
  rw [isFlaw]

/-! ## Conversations -/

section Extraction

variable {m : Type -> Type} [Monad m] {σ : Type} {reask : String -> σ -> m (String × σ)} {limit : Nat} {reply : String}
  {state : σ}

/-- A reply that cannot be corrected, or not any more, decides about what is found. -/
theorem extract_settled (settled : ∀ failure, parseObject reply = .error failure ->
    failure.isCorrectable = true -> limit = 0) : extract reask limit reply state = pure (parseObject reply, state) := by
  unfold extract
  cases parsed : parseObject reply with
  | ok value => rfl
  | error failure =>
    cases limit with
    | zero => rfl
    | succ limit =>
      have isFinal : failure.isCorrectable = false :=
        Bool.eq_false_iff.mpr fun isCorrectable => nomatch settled failure parsed isCorrectable
      dsimp only
      rw [isFinal, if_neg Bool.false_ne_true]

/-- A reply that can be corrected is, and the next one takes its place. -/
theorem extract_again {failure : ExtractionFailure} (parsed : parseObject reply = .error failure)
    (isCorrectable : failure.isCorrectable = true) : extract reask (limit + 1) reply state =
      reask (correction failure) state >>= fun next => extract reask limit next.1 next.2 := by
  rw [extract, parsed]
  dsimp only
  rw [if_pos isCorrectable]

end Extraction

/-- A correction that is answered by another reply, whichever it is. -/
def reasked (correction : String) (_ : Unit) : Activity String (fun _ => String) (String × Unit) :=
  .call correction fun reply => .done (reply, ())

/-- A reply that can be corrected is, by a single call. -/
theorem extract_reasked {limit : Nat} {reply : String} {failure : ExtractionFailure}
    (parsed : parseObject reply = .error failure) (isCorrectable : failure.isCorrectable = true) :
    extract reasked (limit + 1) reply () = .call (correction failure) fun next => extract reasked limit next () :=
  extract_again parsed isCorrectable

/-- The replies of a conversation: the first one and the answers to corrections. -/
def replies (reply : String) (way : List (Exchange String fun _ => String)) : List String :=
  reply :: way.map (·.answer)

/-- Whether every reply that was answered by a correction could be corrected, and was by the correction of its own
failure. -/
def Corrected (reply : String) (way : List (Exchange String fun _ => String)) : Prop :=
  ∀ answered ∈ (replies reply way).zip way, ∃ failure, parseObject answered.1 = .error failure ∧
    failure.isCorrectable = true ∧ answered.2.request = correction failure

/-- Corrections go on after the first one. -/
theorem corrected_cons {reply : String} {exchange : Exchange String fun _ => String}
    {way : List (Exchange String fun _ => String)} : Corrected reply (exchange :: way) ↔
      (∃ failure, parseObject reply = .error failure ∧ failure.isCorrectable = true ∧
        exchange.request = correction failure) ∧ Corrected exchange.answer way := by
  simp only [Corrected, replies, List.map_cons, List.zip_cons_cons, List.forall_mem_cons]

/-- What is found comes of the last reply. -/
def Concludes (reply : String) (way : List (Exchange String fun _ => String))
    (result : Except ExtractionFailure Json) : Prop := (replies reply way).getLast?.map parseObject = some result

/-- The last reply is that of the rest of a conversation. -/
theorem concludes_cons {reply : String} {exchange : Exchange String fun _ => String}
    {way : List (Exchange String fun _ => String)} {result : Except ExtractionFailure Json} :
    Concludes reply (exchange :: way) result ↔ Concludes exchange.answer way result := by
  simp only [Concludes, replies, List.map_cons, List.getLast?_cons_cons]

section Ways

variable {limit : Nat} {reply : String} {way : List (Exchange String fun _ => String)}
  {result : Except ExtractionFailure Json}

/-- A reply that cannot be corrected, or not any more, is the only one of its conversation. -/
theorem goes_extract_settled (settled : ∀ failure, parseObject reply = .error failure ->
    failure.isCorrectable = true -> limit = 0) : (extract reasked limit reply ()).Goes way (result, ()) ↔
      way.length ≤ limit ∧ Corrected reply way ∧ Concludes reply way result ∧
        ∀ failure, result = .error failure -> failure.isCorrectable = true -> way.length = limit := by
  rw [extract_settled settled]
  constructor
  · intro goes
    obtain ⟨rfl, same⟩ := goes_done.mp goes
    obtain rfl := (Prod.mk.inj same).1
    exact ⟨Nat.zero_le _, fun _ member => (nomatch member), rfl, fun failure parsed isCorrectable =>
      (settled failure parsed isCorrectable).symm⟩
  · rintro ⟨few, corrected, concludes, -⟩
    cases way with
    | nil =>
      obtain rfl := Option.some.inj concludes
      exact .done _
    | cons exchange rest =>
      obtain ⟨⟨failure, parsed, isCorrectable, -⟩, -⟩ := corrected_cons.mp corrected
      rw [settled failure parsed isCorrectable] at few
      nomatch few

/-- **Corrections.** In the conversations that come of a reply with a limit, every reply but the last is one that can
be corrected, and is answered by the correction of its failure. What is found comes of the last reply, which can only be
corrected if the limit is reached. -/
theorem goes_extract_iff (limit : Nat) (reply : String) (way : List (Exchange String fun _ => String))
    (result : Except ExtractionFailure Json) : (extract reasked limit reply ()).Goes way (result, ()) ↔
      way.length ≤ limit ∧ Corrected reply way ∧ Concludes reply way result ∧
        ∀ failure, result = .error failure -> failure.isCorrectable = true -> way.length = limit := by
  induction limit generalizing reply way with
  | zero => exact goes_extract_settled fun _ _ _ => rfl
  | succ limit inductionHypothesis =>
    by_cases again : ∃ failure, parseObject reply = .error failure ∧ failure.isCorrectable = true
    · obtain ⟨failure, parsed, isCorrectable⟩ := again
      rw [extract_reasked parsed isCorrectable, goes_call]
      constructor
      · rintro ⟨answer, rest, rfl, onward⟩
        obtain ⟨few, corrected, concludes, reached⟩ := (inductionHypothesis answer rest).mp onward
        refine ⟨Nat.succ_le_succ few, corrected_cons.mpr ⟨⟨failure, parsed, isCorrectable, rfl⟩, corrected⟩,
          concludes_cons.mpr concludes, fun other isResult canBe => ?_⟩
        rw [List.length_cons, reached other isResult canBe]
      · rintro ⟨few, corrected, concludes, reached⟩
        cases way with
        | nil =>
          obtain rfl := Option.some.inj concludes
          nomatch reached failure parsed isCorrectable
        | cons exchange rest =>
          obtain ⟨⟨other, alsoParsed, -, isRequest⟩, corrected⟩ := corrected_cons.mp corrected
          obtain rfl := Except.error.inj (parsed.symm.trans alsoParsed)
          refine ⟨exchange.answer, rest, by rw [← isRequest], (inductionHypothesis exchange.answer rest).mpr
            ⟨Nat.le_of_succ_le_succ few, corrected, concludes_cons.mp concludes, fun other isResult canBe => ?_⟩⟩
          exact Nat.succ.inj (reached other isResult canBe)
    · exact goes_extract_settled fun failure parsed isCorrectable => (again ⟨failure, parsed, isCorrectable⟩).elim

end Ways

end RepoSurvey.Reply

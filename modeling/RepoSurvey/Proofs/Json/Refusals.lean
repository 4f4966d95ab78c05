import RepoSurvey.Proofs.Json.RoundTrip

/-!
# What readings leave and refuse

What a reading leaves is a last part of the text, and an integer is refused for its length only where so many digits
stand in a row: `staysIn_readings` says so of values, items and members at any depth. What is read from an opening brace
on is an object (`obj_of_readAll`). The text of a value with an integer of too many digits, at whatever depth, is
refused for that (`readAll_overlong`), so that values are read back from their texts exactly when their integers fit.
-/

namespace RepoSurvey.Json

/-- Whether a text has some number of digits in a row. -/
def HasDigits (count : Nat) (text : List Char) : Prop :=
  ∃ digits, digits <:+: text ∧ digits.length = count ∧ ∀ c ∈ digits, c.isDigit = true

/-- Digits in a part of a text are digits in the text. -/
theorem HasDigits.mono {count : Nat} {part text : List Char} (has : HasDigits count part) (isPart : part <:+: text) :
    HasDigits count text := by
  obtain ⟨digits, within, enough, areDigits⟩ := has
  exact ⟨digits, within.trans isPart, enough, areDigits⟩

/-- Whether a reading stays in a text: what it leaves is a last part of it, and a refused integer is one with too many
digits in it. -/
def StaysIn {α : Type} (text : List Char) : Reading α -> Prop
  | .ok (_, after) => after.rest <:+ text
  | .error fault => ∀ digits, fault.flaw = .overlongInteger digits ->
    integerDigitLimit < digits ∧ HasDigits digits text

section Staying

variable {α : Type} {text inner : List Char} {reading : Reading α}

/-- A reading that stays in a last part of a text stays in the text. -/
theorem StaysIn.mono (stays : StaysIn inner reading) (isLast : inner <:+ text) : StaysIn text reading := by
  cases reading with
  | ok read => exact List.IsSuffix.trans stays isLast
  | error fault =>
    intro digits isFlaw
    obtain ⟨long, has⟩ := stays digits isFlaw
    exact ⟨long, has.mono isLast.isInfix⟩

/-- White space that is stepped over leaves a last part. -/
theorem skipSpace_suffix (cursor : Cursor) : cursor.skipSpace.rest <:+ cursor.rest := by
  obtain ⟨rest, position⟩ := cursor
  unfold Cursor.skipSpace
  induction rest generalizing position with
  | nil => exact List.suffix_refl []
  | cons c rest inductionHypothesis =>
    rw [Cursor.skipSpace.go]
    split
    · exact (inductionHypothesis (position + 1)).trans (List.suffix_cons c rest)
    · exact List.suffix_refl _

/-- Characters that are stepped over, and white space after them, leave a last part. -/
theorem skipSpace_advance_suffix (cursor : Cursor) (count : Nat) :
    (cursor.advance count).skipSpace.rest <:+ cursor.rest :=
  (skipSpace_suffix _).trans (List.drop_suffix count cursor.rest)

/-! ## Strings and numbers -/

/-- A string is read without leaving the text. -/
theorem staysIn_readString (opening fuel : Nat) (result : List Char) (cursor : Cursor) :
    StaysIn cursor.rest (readString opening fuel result cursor) := by
  fun_induction readString opening fuel result cursor with
  | case3 _ _ _ _ isRest => exact isRest ▸ List.suffix_cons _ _
  | case8 _ _ _ _ _ _ _ _ _ isRest _ _ inductionHypothesis =>
    refine inductionHypothesis.mono (isRest ▸ ?_)
    exact (List.drop_suffix 6 _).trans (List.drop_suffix 6 ('\\' :: 'u' :: _))
  | case9 _ _ _ _ _ _ _ isRest _ _ inductionHypothesis =>
    exact inductionHypothesis.mono (isRest ▸ List.drop_suffix 6 ('\\' :: 'u' :: _))
  | case10 _ _ _ _ _ _ _ _ isRest _ inductionHypothesis =>
    exact inductionHypothesis.mono (isRest ▸ List.drop_suffix 6 ('\\' :: 'u' :: _))
  | case12 _ _ _ _ _ _ _ _ isRest inductionHypothesis =>
    exact inductionHypothesis.mono (isRest ▸ List.drop_suffix 2 ('\\' :: _ :: _))
  | case14 _ _ _ _ _ _ _ isRest _ inductionHypothesis =>
    exact inductionHypothesis.mono (isRest ▸ List.suffix_cons _ _)
  | _ => exact nofun

/-- The digits of a number leave a last part. -/
theorem spanDigits_suffix (text : List Char) : (spanDigits text).2 <:+ text := List.dropWhile_suffix _

/-- So does a fraction. -/
theorem spanFraction_suffix (text : List Char) : (spanFraction text).2 <:+ text := by
  unfold spanFraction
  split
  · dsimp only
    split
    · exact List.suffix_refl _
    · exact (spanDigits_suffix _).trans (List.suffix_cons _ _)
  · exact List.suffix_refl _

/-- So does an exponent. -/
theorem spanExponent_suffix (text : List Char) : (spanExponent text).2 <:+ text := by
  unfold spanExponent
  extract_lets digitsAfter
  have after : ∀ (negative : Bool) (marks : Nat) (rest : List Char), rest <:+ text ->
      (digitsAfter negative marks rest).2 <:+ text := by
    intro negative marks rest isLast
    dsimp only [digitsAfter]
    split
    · exact List.suffix_refl _
    · exact (spanDigits_suffix rest).trans isLast
  split
  case h_1 | h_2 =>
    split
    · exact after _ _ _ (List.drop_suffix 2 (_ :: '-' :: _))
    · exact after _ _ _ (List.drop_suffix 2 (_ :: '+' :: _))
    · exact after _ _ _ (List.suffix_cons _ _)
  case h_3 => exact List.suffix_refl _

/-- A minus sign is left out of a last part. -/
theorem splitMinus_suffix (text : List Char) : (splitMinus text).2 <:+ text := by
  unfold splitMinus
  split
  · exact List.suffix_cons _ _
  · exact List.suffix_refl _

/-- The digits before a fraction leave a last part, and stand in a row before it. -/
theorem spanWhole?_suffix {digits : List Nat} {rest : List Char} (spans : spanWhole? text = some (digits, rest)) :
    rest <:+ text ∧ HasDigits digits.length text := by
  unfold spanWhole? at spans
  split at spans
  · obtain ⟨rfl, rfl⟩ := Prod.mk.inj (Option.some.inj spans)
    exact ⟨List.suffix_cons _ _, ['0'], ⟨[], _, rfl⟩, rfl, List.forall_mem_singleton.mpr rfl⟩
  · split at spans
    · obtain ⟨rfl, rfl⟩ := Prod.mk.inj (Option.some.inj spans)
      refine ⟨List.dropWhile_suffix _, _, (List.takeWhile_prefix _).isInfix, (List.length_map _).symm, ?_⟩
      exact fun c member => List.mem_takeWhile_imp member
    · nomatch spans
  · nomatch spans

/-- A number is read without leaving the text. -/
theorem staysIn_readNumber (cursor : Cursor) : StaysIn cursor.rest (readNumber cursor) := by
  unfold readNumber
  dsimp only
  split
  · exact nofun
  · next digits rest spans =>
    obtain ⟨isLast, has⟩ := spanWhole?_suffix spans
    have unsigned := splitMinus_suffix cursor.rest
    have left : (spanExponent (spanFraction rest).2).2 <:+ cursor.rest :=
      (((spanExponent_suffix _).trans (spanFraction_suffix rest)).trans isLast).trans unsigned
    split
    · split
      · next long =>
        intro count isFlaw
        obtain rfl := Flaw.overlongInteger.inj isFlaw
        exact ⟨long, has.mono unsigned.isInfix⟩
      · exact left
    · exact left

/-! ## Values -/

/-- With any fuel, values, items and members are read without leaving the text. -/
theorem staysIn_readings (fuel : Nat) :
    (∀ cursor, StaysIn cursor.rest (readValue fuel cursor)) ∧
    (∀ items cursor, StaysIn cursor.rest (readItems fuel items cursor)) ∧
    ∀ members cursor, StaysIn cursor.rest (readMembers fuel members cursor) := by
  induction fuel with
  | zero =>
    refine ⟨fun _ _ isFlaw => ?_, fun _ _ _ isFlaw => ?_, fun _ _ _ isFlaw => ?_⟩
    all_goals cases isFlaw
  | succ fuel inductionHypothesis =>
    obtain ⟨ofValue, ofItems, ofMembers⟩ := inductionHypothesis
    refine ⟨fun cursor => ?_, fun items cursor => ?_, fun members cursor => ?_⟩
    · rw [readValue]
      split
      · next rest isRest =>
        have string := (staysIn_readString cursor.position fuel [] ⟨rest, cursor.position + 1⟩).mono
          (isRest ▸ List.suffix_cons _ _ : rest <:+ cursor.rest)
        split
        · next isFault =>
          rw [isFault] at string
          exact string
        · next isText =>
          rw [isText] at string
          exact string
      · dsimp only
        split
        · exact (List.drop_suffix 1 _).trans (skipSpace_advance_suffix cursor 1)
        · exact (ofMembers [] _).mono (skipSpace_advance_suffix cursor 1)
      · dsimp only
        split
        · exact (List.drop_suffix 1 _).trans (skipSpace_advance_suffix cursor 1)
        · exact (ofItems [] _).mono (skipSpace_advance_suffix cursor 1)
      · split
        · exact List.drop_suffix _ _
        · exact staysIn_readNumber cursor
    · rw [readItems]
      have first := ofValue cursor
      split
      · next isFault => exact isFault ▸ first
      · next item after isItem =>
        rw [isItem] at first
        have later : after.skipSpace.rest <:+ cursor.rest := (skipSpace_suffix after).trans first
        dsimp only
        split
        · exact (List.drop_suffix 1 _).trans later
        · exact (ofItems _ _).mono ((skipSpace_advance_suffix _ 1).trans later)
        · intro _ isFlaw
          cases isFlaw
    · rw [readMembers]
      split
      · next rest isRest =>
        have string := (staysIn_readString cursor.position fuel [] ⟨rest, cursor.position + 1⟩).mono
          (isRest ▸ List.suffix_cons _ _ : rest <:+ cursor.rest)
        split
        · next isFault =>
          rw [isFault] at string
          exact string
        · next name after isName =>
          rw [isName] at string
          have colon : after.skipSpace.rest <:+ cursor.rest := (skipSpace_suffix after).trans string
          dsimp only
          split
          · have held := (ofValue (after.skipSpace.advance 1).skipSpace).mono
              ((skipSpace_advance_suffix _ 1).trans colon)
            split
            · next isFault => exact isFault ▸ held
            · next value after isValue =>
              rw [isValue] at held
              have later : after.skipSpace.rest <:+ cursor.rest := (skipSpace_suffix after).trans held
              split
              · exact (List.drop_suffix 1 _).trans later
              · exact (ofMembers _ _).mono ((skipSpace_advance_suffix _ 1).trans later)
              · intro _ isFlaw
                cases isFlaw
          · intro _ isFlaw
            cases isFlaw
      · intro _ isFlaw
        cases isFlaw

/-- An integer of a text is refused for its length only where so many digits stand in a row. -/
theorem hasDigits_of_readAll {fault : Fault} (refused : readAll text = .error fault) {digits : Nat}
    (isFlaw : fault.flaw = .overlongInteger digits) : integerDigitLimit < digits ∧ HasDigits digits text := by
  unfold readAll at refused
  split at refused
  · obtain rfl := Except.error.inj refused
    nomatch isFlaw
  · have value := ((staysIn_readings (2 * text.length + 2)).1 (Cursor.start text).skipSpace).mono
      (skipSpace_suffix (Cursor.start text))
    split at refused
    · next isFault =>
      obtain rfl := Except.error.inj refused
      rw [isFault] at value
      exact value digits isFlaw
    · dsimp only at refused
      split at refused
      · nomatch refused
      · obtain rfl := Except.error.inj refused
        nomatch isFlaw

end Staying

/-! ## Objects -/

/-- What members are read as is an object. -/
theorem obj_of_readMembers {fuel : Nat} {members : List (String × Json)} {cursor after : Cursor} {value : Json}
    (read : readMembers fuel members cursor = .ok (value, after)) : ∃ merged, value = .obj merged := by
  induction fuel generalizing members cursor with
  | zero => cases read
  | succ fuel inductionHypothesis =>
    rw [readMembers] at read
    split at read
    · split at read
      · cases read
      · dsimp only at read
        split at read
        · split at read
          · cases read
          · split at read
            · exact ⟨_, (Prod.mk.inj (Except.ok.inj read)).1.symm⟩
            · exact inductionHypothesis read
            · cases read
        · cases read
    · cases read

/-- A value that begins with an opening brace is an object. -/
theorem obj_of_readValue {fuel position : Nat} {others : List Char} {after : Cursor} {value : Json}
    (read : readValue fuel ⟨'{' :: others, position⟩ = .ok (value, after)) : ∃ members, value = .obj members := by
  cases fuel with
  | zero => cases read
  | succ fuel =>
    simp only [readValue] at read
    split at read
    · exact ⟨[], (Prod.mk.inj (Except.ok.inj read)).1.symm⟩
    · exact obj_of_readMembers read

/-- A text that begins with an opening brace is read as an object. -/
theorem obj_of_readAll {others : List Char} {value : Json} (read : readAll ('{' :: others) = .ok value) :
    ∃ members, value = .obj members := by
  have noMark : ('{' :: others).head? ≠ some '\ufeff' := by simp
  rw [readAll, if_neg noMark] at read
  split at read
  · cases read
  · next found after isFound =>
    dsimp only at read
    split at read
    · obtain rfl := Except.ok.inj read
      exact obj_of_readValue isFound
    · cases read

/-! ## Integers that are too long -/

section Overlong

variable {value : Int} {rest : List Char} {position : Nat}

/-- A written integer of too many digits is refused with their number. -/
theorem readNumber_overlong (overlong : integerFits value = false) (stops : StopsNumber rest) :
    readNumber ⟨(Number.intText value).toList ++ rest, position⟩ =
      .error ⟨.overlongInteger (Nat.toDigits 10 value.natAbs).length, position⟩ := by
  have regular := regular_integerSpelling value.natAbs
  have positive : 0 < writtenDigitLimit := by decide
  have long : integerDigitLimit < (Nat.toDigits 10 value.natAbs).length :=
    Nat.lt_of_not_le (mt (Nat.length_toDigits_le_iff (by decide) positive).mp (of_decide_eq_false overlong))
  have noPoint : rest.head? ≠ some '.' := fun head => (stops '.' head).2.1 rfl
  have whole := Spelling.spanWhole?_text regular stops.digits
  have fraction : spanFraction rest = ([], rest) := Spelling.spanFraction_text regular stops.digits noPoint
  have exponent : spanExponent rest = (none, rest) := Spelling.spanExponent_text regular stops
  have text : (integerSpelling value.natAbs).text = (integerSpelling value.natAbs).whole := by
    simp [Spelling.text, Spelling.fractionText, Spelling.exponentText, integerSpelling]
  have digits : ((integerSpelling value.natAbs).whole.map (·.toNat - 48)).length =
      (Nat.toDigits 10 value.natAbs).length := List.length_map _
  simp only [readNumber, toList_intText, Spelling.splitMinus_signedText _ regular, text, whole, fraction, exponent,
    digits]
  rw [if_pos ⟨rfl, rfl⟩, if_pos long]
  rfl

/-- Whether a fault is that an integer has too many digits. -/
def Fault.IsOverlong (fault : Fault) : Prop := ∃ digits, fault.flaw = .overlongInteger digits

mutual

/-- A written value with an integer of too many digits is refused for that. -/
theorem refuses_value {style : Style} {level fuel position : Nat} {rest : List Char} :
    (value : Json) -> Sound value -> integersFit value = false -> StopsNumber rest ->
      2 * (write style level value).length ≤ fuel ->
      ∃ fault, fault.IsOverlong ∧ readValue fuel ⟨write style level value ++ rest, position⟩ = .error fault
  | .null | .bool _ | .float _ | .str _ | .arr [] | .obj [] => fun _ overlong => nomatch overlong
  | .int value => by
    intro _ overlong stops enough
    rw [write] at enough ⊢
    have starts := startsNumber_intText value
    obtain ⟨fuel, rfl⟩ : ∃ left, fuel = left + 1 := by
      obtain ⟨c, others, found, -⟩ := starts.begins
      rw [found, List.length_cons] at enough
      exact ⟨fuel - 1, by omega⟩
    refine ⟨⟨.overlongInteger (Nat.toDigits 10 value.natAbs).length, position⟩, ⟨_, rfl⟩, ?_⟩
    rw [readValue_startsNumber starts]
    exact readNumber_overlong overlong stops
  | .arr (item :: items) => by
    intro sound overlong stops enough
    simp only [write, List.length_cons, List.length_append, List.length_nil] at enough
    obtain ⟨fuel, rfl⟩ : ∃ left, fuel = left + 1 := ⟨fuel - 1, by omega⟩
    obtain ⟨later, isReading⟩ := readValue_array fuel position rest item items
    rw [isReading]
    exact refuses_items items item [] sound.1 sound.2 overlong (by omega) fun {_ _ _} unfit stops enough =>
      refuses_value item sound.1 unfit stops enough
  | .obj ((name, value) :: members) => by
    intro sound overlong stops enough
    simp only [write, List.length_cons, List.length_append, List.length_nil] at enough
    obtain ⟨fuel, rfl⟩ : ∃ left, fuel = left + 1 := ⟨fuel - 1, by omega⟩
    obtain ⟨later, isReading⟩ := readValue_object fuel position rest name value members
    rw [isReading]
    exact refuses_members members name value [] sound.2.1 sound.2.2 overlong (by omega)
      fun {_ _ _} unfit stops enough => refuses_value value sound.2.1 unfit stops enough

/-- Written items one of which has an integer of too many digits are refused for that. -/
theorem refuses_items {style : Style} {level closing fuel position : Nat} {rest : List Char} :
    (items : List Json) -> (item : Json) -> (done : List Json) -> Sound item -> SoundItems items ->
      itemIntegersFit (item :: items) = false ->
      2 * ((write style level item).length + (writeItems style level items).length) + 1 ≤ fuel ->
      (∀ {fuel position : Nat} {rest : List Char}, integersFit item = false -> StopsNumber rest ->
        2 * (write style level item).length ≤ fuel ->
        ∃ fault, fault.IsOverlong ∧ readValue fuel ⟨write style level item ++ rest, position⟩ = .error fault) ->
      ∃ fault, fault.IsOverlong ∧ readItems fuel done ⟨write style level item ++ (writeItems style level items ++
        (style.lineStart closing ++ ']' :: rest)), position⟩ = .error fault
  | [] => by
    intro item done _ _ overlong enough refuses
    obtain ⟨fuel, rfl⟩ : ∃ left, fuel = left + 1 := ⟨fuel - 1, by omega⟩
    rw [itemIntegersFit, itemIntegersFit, Bool.and_true] at overlong
    obtain ⟨fault, isOverlong, refused⟩ := @refuses fuel position _ overlong
      (stopsNumber_items style level rest [] closing) (by omega)
    exact ⟨fault, isOverlong, by rw [readItems, refused]⟩
  | next :: items => by
    intro item done sound soundItems overlong enough refuses
    obtain ⟨fuel, rfl⟩ : ∃ left, fuel = left + 1 := ⟨fuel - 1, by omega⟩
    have stops := stopsNumber_items style level rest (next :: items) closing
    cases fits : integersFit item with
    | false =>
      obtain ⟨fault, isOverlong, refused⟩ := @refuses fuel position _ fits stops (by omega)
      exact ⟨fault, isOverlong, by rw [readItems, refused]⟩
    | true =>
      rw [itemIntegersFit, fits, Bool.true_and] at overlong
      obtain ⟨later, isReading⟩ := readItems_onward next done
        (writeItems style level items ++ (style.lineStart closing ++ ']' :: rest)) (by simp [writeItems])
        (@reaches_value style level fuel position _ item sound fits stops (by omega))
      rw [isReading]
      refine refuses_items items next (item :: done) soundItems.1 soundItems.2 overlong ?_
        fun {_ _ _} unfit stops enough => refuses_value next soundItems.1 unfit stops enough
      obtain ⟨spaces, separator, -⟩ := separator_eq style level
      simp only [writeItems, separator, List.length_cons, List.length_append] at enough
      omega

/-- Written members one of which has an integer of too many digits are refused for that. -/
theorem refuses_members {style : Style} {level closing fuel position : Nat} {rest : List Char} :
    (members : List (String × Json)) -> (name : String) -> (value : Json) ->
      (done : List (String × Json)) -> Sound value -> SoundMembers members ->
      memberIntegersFit ((name, value) :: members) = false ->
      2 * ((writeString style.asciiOnly name).length + (write style level value).length +
        (writeMembers style level members).length) + 1 ≤ fuel ->
      (∀ {fuel position : Nat} {rest : List Char}, integersFit value = false -> StopsNumber rest ->
        2 * (write style level value).length ≤ fuel ->
        ∃ fault, fault.IsOverlong ∧ readValue fuel ⟨write style level value ++ rest, position⟩ = .error fault) ->
      ∃ fault, fault.IsOverlong ∧ readMembers fuel done ⟨writeString style.asciiOnly name ++
        (':' :: ' ' :: (write style level value ++ (writeMembers style level members ++
          (style.lineStart closing ++ '}' :: rest)))), position⟩ = .error fault
  | [] => by
    intro name value done sound _ overlong enough refuses
    obtain ⟨fuel, rfl⟩ : ∃ left, fuel = left + 1 := ⟨fuel - 1, by omega⟩
    rw [memberIntegersFit, memberIntegersFit, Bool.and_true] at overlong
    exact readMembers_fault position name done (by omega) fun position =>
      @refuses fuel position _ overlong (stopsNumber_members style level rest [] closing) (by omega)
  | (nextName, next) :: members => by
    intro name value done sound soundMembers overlong enough refuses
    obtain ⟨fuel, rfl⟩ : ∃ left, fuel = left + 1 := ⟨fuel - 1, by omega⟩
    have stops := stopsNumber_members style level rest ((nextName, next) :: members) closing
    cases fits : integersFit value with
    | false =>
      exact readMembers_fault position name done (by omega) fun position =>
        @refuses fuel position _ fits stops (by omega)
    | true =>
      rw [memberIntegersFit, fits, Bool.true_and] at overlong
      obtain ⟨later, isReading⟩ := readMembers_onward position name nextName done (by omega)
        (':' :: ' ' :: (write style level next ++ (writeMembers style level members ++
          (style.lineStart closing ++ '}' :: rest)))) (by simp [writeMembers])
        fun position => @reaches_value style level fuel position _ value sound fits stops (by omega)
      rw [isReading]
      refine refuses_members members nextName next ((name, value) :: done) soundMembers.1 soundMembers.2 overlong ?_
        fun {_ _ _} unfit stops enough => refuses_value next soundMembers.1 unfit stops enough
      obtain ⟨spaces, separator, -⟩ := separator_eq style level
      simp only [writeMembers, separator, List.length_cons, List.length_append, List.length_nil] at enough
      omega

end

/-- The text of a sound value is refused if one of its integers is too long, and only for that. -/
theorem readAll_overlong {style : Style} {value : Json} (sound : value.Sound) (overlong : value.integersFit = false) :
    ∃ fault, fault.IsOverlong ∧ readAll (write style 0 value) = .error fault := by
  obtain ⟨noMark, later, skipped⟩ := start_write style value
  obtain ⟨fault, isOverlong, refused⟩ := @refuses_value style 0 (2 * (write style 0 value).length + 2) later [] value
    sound overlong stopsNumber_nil (by omega)
  rw [List.append_nil] at refused
  refine ⟨fault, isOverlong, ?_⟩
  rw [readAll, if_neg noMark, skipped, refused]

end Overlong

end RepoSurvey.Json

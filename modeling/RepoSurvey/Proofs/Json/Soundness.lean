import RepoSurvey.Json.Finite
import RepoSurvey.Proofs.Json.RoundTrip

/-!
# What reading gives

Whatever a text is read as is a sound value: numbers are rounded to doubles in canonical form, and of several members
of one name the last one stands for all. None of its integers has too many digits to be written again. A value that is
so is readable, and `isReadable_readAll` says that of what is read. Soundness and readability are structural, which is
to say that they hold of a whole just when they hold of its parts. That is why readings hand them on, and why they stay
when numbers are made finite.
-/

namespace RepoSurvey.Json

open Number (Binary64 ofDigits ofDigits_lt)

/-- Items are sound when each of them is. -/
theorem soundItems_iff {items : List Json} : SoundItems items ↔ ∀ item ∈ items, item.Sound := by
  induction items with
  | nil => simp [SoundItems]
  | cons item items inductionHypothesis => simp [SoundItems, inductionHypothesis]

/-- Members are sound when the value of each of them is. -/
theorem soundMembers_iff {members : List (String × Json)} :
    SoundMembers members ↔ ∀ member ∈ members, member.2.Sound := by
  induction members with
  | nil => simp [SoundMembers]
  | cons member members inductionHypothesis =>
    obtain ⟨name, value⟩ := member
    simp only [SoundMembers, inductionHypothesis, List.forall_mem_cons]

/-! ## Members of one name -/

/-- Setting a member leaves the names as they are, or adds one that was missing. -/
theorem names_assign (name : String) (value : Json) (members : List (String × Json)) :
    (assign name value members).map Prod.fst =
      if name ∈ members.map Prod.fst then members.map Prod.fst
      else members.map Prod.fst ++ [name] := by
  induction members with
  | nil => rfl
  | cons member members inductionHypothesis =>
    obtain ⟨other, held⟩ := member
    by_cases same : other = name
    · simp [assign, same]
    · simp only [assign, if_neg same, List.map_cons, inductionHypothesis, List.mem_cons,
        Ne.symm same, false_or]
      split <;> rfl

/-- Setting a member keeps names distinct. -/
theorem nodup_assign {name : String} {value : Json} {members : List (String × Json)}
    (distinct : (members.map Prod.fst).Nodup) :
    ((assign name value members).map Prod.fst).Nodup := by
  rw [names_assign]
  split
  · exact distinct
  · next absent =>
    rw [List.nodup_append]
    refine ⟨distinct, List.nodup_singleton name, ?_⟩
    rintro other member _ (_ | ⟨_, ⟨⟩⟩) rfl
    exact absent member

/-- Setting a member keeps what holds of all values, if it holds of the new one. -/
theorem forall_assign {holds : Json -> Prop} {name : String} {value : Json} {members : List (String × Json)}
    (ofValue : holds value) (ofMembers : ∀ member ∈ members, holds member.2) :
    ∀ member ∈ assign name value members, holds member.2 := by
  induction members with
  | nil => exact List.forall_mem_singleton.mpr ofValue
  | cons member members inductionHypothesis =>
    obtain ⟨other, held⟩ := member
    rw [List.forall_mem_cons] at ofMembers
    unfold assign
    split
    · exact List.forall_mem_cons.mpr ⟨ofValue, ofMembers.2⟩
    · exact List.forall_mem_cons.mpr ⟨ofMembers.1, inductionHypothesis ofMembers.2⟩

/-- What holds of the values of all members holds of those that are left when each name stands once. -/
theorem forall_mergeMembers {holds : Json -> Prop} {members : List (String × Json)}
    (ofMembers : ∀ member ∈ members, holds member.2) : ∀ member ∈ mergeMembers members, holds member.2 := by
  suffices general : ∀ merged : List (String × Json), (∀ member ∈ merged, holds member.2) ->
      ∀ member ∈ members.foldl (fun merged member => assign member.1 member.2 merged) merged, holds member.2 by
    exact general [] (by simp)
  induction members with
  | nil => exact fun _ ofMerged => ofMerged
  | cons member members inductionHypothesis =>
    intro merged ofMerged
    rw [List.forall_mem_cons] at ofMembers
    exact inductionHypothesis ofMembers.2 _ (forall_assign ofMembers.1 ofMerged)

/-- When each name stands once, names are distinct. -/
theorem nodup_mergeMembers (members : List (String × Json)) : ((mergeMembers members).map Prod.fst).Nodup := by
  suffices general : ∀ merged : List (String × Json), (merged.map Prod.fst).Nodup ->
      ((members.foldl (fun merged member => assign member.1 member.2 merged) merged).map Prod.fst).Nodup by
    exact general [] List.nodup_nil
  induction members with
  | nil => exact fun _ distinct => distinct
  | cons member members inductionHypothesis =>
    intro merged distinct
    exact inductionHypothesis _ (nodup_assign distinct)

/-- Sound members of any names make a sound object. -/
theorem sound_mergeMembers {members : List (String × Json)} (sound : SoundMembers members) :
    Sound (.obj (mergeMembers members)) := by
  constructor
  · exact nodup_mergeMembers members
  · exact soundMembers_iff.mpr (forall_mergeMembers (soundMembers_iff.mp sound))

/-! ## Finite numbers -/

/-- Members keep their names when their numbers are made finite. -/
@[simp] theorem names_finiteMembers (members : List (String × Json)) :
    (finiteMembers members).map Prod.fst = members.map Prod.fst := by
  induction members with
  | nil => rfl
  | cons member members inductionHypothesis =>
    simp only [finiteMembers, List.map_cons, inductionHypothesis]

/-- A property that arrays and objects have when all their parts do, and only then; and that null and texts have, and
numbers in canonical form. -/
structure IsStructural (holds : Json -> Prop) : Prop where
  null : holds null
  text : ∀ value, holds (str value)
  number : ∀ {value}, holds (float value) ↔ value.IsCanonical
  items : ∀ {items}, holds (arr items) ↔ ∀ item ∈ items, holds item
  members : ∀ {members}, holds (obj members) ↔ (members.map Prod.fst).Nodup ∧ ∀ member ∈ members, holds member.2

/-- Soundness is structural. -/
theorem isStructural_sound : IsStructural Sound where
  null := trivial
  text _ := trivial
  number := Iff.rfl
  items := soundItems_iff
  members := and_congr_right fun _ => soundMembers_iff

mutual

/-- A structural property stays when numbers are made finite. -/
theorem IsStructural.finite {holds : Json -> Prop} (structural : IsStructural holds) :
    (value : Json) -> holds value -> holds value.finite
  | .null, kind | .bool _, kind | .int _, kind | .str _, kind => kind
  | .float value, kind => by
    rw [Json.finite]
    split
    · exact kind
    · exact structural.null
  | .arr items, kind => structural.items.mpr (structural.finiteItems items (structural.items.mp kind))
  | .obj members, kind => by
    obtain ⟨distinct, kinds⟩ := structural.members.mp kind
    exact structural.members.mpr
      ⟨(names_finiteMembers members).symm ▸ distinct, structural.finiteMembers members kinds⟩

/-- Items keep it. -/
theorem IsStructural.finiteItems {holds : Json -> Prop} (structural : IsStructural holds) :
    (items : List Json) -> (∀ item ∈ items, holds item) -> ∀ item ∈ Json.finiteItems items, holds item
  | [], _ => List.forall_mem_nil _
  | item :: items, kinds => by
    rw [List.forall_mem_cons] at kinds
    exact List.forall_mem_cons.mpr ⟨structural.finite item kinds.1, structural.finiteItems items kinds.2⟩

/-- Members keep it. -/
theorem IsStructural.finiteMembers {holds : Json -> Prop} (structural : IsStructural holds) :
    (members : List (String × Json)) -> (∀ member ∈ members, holds member.2) ->
      ∀ member ∈ Json.finiteMembers members, holds member.2
  | [], _ => List.forall_mem_nil _
  | (_, value) :: members, kinds => by
    rw [List.forall_mem_cons] at kinds
    exact List.forall_mem_cons.mpr ⟨structural.finite value kinds.1, structural.finiteMembers members kinds.2⟩

end

/-- A sound value whose numbers are made finite is sound. -/
theorem sound_finite (value : Json) (sound : value.Sound) : value.finite.Sound := isStructural_sound.finite value sound

/-! ## Readings -/

/-- A property that texts, words and numbers have once they are read, and that arrays and objects have when all their
parts do. -/
structure IsInherited (holds : Json -> Prop) : Prop where
  text : ∀ value, holds (.str value)
  word : ∀ entry ∈ words, holds entry.2
  number : ∀ {cursor value after}, readNumber cursor = .ok (value, after) -> holds value
  items : ∀ {items}, (∀ item ∈ items, holds item) -> holds (.arr items)
  members : ∀ {members : List (String × Json)},
    (∀ member ∈ members, holds member.2) -> holds (.obj (mergeMembers members))

section

variable {holds : Json -> Prop}

/-- What a word stands for has an inherited property. -/
theorem IsInherited.of_word (inherited : IsInherited holds) {text : List Char} {value : Json} {length : Nat}
    (found : word? text = some (value, length)) : holds value := by
  obtain ⟨entry, isWord, same⟩ := Option.map_eq_some_iff.mp found
  obtain ⟨rfl, -⟩ := Prod.mk.inj same
  exact inherited.word entry (List.mem_of_find?_eq_some isWord)

/-- With any fuel, what is read has an inherited property: a value, an array after items that have it, and an object
after members whose values have it. -/
theorem IsInherited.readings (inherited : IsInherited holds) (fuel : Nat) :
    (∀ cursor value after, readValue fuel cursor = .ok (value, after) -> holds value) ∧
    (∀ items cursor value after, (∀ item ∈ items, holds item) ->
      readItems fuel items cursor = .ok (value, after) -> holds value) ∧
    (∀ members cursor value after, (∀ member ∈ members, holds member.2) ->
      readMembers fuel members cursor = .ok (value, after) -> holds value) := by
  induction fuel with
  | zero =>
    refine ⟨fun _ _ _ read => ?_, fun _ _ _ _ _ read => ?_, fun _ _ _ _ _ read => ?_⟩ <;>
      cases read
  | succ fuel inductionHypothesis =>
    obtain ⟨ofValue, ofItems, ofMembers⟩ := inductionHypothesis
    refine ⟨?_, ?_, ?_⟩
    · intro cursor value after read
      rw [readValue] at read
      split at read
      · split at read
        · cases read
        · obtain ⟨rfl, -⟩ := Prod.mk.inj (Except.ok.inj read)
          exact inherited.text _
      · dsimp only at read
        split at read
        · obtain ⟨rfl, -⟩ := Prod.mk.inj (Except.ok.inj read)
          exact inherited.members (List.forall_mem_nil fun member : String × Json => holds member.2)
        · exact ofMembers [] _ value after (by simp) read
      · dsimp only at read
        split at read
        · obtain ⟨rfl, -⟩ := Prod.mk.inj (Except.ok.inj read)
          exact inherited.items (by simp)
        · exact ofItems [] _ value after (by simp) read
      · split at read
        · next found =>
          obtain ⟨rfl, -⟩ := Prod.mk.inj (Except.ok.inj read)
          exact inherited.of_word found
        · exact inherited.number read
    · intro items cursor value after earlier read
      rw [readItems] at read
      split at read
      · cases read
      · next item later itemRead =>
        have all : ∀ held ∈ item :: items, holds held :=
          List.forall_mem_cons.mpr ⟨ofValue _ item later itemRead, earlier⟩
        dsimp only at read
        split at read
        · obtain ⟨rfl, -⟩ := Prod.mk.inj (Except.ok.inj read)
          exact inherited.items fun held member => all held (List.mem_reverse.mp member)
        · exact ofItems (item :: items) _ value after all read
        · cases read
    · intro members cursor value after earlier read
      rw [readMembers] at read
      split at read
      · split at read
        · cases read
        · next name later nameRead =>
          dsimp only at read
          split at read
          · split at read
            · cases read
            · next held further heldRead =>
              have all : ∀ member ∈ (name, held) :: members, holds member.2 :=
                List.forall_mem_cons.mpr ⟨ofValue _ held further heldRead, earlier⟩
              split at read
              · obtain ⟨rfl, -⟩ := Prod.mk.inj (Except.ok.inj read)
                exact inherited.members fun member isMember => all member (List.mem_reverse.mp isMember)
              · exact ofMembers _ _ value after all read
              · cases read
          · cases read
      · cases read

/-- What a text is read as has an inherited property. -/
theorem IsInherited.readAll (inherited : IsInherited holds) {text : List Char} {value : Json}
    (read : readAll text = .ok value) : holds value := by
  unfold Json.readAll at read
  split at read
  · cases read
  · split at read
    · cases read
    · next found after foundRead =>
      dsimp only at read
      split at read
      · obtain rfl := Except.ok.inj read
        exact (inherited.readings _).1 _ _ _ foundRead
      · cases read

end

/-- The digits before a fraction stand for a number of no more digits. -/
theorem lt_of_spanWhole? {text rest : List Char} {digits : List Nat}
    (spans : spanWhole? text = some (digits, rest)) : ofDigits digits < 10 ^ digits.length := by
  unfold spanWhole? at spans
  split at spans
  · obtain ⟨rfl, -⟩ := Prod.mk.inj (Option.some.inj spans)
    decide
  · next c others _ =>
    split at spans
    · obtain ⟨rfl, -⟩ := Prod.mk.inj (Option.some.inj spans)
      rw [List.length_map]
      exact ofDigits_lt fun digit member => (List.mem_takeWhile_imp member)
    · nomatch spans
  · nomatch spans

/-- A number that is read is an integer of few digits or a double in canonical form. -/
theorem number_of_read {cursor after : Cursor} {value : Json} (read : readNumber cursor = .ok (value, after)) :
    (∃ number, value = .int number ∧ integerFits number = true) ∨
      ∃ number : Binary64, value = .float number ∧ number.IsCanonical := by
  unfold readNumber at read
  dsimp only at read
  split at read
  · nomatch read
  · next digits rest found =>
    split at read
    · split at read
      · nomatch read
      · next few =>
        obtain ⟨rfl, -⟩ := Prod.mk.inj (Except.ok.inj read)
        refine .inl ⟨_, rfl, ?_⟩
        have small : ofDigits digits < 10 ^ digits.length := lt_of_spanWhole? found
        have bound : 10 ^ digits.length ≤ 10 ^ writtenDigitLimit :=
          Nat.pow_le_pow_right (by decide) (Nat.le_of_not_lt few)
        rw [integerFits, decide_eq_true_iff]
        split <;> simp only [Int.natAbs_neg, Int.natAbs_natCast] <;> omega
    · obtain ⟨rfl, -⟩ := Prod.mk.inj (Except.ok.inj read)
      exact .inr ⟨_, rfl, Binary64.isCanonical_ofDecimal _ _ _⟩

/-! ## Readable values -/

/-- All integers in an array have few digits when those in each of its items do. -/
theorem itemIntegersFit_iff {items : List Json} :
    itemIntegersFit items = true ↔ ∀ item ∈ items, item.integersFit = true := by
  induction items with
  | nil => simp [itemIntegersFit]
  | cons item items inductionHypothesis => simp [itemIntegersFit, inductionHypothesis]

/-- All integers in an object have few digits when those in each of its members do. -/
theorem memberIntegersFit_iff {members : List (String × Json)} :
    memberIntegersFit members = true ↔ ∀ member ∈ members, member.2.integersFit = true := by
  induction members with
  | nil => simp [memberIntegersFit]
  | cons member members inductionHypothesis =>
    obtain ⟨name, value⟩ := member
    simp only [memberIntegersFit, Bool.and_eq_true, inductionHypothesis, List.forall_mem_cons]

/-- Whether a value can be written as text and read again. -/
structure IsReadable (value : Json) : Prop where
  sound : value.Sound
  fits : value.integersFit = true

/-- That a value can be written and read again is structural. -/
theorem isStructural_isReadable : IsStructural IsReadable where
  null := ⟨trivial, rfl⟩
  text _ := ⟨trivial, rfl⟩
  number := ⟨fun readable => readable.sound, fun canonical => ⟨canonical, rfl⟩⟩
  items := by
    intro items
    constructor
    · rintro ⟨sound, fits⟩ item member
      exact ⟨soundItems_iff.mp sound item member, itemIntegersFit_iff.mp fits item member⟩
    · intro readable
      exact ⟨soundItems_iff.mpr fun item member => (readable item member).sound,
        itemIntegersFit_iff.mpr fun item member => (readable item member).fits⟩
  members := by
    intro members
    constructor
    · rintro ⟨⟨distinct, sound⟩, fits⟩
      exact ⟨distinct, fun member isMember =>
        ⟨soundMembers_iff.mp sound member isMember, memberIntegersFit_iff.mp fits member isMember⟩⟩
    · rintro ⟨distinct, readable⟩
      exact ⟨⟨distinct, soundMembers_iff.mpr fun member isMember => (readable member isMember).sound⟩,
        memberIntegersFit_iff.mpr fun member isMember => (readable member isMember).fits⟩

/-- A property that is structural is handed on by readings, if words and numbers have it. -/
theorem IsStructural.isInherited {holds : Json -> Prop} (structural : IsStructural holds)
    (word : ∀ entry ∈ words, holds entry.2)
    (number : ∀ {cursor value after}, readNumber cursor = .ok (value, after) -> holds value) : IsInherited holds where
  text := structural.text
  word := word
  number := number
  items := structural.items.mpr
  members kinds := structural.members.mpr ⟨nodup_mergeMembers _, forall_mergeMembers kinds⟩

/-- What a text is read as can be written and read again. -/
theorem isReadable_readAll {text : List Char} {value : Json} (read : readAll text = .ok value) :
    value.IsReadable := by
  have inherited : IsInherited IsReadable := by
    apply isStructural_isReadable.isInherited
    · intro entry member
      constructor
      · revert entry
        simp [words, Sound, Binary64.IsCanonical]
      · revert entry
        simp [words, integersFit]
    · intro cursor value after read
      obtain ⟨number, rfl, fits⟩ | ⟨number, rfl, canonical⟩ := number_of_read read
      · exact ⟨trivial, fits⟩
      · exact ⟨canonical, rfl⟩
  exact inherited.readAll read

/-- What a text is read as is sound. -/
theorem sound_readAll {text : List Char} {value : Json} (read : readAll text = .ok value) : value.Sound :=
  (isReadable_readAll read).sound

/-- No integer in what a text is read as has too many digits. -/
theorem integersFit_readAll {text : List Char} {value : Json} (read : readAll text = .ok value) :
    value.integersFit = true :=
  (isReadable_readAll read).fits

end RepoSurvey.Json

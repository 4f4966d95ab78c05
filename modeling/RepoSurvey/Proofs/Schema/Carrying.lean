import RepoSurvey.Proofs.Reply.Extraction
import RepoSurvey.Proofs.Schema.Faithful

/-!
# Values that come back in every form

A record is written with all its fields or without the absent ones, under its own names or under exchanged ones. A
codec carries a value when it writes, in each of these forms, something that can be written as text and read again,
and reads it as the value. Simple codecs carry what they can hold; lists, options and records carry what their parts
carry, the fields of a record having names that cannot be taken for each other: `Codec.carries_record`. What is read
from data that came as text holds nothing that cannot be carried but numbers that are not finite, where any value may
stand; `Codec.Took` says so of what is read, part by part.
-/

namespace RepoSurvey.Json

/-- An object that can be read again is found in its own text. -/
theorem IsReadable.parseObject {members : List (String × Json)} (readable : (obj members).IsReadable) (style : Style) :
    Reply.parseObject (text style (obj members)) = .ok (obj members) := by
  have part := Reply.bracedPart?_write style members (@List.not_mem_nil _ '{') (@List.not_mem_nil _ '}')
  rw [List.nil_append, List.append_nil] at part
  rw [Reply.parseObject, text, String.toList_ofList, part]
  dsimp only
  rw [readAll_write readable.sound readable.fits]

end RepoSurvey.Json

namespace RepoSurvey.Schema

open Json (IsReadable IsStructural)

variable {α β ρ : Type} {holds : Json -> Prop}

/-! ## What is carried -/

/-- Whether a codec writes a value in every form as data of a kind, and reads it again. -/
structure Codec.Carries (codec : Codec α) (holds : Json -> Prop) (value : α) : Prop where
  read : ∀ form, codec.read (codec.write form value) = .valid value
  written : ∀ form, holds (codec.write form value)

namespace Codec

variable {codec : Codec α}

/-- Texts are carried. -/
theorem carries_text (structural : IsStructural holds) (value : String) : text.Carries holds value :=
  ⟨fun _ => rfl, fun _ => structural.text value⟩

/-- Integers of the kind are carried. -/
theorem carries_integer {value : Int} (kind : holds (.int value)) : integer.Carries holds value :=
  ⟨fun _ => rfl, fun _ => kind⟩

/-- Numbers in canonical form are carried, those that are not finite included. -/
theorem carries_number (structural : IsStructural holds) {value : Number.Binary64} (canonical : value.IsCanonical) :
    number.Carries holds value :=
  ⟨fun _ => rfl, fun _ => structural.number.mpr canonical⟩

/-- A value of any kind is carried when its numbers are finite. -/
theorem carries_any {value : Json} (kind : holds value) (finite : value.isFinite = true) : any.Carries holds value := by
  have same : value.finite = value := Json.finite_of_isFinite value finite
  refine ⟨fun _ => congrArg Checked.valid same, fun form => ?_⟩
  change holds value.finite
  exact same.symm ▸ kind

/-- A list is carried when its items are. -/
theorem carries_list (structural : IsStructural holds) {values : List α}
    (carries : ∀ value ∈ values, codec.Carries holds value) :
    (list codec).Carries holds values where
  read form := by
    change Checked.items codec.read (values.map (codec.write form)) = .valid values
    rw [Checked.items_eq_valid, List.forall₂_map_left_iff, List.forall₂_same]
    exact fun value member => (carries value member).read form
  written form := by
    refine structural.items.mpr fun item member => ?_
    obtain ⟨value, isValue, rfl⟩ := List.mem_map.mp member
    exact (carries value isValue).written form

/-- A list is written as one of items that were changed, if that makes no difference to each of them. -/
theorem write_list_map {form : Form} {change : α -> α} {values : List α}
    (same : ∀ value, codec.write form (change value) = codec.write form value) :
    (list codec).write form (values.map change) = (list codec).write form values := by
  change Json.arr _ = Json.arr _
  rw [List.map_map]
  exact congrArg Json.arr (List.map_congr_left fun value _ => same value)

/-- An option is carried when its value is and is never written as null. -/
theorem carries_optional (structural : IsStructural holds) {value : Option α}
    (carries : ∀ held ∈ value, codec.Carries holds held)
    (present : ∀ held ∈ value, ∀ form, codec.write form held ≠ .null) : (optional codec).Carries holds value := by
  cases value with
  | none => exact ⟨fun _ => rfl, fun _ => structural.null⟩
  | some held =>
    refine ⟨fun form => ?_, (carries held rfl).written⟩
    have isPresent := present held rfl form
    have opened : (optional codec).read (codec.write form held) = (codec.read (codec.write form held)).map some := by
      simp only [optional]
    change (optional codec).read (codec.write form held) = _
    rw [opened, (carries held rfl).read, Checked.map_valid]

/-- What is carried is restored. -/
theorem Carries.restores {value : α} (carries : codec.Carries holds value) : codec.Restores value :=
  carries.read .stored

/-- What is carried as sound data is written so. -/
theorem Carries.writesSound {value : α} (carries : codec.Carries Json.Sound value) : codec.WritesSound value :=
  carries.written .stored

end Codec

/-! ## Records -/

namespace Part

variable {record : ρ} {names moreNames : List String}

/-- Whether a part writes, in every form, data of a kind in fields of distinct names among some, and reads a value from
whichever members have the same under these names. -/
structure Carries (part : Part ρ α) (holds : Json -> Prop) (record : ρ) (names : List String) (value : α) : Prop where
  within : ∀ form, ∀ member ∈ part.write form record, member.1 ∈ names
  distinct : ∀ form, ((part.write form record).map Prod.fst).Nodup
  written : ∀ form, ∀ member ∈ part.write form record, holds member.2
  read : ∀ form members, (∀ name ∈ names, Json.lookup name members = Json.lookup name (part.write form record)) ->
    part.read members = .valid value

/-- Under other names a part writes nothing. -/
theorem Carries.lookup_eq_none {part : Part ρ α} {value : α} (carries : part.Carries holds record names value)
    (form : Form) {name : String} (other : name ∉ names) : Json.lookup name (part.write form record) = none := by
  apply lookup_of_not_mem
  intro member
  obtain ⟨entry, isEntry, rfl⟩ := List.mem_map.mp member
  exact other (carries.within form entry isEntry)

/-- Parts in a row that have no name in common carry what each of them does. -/
theorem Carries.seq {left : Part ρ (α -> β)} {right : Part ρ α} {change : α -> β} {value : α}
    (first : left.Carries holds record names change) (second : right.Carries holds record moreNames value)
    (apart : ∀ name ∈ names, name ∉ moreNames) :
    (left <*> right).Carries holds record (names ++ moreNames) (change value) where
  within form member isMember := by
    rcases List.mem_append.mp isMember with isFirst | isSecond
    · exact List.mem_append_left _ (first.within form member isFirst)
    · exact List.mem_append_right _ (second.within form member isSecond)
  distinct form := by
    rw [write_seq, List.map_append]
    refine List.nodup_append.mpr ⟨first.distinct form, second.distinct form, ?_⟩
    rintro name isFirst other isSecond rfl
    obtain ⟨entry, isEntry, rfl⟩ := List.mem_map.mp isFirst
    obtain ⟨another, isAnother, same⟩ := List.mem_map.mp isSecond
    exact apart _ (first.within form entry isEntry) (same ▸ second.within form another isAnother)
  written form := by
    rw [write_seq, List.forall_mem_append]
    exact ⟨first.written form, second.written form⟩
  read form members agrees := by
    have leftRead := first.read form members fun name isName => by
      rw [agrees name (List.mem_append_left _ isName), write_seq, lookup_append,
        second.lookup_eq_none form (apart name isName), Option.or_none]
    have rightRead := second.read form members fun name isName => by
      have other : name ∉ names := fun isFirst => apart name isFirst isName
      rw [agrees name (List.mem_append_right _ isName), write_seq, lookup_append,
        first.lookup_eq_none form other, Option.none_or]
    exact read_seq_eq_valid.mpr ⟨change, value, leftRead, rightRead, rfl⟩

/-- The first part of a record. -/
theorem Carries.map {part : Part ρ α} {value : α} (carries : part.Carries holds record names value) (change : α -> β) :
    (change <$> part).Carries holds record names (change value) where
  within := carries.within
  distinct := carries.distinct
  written := carries.written
  read form members agrees := read_map_eq_valid.mpr ⟨value, carries.read form members agrees, rfl⟩

section Fields

variable {own exchanged : String} {codec : Codec α} {held : ρ -> α} {fallback : Option α}

/-- In every form a field is written under one of its names, unless it is left out because there is nothing in it. -/
theorem write_named_cases (form : Form) : ∃ name ∈ [own, exchanged],
    (named own exchanged codec held fallback).write form record = [(name, codec.write form (held record))] ∨
      codec.write form (held record) = .null ∧ (named own exchanged codec held fallback).write form record = [] := by
  refine ⟨if form.exchangedNames then exchanged else own, ?_, ?_⟩
  · split <;> simp
  · dsimp only [named]
    split
    · next omitted =>
      simp only [Bool.and_eq_true, decide_eq_true_eq] at omitted
      exact .inr ⟨omitted.2, rfl⟩
    · exact .inl rfl

/-- A field is carried when its codec carries what it holds, and its fallback stands for that if it is left out. -/
theorem carries_named (carries : codec.Carries holds (held record))
    (leftOut : ∀ form, codec.write form (held record) = .null -> fallback = some (held record)) :
    (named own exchanged codec held fallback).Carries holds record [own, exchanged] (held record) := by
  have few : ∀ form, ∃ name ∈ [own, exchanged], ((named own exchanged codec held fallback).write form record).Sublist
      [(name, codec.write form (held record))] := by
    intro form
    obtain ⟨name, isName, one | ⟨-, nothing⟩⟩ :=
      @write_named_cases _ _ record own exchanged codec held fallback form
    · exact ⟨name, isName, one ▸ List.Sublist.refl _⟩
    · exact ⟨name, isName, nothing ▸ List.nil_sublist _⟩
  refine ⟨fun form member isMember => ?_, fun form => ?_, fun form member isMember => ?_, fun form members agrees => ?_⟩
  · obtain ⟨name, isName, sublist⟩ := few form
    rw [List.mem_singleton.mp (sublist.subset isMember)]
    exact isName
  · obtain ⟨name, -, sublist⟩ := few form
    exact (sublist.map Prod.fst).nodup (List.nodup_singleton name)
  · obtain ⟨name, -, sublist⟩ := few form
    rw [List.mem_singleton.mp (sublist.subset isMember)]
    exact carries.written form
  · have isOwn := agrees own (.head _)
    have isExchanged := agrees exchanged (.tail _ (.head _))
    obtain ⟨name, isName, one | ⟨isNull, nothing⟩⟩ :=
      @write_named_cases _ _ record own exchanged codec held fallback form
    · rw [one] at isOwn isExchanged
      have found : (Json.lookup exchanged members).or (Json.lookup own members) =
          some (codec.write form (held record)) := by
        rw [isOwn, isExchanged]
        rcases List.mem_cons.mp isName with rfl | isName
        · simp only [Json.lookup]
          split <;> simp
        · rw [List.mem_singleton.mp isName]
          simp [Json.lookup]
      simp only [named, found]
      exact Checked.under_eq_valid.mpr (carries.read form)
    · rw [nothing] at isOwn isExchanged
      simp only [named, isOwn, isExchanged, leftOut form isNull, Json.lookup, Option.or_none]

/-- A field is written as another one of which its codec writes the same. -/
theorem write_named_congr {form : Form} {first second : ρ}
    (same : codec.write form (held first) = codec.write form (held second)) :
    (named own exchanged codec held fallback).write form first =
      (named own exchanged codec held fallback).write form second := by
  dsimp only [named]
  rw [same]

/-- A field of text is carried. -/
theorem carries_textField (structural : IsStructural holds) {held : ρ -> String} {fallback : Option String} :
    (named own exchanged .text held fallback).Carries holds record [own, exchanged] (held record) :=
  carries_named (Codec.carries_text structural _) fun _ => Json.noConfusion

/-- A field with an integer of the kind is carried. -/
theorem carries_integerField {held : ρ -> Int} {fallback : Option Int}
    (kind : holds (.int (held record))) :
    (named own exchanged .integer held fallback).Carries holds record [own, exchanged] (held record) :=
  carries_named (Codec.carries_integer kind) fun _ => Json.noConfusion

/-- A field with a list is carried when the items are. -/
theorem carries_listField (structural : IsStructural holds) {held : ρ -> List α} {fallback : Option (List α)}
    (carries : ∀ value ∈ held record, codec.Carries holds value) :
    (named own exchanged (.list codec) held fallback).Carries holds record [own, exchanged] (held record) :=
  carries_named (Codec.carries_list structural carries) fun _ => Json.noConfusion

/-- A field with texts is carried. -/
theorem carries_textsField (structural : IsStructural holds) {held : ρ -> List String}
    {fallback : Option (List String)} :
    (named own exchanged (.list .text) held fallback).Carries holds record [own, exchanged] (held record) :=
  carries_listField structural fun text _ => Codec.carries_text structural text

/-- A field that may be absent is carried when its value is and is never written as null. -/
theorem carries_optionField (structural : IsStructural holds) {held : ρ -> Option α}
    (carries : ∀ value ∈ held record, codec.Carries holds value)
    (present : ∀ value ∈ held record, ∀ form, codec.write form value ≠ .null) :
    (named own exchanged (.optional codec) held (some none)).Carries holds record [own, exchanged] (held record) := by
  refine carries_named (Codec.carries_optional structural carries present) fun form isNull => ?_
  cases isHeld : held record with
  | none => rfl
  | some value =>
    rw [isHeld] at isNull
    exact absurd isNull (present value isHeld form)

end Fields

end Part

/-- A record is carried when its parts carry it. -/
theorem Codec.carries_record (structural : IsStructural holds) {name : String} {parts : Part ρ ρ} {record : ρ}
    {names : List String}
    (carries : parts.Carries holds record names record) : (Codec.record name parts).Carries holds record where
  read form := carries.read form _ fun _ _ => rfl
  written form := structural.members.mpr ⟨carries.distinct form, carries.written form⟩

/-- The text of a record that is carried, in whatever form and style, is read as the record again. -/
theorem Codec.Carries.parseObject {name : String} {parts : Part ρ ρ} {record : ρ}
    (carries : (Codec.record name parts).Carries IsReadable record) (form : Form) (style : Json.Style) :
    Reply.parseObject (Json.text style ((Codec.record name parts).write form record)) =
      .ok ((Codec.record name parts).write form record) :=
  (carries.written form).parseObject style

/-! ## What was read -/

/-- Whether a codec took a value from data of some kind. -/
def Codec.Took (codec : Codec α) (holds : Json -> Prop) (found : α) : Prop :=
  ∃ value, holds value ∧ codec.read value = .valid found

section Taking

variable {codec : Codec α}

/-- A record was taken from members of the kind. -/
theorem Codec.Took.members {name : String} {parts : Part ρ ρ} {record : ρ} (structural : IsStructural holds)
    (took : (Codec.record name parts).Took holds record) :
    ∃ members : List (String × Json), (∀ member ∈ members, holds member.2) ∧ parts.read members = .valid record := by
  obtain ⟨value, kind, read⟩ := took
  cases value with
  | obj members => exact ⟨members, (structural.members.mp kind).2, read⟩
  | _ => nomatch read

/-- What a field holds was taken from a member, or it is the fallback. -/
theorem Part.took_of_named {own exchanged : String} {held : ρ -> α} {fallback : Option α}
    {members : List (String × Json)} {value : α} (kinds : ∀ member ∈ members, holds member.2)
    (read : (Part.named own exchanged codec held fallback).read members = .valid value) :
    codec.Took holds value ∨ fallback = some value := by
  refine (Part.of_read_named read).imp_left fun ⟨member, isMember, read⟩ => ?_
  exact ⟨member.2, kinds member isMember, read⟩

/-- The items of a list were taken from its items. -/
theorem Codec.Took.items {values : List α} (structural : IsStructural holds)
    (took : (Codec.list codec).Took holds values) : ∀ value ∈ values, codec.Took holds value := by
  obtain ⟨json, kind, read⟩ := took
  cases json with
  | arr items =>
    intro value member
    obtain ⟨item, isItem, itemRead⟩ := Checked.exists_of_items read value member
    exact ⟨item, structural.items.mp kind item isItem, itemRead⟩
  | _ => nomatch read

/-- The items of a list in a field that may be missing were taken from items. -/
theorem Part.took_of_listField {own exchanged : String} {held : ρ -> List α} {members : List (String × Json)}
    {values : List α} (structural : IsStructural holds) (kinds : ∀ member ∈ members, holds member.2)
    (read : (Part.named own exchanged (.list codec) held (some [])).read members = .valid values) :
    ∀ value ∈ values, codec.Took holds value := by
  rcases Part.took_of_named kinds read with took | missing
  · exact took.items structural
  · obtain rfl := Option.some.inj missing
    exact List.forall_mem_nil _

/-- The value of an option was taken. -/
theorem Codec.Took.value {value : α} (took : (Codec.optional codec).Took holds (some value)) :
    codec.Took holds value := by
  obtain ⟨json, kind, read⟩ := took
  cases json with
  | null => nomatch read
  | _ =>
    obtain ⟨found, read, same⟩ := Checked.map_eq_valid.mp read
    exact ⟨_, kind, Option.some.inj same ▸ read⟩

/-- The value of an option in a field that may be missing was taken. -/
theorem Part.took_of_optionField {own exchanged : String} {held : ρ -> Option α} {members : List (String × Json)}
    {found : Option α} (kinds : ∀ member ∈ members, holds member.2)
    (read : (Part.named own exchanged (.optional codec) held (some none)).read members = .valid found) :
    ∀ value ∈ found, codec.Took holds value := by
  rintro value rfl
  rcases Part.took_of_named kinds read with took | missing
  · exact took.value
  · nomatch missing

/-- A number that is taken from data of a kind is in canonical form. -/
theorem Codec.Took.isCanonical {value : Number.Binary64} (structural : IsStructural holds)
    (took : Codec.number.Took holds value) : value.IsCanonical := by
  have whole : ∀ number : Int, Codec.readIntegral number = .valid value -> value.IsCanonical := by
    intro number read
    have canonical := Number.Binary64.isCanonical_ofInt number
    unfold Codec.readIntegral at read
    split at read
    · nomatch read
    · exact Checked.valid.inj read ▸ canonical
  obtain ⟨json, kind, read⟩ := took
  cases json with
  | float number => exact Checked.valid.inj read ▸ structural.number.mp kind
  | int number => exact whole number read
  | bool truth => exact whole _ read
  | str text =>
    simp only [Codec.number, Codec.readRealNumeral] at read
    split at read
    · next isReal => exact Checked.valid.inj read ▸ Number.isCanonical_of_readReal isReal
    · split at read
      · next isReal => exact Checked.valid.inj read ▸ Number.isCanonical_of_readReal isReal
      · nomatch read
  | _ => nomatch read

/-- An integer that a numeral stands for has few digits. -/
theorem Codec.fits_of_readNumeral {text : String} {value : Int} (read : Codec.readNumeral text = .valid value) :
    Json.integerFits value = true := by
  have counted : ∀ (negative : Bool) (digits : List Char),
      (if digits.isEmpty || !digits.all Char.isDigit then Checked.misfit .unreadableInteger
        else if Codec.numeralDigitLimit < digits.length then Checked.misfit .oversizedInteger
        else .valid (Number.signed negative (Number.ofDigits (digits.map (·.toNat - 48))))) = .valid value ->
      Json.integerFits value = true := by
    intro negative digits read
    split at read
    · exact absurd read Checked.misfit_ne_valid
    · next isNumeral =>
      split at read
      · exact absurd read Checked.misfit_ne_valid
      · next few =>
        obtain rfl := Checked.valid.inj read
        simp only [Bool.or_eq_true, Bool.not_eq_true', not_or, Bool.not_eq_false, List.all_eq_true] at isNumeral
        have small := Number.ofDigits_lt isNumeral.2
        refine Json.integerFits_of_lt digits.length (Nat.le_of_not_lt few) ?_
        unfold Number.signed
        split <;> simpa using small
  unfold Codec.readNumeral at read
  dsimp only at read
  split at read
  · exact absurd read Checked.misfit_ne_valid
  · exact counted _ _ read

/-- An integer that is taken from data that can be read again has few digits. -/
theorem Codec.Took.fits {value : Int} (took : Codec.integer.Took IsReadable value) :
    Json.integerFits value = true := by
  obtain ⟨json, readable, read⟩ := took
  cases json with
  | int number =>
    obtain rfl := Checked.valid.inj read
    exact readable.fits
  | bool truth =>
    obtain rfl := Checked.valid.inj read
    exact Json.integerFits_of_lt 1 (by decide) (by cases truth <;> decide)
  | float number =>
    simp only [Codec.integer, Codec.readWhole] at read
    split at read
    · exact absurd read Checked.misfit_ne_valid
    · split at read
      · exact absurd read Checked.misfit_ne_valid
      · split at read
        · next small =>
          obtain rfl := Checked.valid.inj read
          exact Json.integerFits_of_lt 19 (by decide) (small.trans (by decide))
        · exact absurd read Checked.misfit_ne_valid
  | str text => exact Codec.fits_of_readNumeral read
  | _ => exact absurd read Checked.misfit_ne_valid

end Taking

end RepoSurvey.Schema

import RepoSurvey.Proofs.Clock.Timestamps
import RepoSurvey.Proofs.Json.RoundTrip
import RepoSurvey.Schema.Part

/-!
# Reading back what was written

A codec restores a value when it reads the written value as the value itself. Simple codecs restore every
value that they can hold; lists, dictionaries and options restore what their parts restore. A record in
its stored form is read part by part: `Part.Restores` names what a part reads from the members of a
written record, and `Codec.restores_record` assembles the parts. Nothing is claimed about forms in which
absent fields are left out.
-/

namespace RepoSurvey.Schema

variable {α β ρ : Type}

/-! ## Checked values -/

namespace Checked

/-- What does not fit is not valid. -/
@[simp] theorem misfit_ne_valid {found : Misfit} {value : α} : misfit found ≠ .valid value := by
  simp [misfit]

/-- A function is applied to a valid value only. -/
theorem map_eq_valid {checked : Checked α} {change : α -> β} {value : β} :
    checked.map change = .valid value ↔ ∃ found, checked = .valid found ∧ change found = value := by
  cases checked <;> simp [map]

/-- Two checks together are valid when both are. -/
theorem both_eq_valid {left : Checked α} {right : Checked β} {value : α} {other : β} :
    left.both right = .valid (value, other) ↔ left = .valid value ∧ right = .valid other := by
  cases left <;> cases right <;> simp [both]

/-- The place of issues does not matter to a valid value. -/
theorem under_eq_valid {checked : Checked α} {name : String} {value : α} :
    checked.under name = .valid value ↔ checked = .valid value := by
  cases checked <;> simp [under]

/-- A check goes on from a valid value only. -/
theorem andThen_eq_valid {checked : Checked α} {next : α -> Checked β} {value : β} :
    checked.andThen next = .valid value ↔ ∃ found, checked = .valid found ∧ next found = .valid value := by
  cases checked <;> simp [andThen]

/-- A report is made of invalid values only. -/
theorem toExcept_eq_ok {checked : Checked α} {record : String} {value : α} :
    checked.toExcept record = .ok value ↔ checked = .valid value := by
  cases checked <;> simp [toExcept]

/-- Items are valid when each of them is. -/
theorem items_eq_valid {check : Json -> Checked α} {items : List Json} {values : List α} :
    Checked.items check items = .valid values ↔
      List.Forall₂ (fun item value => check item = .valid value) items values := by
  have general : ∀ position, Checked.items.go check position items = .valid values ↔
      List.Forall₂ (fun item value => check item = .valid value) items values := by
    induction items generalizing values with
    | nil =>
      intro position
      cases values <;> simp [items.go]
    | cons item items inductionHypothesis =>
      intro position
      rw [items.go, map_eq_valid]
      constructor
      · rintro ⟨⟨value, rest⟩, found, rfl⟩
        obtain ⟨here, later⟩ := both_eq_valid.mp found
        exact .cons (under_eq_valid.mp here) ((inductionHypothesis _).mp later)
      · rintro (_ | ⟨here, later⟩)
        exact ⟨(_, _), both_eq_valid.mpr ⟨under_eq_valid.mpr here, (inductionHypothesis _).mpr later⟩,
          rfl⟩
  exact general 0

/-- Every one of some valid items was checked. -/
theorem exists_of_items {check : Json -> Checked α} {items : List Json} {values : List α}
    (valid : Checked.items check items = .valid values) :
    ∀ value ∈ values, ∃ item ∈ items, check item = .valid value := by
  have checks := items_eq_valid.mp valid
  clear valid
  induction checks with
  | nil => exact List.forall_mem_nil _
  | cons first _ inductionHypothesis =>
    refine List.forall_mem_cons.mpr ⟨⟨_, .head _, first⟩, fun value member => ?_⟩
    obtain ⟨item, isItem, checked⟩ := inductionHypothesis value member
    exact ⟨item, .tail _ isItem, checked⟩

/-- The members of a dictionary are valid when each of them is; they keep their names. -/
theorem entries_eq_valid {check : Json -> Checked α} {members : List (String × Json)}
    {found : List (String × α)} :
    Checked.entries check members = .valid found ↔
      List.Forall₂ (fun member entry => member.1 = entry.1 ∧ check member.2 = .valid entry.2)
        members found := by
  induction members generalizing found with
  | nil => cases found <;> simp [entries]
  | cons member members inductionHypothesis =>
    obtain ⟨name, value⟩ := member
    rw [entries, map_eq_valid]
    constructor
    · rintro ⟨⟨value, rest⟩, checked, rfl⟩
      obtain ⟨here, later⟩ := both_eq_valid.mp checked
      exact .cons ⟨rfl, under_eq_valid.mp here⟩ (inductionHypothesis.mp later)
    · rintro (_ | ⟨⟨named, here⟩, later⟩)
      obtain rfl : name = _ := named
      exact ⟨(_, _), both_eq_valid.mpr ⟨under_eq_valid.mpr here, inductionHypothesis.mpr later⟩, rfl⟩

end Checked

/-! ## Codecs -/

/-- Whether a codec reads the stored form of a value as the value. -/
def Codec.Restores (codec : Codec α) (value : α) : Prop :=
  codec.read (codec.write .stored value) = .valid value

namespace Codec

/-- Texts are restored. -/
theorem restores_text (value : String) : text.Restores value := rfl

/-- Integers are restored. -/
theorem restores_integer (value : Int) : integer.Restores value := rfl

/-- Doubles are restored, those that are no numbers included. -/
theorem restores_number (value : Number.Binary64) : number.Restores value := rfl

/-- Integers within bounds are restored. -/
theorem restores_integerWithin {least greatest value : Int} (low : least ≤ value)
    (high : value ≤ greatest) : (integerWithin least greatest).Restores value := by
  simp [Restores, integerWithin, integer, Int.not_lt.mpr low, Int.not_lt.mpr high]

/-- An integer that is read within bounds is within them. -/
theorem bounds_of_read {least greatest value : Int} {json : Json}
    (read : (integerWithin least greatest).read json = .valid value) :
    least ≤ value ∧ value ≤ greatest := by
  obtain ⟨found, -, checked⟩ := Checked.andThen_eq_valid.mp read
  split at checked
  · simp [Checked.misfit] at checked
  · split at checked
    · simp [Checked.misfit] at checked
    · obtain rfl := Checked.valid.inj checked
      omega

/-- Regular timestamps are restored. -/
theorem restores_timestamp {stamp : Clock.Timestamp} (regular : stamp.Regular) :
    timestamp.Restores stamp := by
  have noYearZero : stamp.isOfYearZero = false := by
    have positive := regular.inCalendar.1
    simp only [Clock.Timestamp.isOfYearZero, beq_eq_false_iff_ne]
    omega
  simp [Restores, timestamp, Clock.Timestamp.ofText_text regular, checkYear, noYearZero]

/-- Every timestamp that is read is regular, whatever it is read from. -/
theorem regular_of_read {value : Json} {stamp : Clock.Timestamp}
    (read : timestamp.read value = .valid stamp) : stamp.Regular := by
  have checked : ∀ {found : Clock.Timestamp}, found.Readable -> checkYear found = .valid stamp ->
      stamp.Regular := by
    intro found readable valid
    unfold checkYear at valid
    split at valid
    · simp [Checked.misfit] at valid
    · next noYearZero =>
      obtain rfl := Checked.valid.inj valid
      exact readable.regular (by simpa using noYearZero)
  cases value with
  | str text =>
    simp only [timestamp] at read
    split at read
    · next found isFound => exact checked (Clock.Timestamp.readable_ofText isFound) read
    · simp [Checked.misfit] at read
  | int value =>
    simp only [timestamp] at read
    split at read
    · simp [Checked.misfit] at read
    · next found isFound _ => exact checked (Clock.Timestamp.readable_ofWhole isFound) read
    · simp [Checked.misfit] at read
  | float value =>
    simp only [timestamp, readStamp] at read
    split at read
    · next found isFound =>
      refine checked ?_ read
      cases value with
      | nan => nomatch isFound
      | infinite negative => nomatch isFound
      | finite => exact Clock.Timestamp.readable_ofWhole isFound
    · simp [Checked.misfit] at read
  | _ => simp [timestamp, Checked.misfit] at read

/-- Values of a choice are restored when no other value before them has their name. -/
theorem restores_choice [DecidableEq α] {all : List α} {name : α -> String} {value : α}
    (named : all.find? (fun candidate => name candidate = name value) = some value) :
    (choice all name).Restores value := by
  simp [Restores, choice, named]

/-- A list is restored when its items are. -/
theorem restores_list_iff {codec : Codec α} {values : List α} :
    (list codec).Restores values ↔ ∀ value ∈ values, codec.Restores value := by
  simp only [Restores, list, Checked.items_eq_valid, List.forall₂_map_left_iff, List.forall₂_same]

/-- A dictionary is restored when its values are. -/
theorem restores_dictionary {codec : Codec α} {entries : List (String × α)}
    (restores : ∀ entry ∈ entries, codec.Restores entry.2) : (dictionary codec).Restores entries := by
  simp only [Restores, dictionary, Checked.entries_eq_valid, List.forall₂_map_left_iff,
    List.forall₂_same]
  exact fun entry member => ⟨trivial, restores entry member⟩

/-- An option is restored when its value is and is not written as null. -/
theorem restores_optional {codec : Codec α} {value : Option α}
    (restores : ∀ held ∈ value, codec.Restores held ∧ codec.write .stored held ≠ .null) :
    (optional codec).Restores value := by
  cases value with
  | none => rfl
  | some held =>
    obtain ⟨read, noNull⟩ := restores held rfl
    have opened : (optional codec).read (codec.write .stored held) =
        (codec.read (codec.write .stored held)).map some := by
      simp only [optional]
    unfold Restores at read ⊢
    change (optional codec).read (codec.write .stored held) = _
    rw [opened, read, Checked.map_valid]

end Codec

/-! ## Records -/

/-- A member of distinct members is found under its name. -/
theorem lookup_of_mem {name : String} {value : Json} {members : List (String × Json)}
    (distinct : (members.map Prod.fst).Nodup) (member : (name, value) ∈ members) :
    Json.lookup name members = some value := by
  induction members with
  | nil => nomatch member
  | cons first members inductionHypothesis =>
    obtain ⟨other, held⟩ := first
    rw [List.map_cons, List.nodup_cons] at distinct
    rcases List.mem_cons.mp member with here | later
    · cases here
      simp [Json.lookup]
    · have different : other ≠ name := by
        rintro rfl
        exact distinct.1 (List.mem_map.mpr ⟨_, later, rfl⟩)
      rw [Json.lookup, if_neg different, inductionHypothesis distinct.2 later]

/-- What is found under a name is a member of the name. -/
theorem mem_of_lookup {name : String} {value : Json} {members : List (String × Json)}
    (found : Json.lookup name members = some value) : (name, value) ∈ members := by
  induction members with
  | nil => nomatch found
  | cons first members inductionHypothesis =>
    obtain ⟨other, held⟩ := first
    rw [Json.lookup] at found
    split at found
    · next same =>
      obtain rfl := Option.some.inj found
      exact same ▸ .head _
    · exact .tail _ (inductionHypothesis found)

/-- Nothing is found under a name that no member has. -/
theorem lookup_of_not_mem {name : String} {members : List (String × Json)}
    (absent : name ∉ members.map Prod.fst) : Json.lookup name members = none := by
  induction members with
  | nil => rfl
  | cons first members inductionHypothesis =>
    obtain ⟨other, held⟩ := first
    rw [List.map_cons, List.mem_cons, not_or] at absent
    rw [Json.lookup, if_neg (Ne.symm absent.1), inductionHypothesis absent.2]

/-- What is found under a name in a row of members stands in its first part, or in its second. -/
theorem lookup_append (name : String) (first second : List (String × Json)) :
    Json.lookup name (first ++ second) = (Json.lookup name first).or (Json.lookup name second) := by
  induction first with
  | nil => rfl
  | cons member first inductionHypothesis =>
    obtain ⟨other, value⟩ := member
    simp only [List.cons_append, Json.lookup, inductionHypothesis]
    split <;> rfl

namespace Part

/-- What parts in a row read is read part by part. -/
theorem read_seq_eq_valid {left : Part ρ (α -> β)} {right : Part ρ α}
    {members : List (String × Json)} {value : β} :
    (left <*> right).read members = .valid value ↔
      ∃ change found, left.read members = .valid change ∧ right.read members = .valid found ∧
        change found = value := by
  change ((left.read members).both (right.read members)).map _ = _ ↔ _
  rw [Checked.map_eq_valid]
  constructor
  · rintro ⟨⟨change, found⟩, both, same⟩
    obtain ⟨leftRead, rightRead⟩ := Checked.both_eq_valid.mp both
    exact ⟨change, found, leftRead, rightRead, same⟩
  · rintro ⟨change, found, leftRead, rightRead, same⟩
    exact ⟨(change, found), Checked.both_eq_valid.mpr ⟨leftRead, rightRead⟩, same⟩

/-- The first part of a record is read before the record is made. -/
theorem read_map_eq_valid {part : Part ρ α} {change : α -> β} {members : List (String × Json)}
    {value : β} : (change <$> part).read members = .valid value ↔
      ∃ found, part.read members = .valid found ∧ change found = value := by
  change (pure change <*> part).read members = _ ↔ _
  rw [read_seq_eq_valid]
  constructor
  · rintro ⟨_, found, changeRead, partRead, same⟩
    obtain rfl := Checked.valid.inj changeRead
    exact ⟨found, partRead, same⟩
  · rintro ⟨found, partRead, same⟩
    exact ⟨change, found, rfl, partRead, same⟩

/-- What stands for a field that is read was read from a member, or is the fallback. -/
theorem of_read_named {own exchanged : String} {codec : Codec α} {held : ρ -> α}
    {fallback : Option α} {members : List (String × Json)} {value : α}
    (read : (named own exchanged codec held fallback).read members = .valid value) :
    (∃ member ∈ members, codec.read member.2 = .valid value) ∨ fallback = some value := by
  simp only [named] at read
  split at read
  · next found isFound =>
    have read := Checked.under_eq_valid.mp read
    rcases Option.or_eq_some_iff.mp isFound with exchanged | ⟨-, own⟩
    · exact .inl ⟨_, mem_of_lookup exchanged, read⟩
    · exact .inl ⟨_, mem_of_lookup own, read⟩
  · split at read
    · exact .inr (congrArg some (Checked.valid.inj read))
    · simp [Checked.misfit, Checked.under] at read

/-- A field with one fallback is read whenever it is read with another. -/
theorem read_named_of_fallback {own exchanged : String} {codec : Codec α} {held : ρ -> α}
    {fallback other : α} {members : List (String × Json)} {value : α}
    (read : (named own exchanged codec held (some fallback)).read members = .valid value) :
    ∃ found, (named own exchanged codec held (some other)).read members = .valid found := by
  simp only [named] at read ⊢
  split at read
  · exact ⟨value, read⟩
  · exact ⟨other, rfl⟩

/-- What parts in a row write is written in a row. -/
@[simp] theorem write_seq {left : Part ρ (α -> β)} {right : Part ρ α} (form : Form) (record : ρ) :
    (left <*> right).write form record = left.write form record ++ right.write form record := rfl

/-- The first part of a record. -/
@[simp] theorem write_map {part : Part ρ α} {change : α -> β} (form : Form) (record : ρ) :
    (change <$> part).write form record = part.write form record := rfl

/-- In its stored form a field is written under its own name. -/
@[simp] theorem write_field {name : String} {codec : Codec α} {held : ρ -> α} {fallback : Option α} (record : ρ) :
    (field name codec held fallback).write .stored record = [(name, codec.write .stored (held record))] := rfl

/-- A field with an exchanged name is stored under its own name as well. -/
@[simp] theorem write_exchanged {name : String} {codec : Codec α} {held : ρ -> α} {fallback : Option α} (record : ρ) :
    (exchanged name codec held fallback).write .stored record = [(name, codec.write .stored (held record))] := rfl

/-- Whether a part writes fields of some names for a record, and reads a value from any distinct members among
which are those fields, none of them being named by an alias. -/
structure Restores (part : Part ρ α) (record : ρ) (names aliases : List String) (value : α) : Prop where
  named : (part.write .stored record).map Prod.fst = names
  read : ∀ members : List (String × Json), (members.map Prod.fst).Nodup ->
    (∀ member ∈ part.write .stored record, member ∈ members) ->
      (∀ name ∈ aliases, name ∉ members.map Prod.fst) -> part.read members = .valid value

variable {record : ρ} {names moreNames aliases moreAliases : List String}

/-- Parts in a row read in a row. -/
theorem Restores.seq {left : Part ρ (α -> β)} {right : Part ρ α} {change : α -> β} {value : α}
    (first : left.Restores record names aliases change)
    (second : right.Restores record moreNames moreAliases value) :
    (left <*> right).Restores record (names ++ moreNames) (aliases ++ moreAliases) (change value) where
  named := List.map_append.trans (congrArg₂ _ first.named second.named)
  read members distinct held unnamed := by
    have leftRead := first.read members distinct
      (fun member isMember => held member (List.mem_append_left _ isMember))
      (fun name isAlias => unnamed name (List.mem_append_left _ isAlias))
    have rightRead := second.read members distinct
      (fun member isMember => held member (List.mem_append_right _ isMember))
      (fun name isAlias => unnamed name (List.mem_append_right _ isAlias))
    exact read_seq_eq_valid.mpr ⟨change, value, leftRead, rightRead, rfl⟩

/-- The first part of a record. -/
theorem Restores.map {part : Part ρ α} {value : α} (restores : part.Restores record names aliases value)
    (change : α -> β) : (change <$> part).Restores record names aliases (change value) where
  named := restores.named
  read members distinct held unnamed :=
    read_map_eq_valid.mpr ⟨value, restores.read members distinct held unnamed, rfl⟩

/-- The names beside its own one under which a field is read. -/
def aliasesOf (own exchanged : String) : List String := if exchanged = own then [] else [exchanged]

/-- From distinct members among which is the written field, and none of which is named by an alias, the field is read
as its codec reads what it wrote. -/
theorem read_named_of_mem {own exchanged : String} {codec : Codec α} {held : ρ -> α} {fallback : Option α}
    {members : List (String × Json)} (distinct : (members.map Prod.fst).Nodup)
    (member : (own, codec.write .stored (held record)) ∈ members)
    (unnamed : ∀ name ∈ aliasesOf own exchanged, name ∉ members.map Prod.fst) :
    (named own exchanged codec held fallback).read members =
      (codec.read (codec.write .stored (held record))).under exchanged := by
  have isOwn := lookup_of_mem distinct member
  by_cases same : exchanged = own
  · subst same
    simp only [named, isOwn, Option.or_some, Option.getD_some]
  · have absent := lookup_of_not_mem (unnamed exchanged (by simp [aliasesOf, same]))
    simp only [named, isOwn, absent, Option.none_or]

/-- A field is read as what its codec restores. -/
theorem restores_named {own exchanged : String} {codec : Codec α} {held : ρ -> α} {fallback : Option α}
    (restores : codec.Restores (held record)) :
    (named own exchanged codec held fallback).Restores record [own] (aliasesOf own exchanged) (held record) where
  named := rfl
  read members distinct isHeld unnamed := by
    have member : (own, codec.write .stored (held record)) ∈ members := isHeld _ (.head _)
    rw [read_named_of_mem distinct member unnamed]
    exact Checked.under_eq_valid.mpr restores

/-- A field that is read from such members is read as its codec reads what it wrote. -/
theorem read_of_read_named {own exchanged : String} {codec : Codec α} {held : ρ -> α} {fallback : Option α}
    {members : List (String × Json)} {value : α} (distinct : (members.map Prod.fst).Nodup)
    (member : (own, codec.write .stored (held record)) ∈ members)
    (unnamed : ∀ name ∈ aliasesOf own exchanged, name ∉ members.map Prod.fst)
    (read : (named own exchanged codec held fallback).read members = .valid value) :
    codec.read (codec.write .stored (held record)) = .valid value := by
  rw [read_named_of_mem distinct member unnamed] at read
  exact Checked.under_eq_valid.mp read

/-- A field has no alias when it is exchanged under its own name. -/
theorem unnamed_of_eq {own exchanged : String} {names : List String} (same : exchanged = own) :
    ∀ name ∈ aliasesOf own exchanged, name ∉ names := by
  have none : aliasesOf own exchanged = [] := if_pos same
  exact none ▸ List.forall_mem_nil _

/-- A field that is read from distinct members among which is the written one holds what its codec restores. -/
theorem eq_of_read_field {name : String} {codec : Codec α} {held : ρ -> α} {fallback : Option α}
    {members : List (String × Json)} {value : α} (restores : codec.Restores (held record))
    (distinct : (members.map Prod.fst).Nodup) (member : (name, codec.write .stored (held record)) ∈ members)
    (read : (field name codec held fallback).read members = .valid value) : value = held record :=
  Checked.valid.inj ((read_of_read_named distinct member (unnamed_of_eq rfl) read).symm.trans restores)

end Part

/-- What is read as a record from an object is read by its parts from the members. -/
theorem Codec.read_of_record {name : String} {parts : Part ρ ρ} {members : List (String × Json)} {record : ρ}
    (read : (Codec.record name parts).read (.obj members) = .valid record) : parts.read members = .valid record :=
  read

/-- A record is restored when its parts restore it, the names of its fields are distinct and no alias is one
of them. -/
theorem Codec.restores_record {name : String} {parts : Part ρ ρ} {record : ρ} {names aliases : List String}
    (distinct : names.Nodup) (unnamed : ∀ other ∈ aliases, other ∉ names)
    (restores : parts.Restores record names aliases record) : (Codec.record name parts).Restores record :=
  restores.read _ (restores.named.symm ▸ distinct) (fun _ member => member) (restores.named.symm ▸ unnamed)

end RepoSurvey.Schema

import RepoSurvey.Proofs.Json.Soundness
import RepoSurvey.Proofs.Schema.Restoring

/-!
# Codecs that lose nothing

A value that is written into a table has to be sound to come back from there, and it has to be restored by its
codec to be read again. A faithful codec does both for all its values. Records of faithful fields are faithful;
`Codec.faithful_record` assembles them. Numbers and dictionaries are written as sound values only when they are
sound themselves.
-/

namespace RepoSurvey.Number

/-- A real numeral is read as a number in canonical form. -/
theorem isCanonical_of_readReal {chars : List Char} {found : Binary64} (read : readReal? chars = some found) :
    found.IsCanonical := by
  unfold readReal? at read
  dsimp only at read
  split at read
  · exact Option.some.inj read ▸ trivial
  split at read
  · exact Option.some.inj read ▸ trivial
  unfold realMagnitude? at read
  dsimp only at read
  -- The digits are rounded in the same way with and without a point.
  split at read
  all_goals
    split at read
    · nomatch read
    · obtain ⟨exponent, -, rfl⟩ := Option.map_eq_some_iff.mp read
      exact Binary64.isCanonical_ofDecimal _ _ _

/-- The number nearest to an integer is in canonical form. -/
theorem Binary64.isCanonical_ofInt (value : Int) : (ofInt value).IsCanonical := by
  unfold ofInt
  exact isCanonical_ofRatio _ _ Nat.one_pos

end RepoSurvey.Number

namespace RepoSurvey.Schema

open Json (SoundMembers soundItems_iff soundMembers_iff)

variable {α β ρ : Type}

/-- Whether a value is written as a sound one. -/
def Codec.WritesSound (codec : Codec α) (value : α) : Prop := (codec.write .stored value).Sound

/-- Whether a codec writes all values as sound ones and reads them back. -/
structure Codec.IsFaithful (codec : Codec α) : Prop where
  writesSound : ∀ value, codec.WritesSound value
  restores : ∀ value, codec.Restores value

namespace Codec

variable {codec : Codec α}

/-- Texts are kept. -/
theorem faithful_text : text.IsFaithful := ⟨fun _ => trivial, restores_text⟩

/-- Integers are kept. -/
theorem faithful_integer : integer.IsFaithful := ⟨fun _ => trivial, restores_integer⟩

/-- A number in canonical form is written as a sound value. -/
theorem writesSound_number {value : Number.Binary64} (canonical : value.IsCanonical) : number.WritesSound value :=
  canonical

/-- A list is written as a sound value when its items are. -/
theorem writesSound_list {values : List α} (sound : ∀ value ∈ values, codec.WritesSound value) :
    (list codec).WritesSound values := by
  refine soundItems_iff.mpr fun item member => ?_
  obtain ⟨value, isValue, rfl⟩ := List.mem_map.mp member
  exact sound value isValue

/-- Lists are kept when their items are. -/
theorem IsFaithful.list (faithful : codec.IsFaithful) : (list codec).IsFaithful where
  writesSound _ := writesSound_list fun value _ => faithful.writesSound value
  restores _ := restores_list_iff.mpr fun value _ => faithful.restores value

/-- An option is written as a sound value when its value is. -/
theorem writesSound_optional {value : Option α} (sound : ∀ held ∈ value, codec.WritesSound held) :
    (optional codec).WritesSound value := by
  cases value with
  | none => trivial
  | some held => exact sound held rfl

/-- Options are kept when their values are and none of them is written as null. -/
theorem IsFaithful.optional (faithful : codec.IsFaithful) (noNull : ∀ value, codec.write .stored value ≠ .null) :
    (optional codec).IsFaithful where
  writesSound _ := writesSound_optional fun held _ => faithful.writesSound held
  restores _ := restores_optional fun held _ => ⟨faithful.restores held, noNull held⟩

/-- A dictionary is written as a sound value when its names are distinct and its values are written so. -/
theorem writesSound_dictionary {entries : List (String × α)} (distinct : (entries.map Prod.fst).Nodup)
    (sound : ∀ entry ∈ entries, codec.WritesSound entry.2) : (dictionary codec).WritesSound entries := by
  refine ⟨?_, soundMembers_iff.mpr fun member isMember => ?_⟩
  · rw [List.map_map]
    exact distinct
  · obtain ⟨entry, isEntry, rfl⟩ := List.mem_map.mp isMember
    exact sound entry isEntry

/-- Sound members are written as a sound value. -/
theorem writesSound_members {entries : List (String × Json)} (sound : (Json.obj entries).Sound) :
    members.WritesSound entries :=
  Json.sound_finite (.obj entries) sound

/-- Members are restored when their numbers are finite, and only then. -/
theorem restores_members_iff {entries : List (String × Json)} :
    members.Restores entries ↔ Json.membersAreFinite entries = true := by
  refine ⟨fun restores => ?_, fun finite =>
    congrArg Checked.valid (Json.finiteMembers_of_membersAreFinite entries finite)⟩
  have same : Json.finiteMembers entries = entries := Checked.valid.inj restores
  exact same ▸ Json.membersAreFinite_finiteMembers entries

end Codec

/-! ## Records -/

namespace Part

variable {record : ρ} {names moreNames aliases moreAliases : List String}

/-- Whether a part writes sound fields of some names for a record. -/
structure WritesSound (part : Part ρ α) (record : ρ) (names : List String) : Prop where
  named : (part.write .stored record).map Prod.fst = names
  sound : SoundMembers (part.write .stored record)

/-- Parts in a row write sound fields when each of them does. -/
theorem WritesSound.seq {left : Part ρ (α -> β)} {right : Part ρ α} (first : left.WritesSound record names)
    (second : right.WritesSound record moreNames) : (left <*> right).WritesSound record (names ++ moreNames) where
  named := List.map_append.trans (congrArg₂ _ first.named second.named)
  sound := soundMembers_iff.mpr
    (List.forall_mem_append.mpr ⟨soundMembers_iff.mp first.sound, soundMembers_iff.mp second.sound⟩)

/-- The first part of a record. -/
theorem WritesSound.map {part : Part ρ α} (sound : part.WritesSound record names) (change : α -> β) :
    (change <$> part).WritesSound record names := ⟨sound.named, sound.sound⟩

/-- A field is sound when its codec writes a sound value. -/
theorem writesSound_named {own exchanged : String} {codec : Codec α} {held : ρ -> α} {fallback : Option α}
    (sound : codec.WritesSound (held record)) :
    (named own exchanged codec held fallback).WritesSound record [own] := ⟨rfl, sound, trivial⟩

/-- Whether a part writes sound fields for all records and reads from them what they hold. -/
structure IsFaithful (part : Part ρ α) (names aliases : List String) (held : ρ -> α) : Prop where
  writesSound : ∀ record, part.WritesSound record names
  restores : ∀ record, part.Restores record names aliases (held record)

/-- Parts in a row are kept when each of them is. -/
theorem IsFaithful.seq {left : Part ρ (α -> β)} {right : Part ρ α} {change : ρ -> α -> β} {held : ρ -> α}
    (first : left.IsFaithful names aliases change) (second : right.IsFaithful moreNames moreAliases held) :
    (left <*> right).IsFaithful (names ++ moreNames) (aliases ++ moreAliases)
      fun record => change record (held record) where
  writesSound record := (first.writesSound record).seq (second.writesSound record)
  restores record := (first.restores record).seq (second.restores record)

/-- The first part of a record. -/
theorem IsFaithful.map {part : Part ρ α} {held : ρ -> α} (faithful : part.IsFaithful names aliases held)
    (change : α -> β) : (change <$> part).IsFaithful names aliases fun record => change (held record) where
  writesSound record := (faithful.writesSound record).map change
  restores record := (faithful.restores record).map change

/-- A field is kept when its codec is faithful. -/
theorem faithful_named {own exchanged : String} {codec : Codec α} {held : ρ -> α} {fallback : Option α}
    (faithful : codec.IsFaithful) :
    (named own exchanged codec held fallback).IsFaithful [own] (aliasesOf own exchanged) held where
  writesSound record := writesSound_named (faithful.writesSound (held record))
  restores record := restores_named (faithful.restores (held record))

end Part

/-- A record is written as a sound value when its parts write sound fields of distinct names. -/
theorem Codec.writesSound_record {name : String} {parts : Part ρ ρ} {record : ρ} {names : List String}
    (distinct : names.Nodup) (sound : parts.WritesSound record names) :
    (Codec.record name parts).WritesSound record :=
  ⟨sound.named.symm ▸ distinct, sound.sound⟩

/-- Records are kept when their parts are, the names of their fields are distinct and no alias is one of
them. -/
theorem Codec.faithful_record {name : String} {parts : Part ρ ρ} {names aliases : List String}
    (distinct : names.Nodup) (unnamed : ∀ other ∈ aliases, other ∉ names)
    (faithful : parts.IsFaithful names aliases id) : (Codec.record name parts).IsFaithful where
  writesSound record := writesSound_record distinct (faithful.writesSound record)
  restores record := restores_record distinct unnamed (faithful.restores record)

end RepoSurvey.Schema

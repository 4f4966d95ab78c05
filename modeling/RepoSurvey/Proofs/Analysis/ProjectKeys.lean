import RepoSurvey.Analysis.Identity
import RepoSurvey.Proofs.Text.Trimming

/-!
# Project keys

A URL spells an address: blank characters, a mark such as a scheme, slashes and a suffix may stand around it, and
`Spells` says where. What a project key is made of is an address that its URL spells, with slashes for colons:
`projectKey_account`. An address that could not be taken for a longer spelling of a shorter one is plain, and all
spellings of a plain address have one key, which is a key of itself.

Each of the four is taken off once. The address of a URL that spells in two ways need not be plain, and its key need
not be normal then: a suffix below a slash leaves the slash, a second suffix stays, and so does a mark behind a scheme.
-/

namespace RepoSurvey.Analysis

open Text (IsTrimmed isBlank trim trimBy)

/-! ## Addresses and their spellings -/

/-- A text with slashes for its colons. -/
def withoutColons (text : List Char) : List Char := text.map fun c => if c = ':' then '/' else c

/-- The address that the key of a URL is made of. -/
def bareAddress (url : String) : List Char :=
  withoutSuffix (trimBy (· == '/') (withoutScheme (trim url.toList)))

/-- The parts of a URL around an address: blank characters, a mark or none, slashes, and the suffix or not. -/
structure Wrapping where
  blanks : List Char
  mark : List Char
  slashes : List Char
  suffix : List Char
  slashesAfter : List Char
  blanksAfter : List Char

namespace Wrapping

/-- An address in its wrapping, without the blank characters. -/
def unblanked (wrapping : Wrapping) (address : List Char) : List Char :=
  wrapping.mark ++ (wrapping.slashes ++ (address ++ wrapping.suffix) ++ wrapping.slashesAfter)

/-- An address in its wrapping. -/
def around (wrapping : Wrapping) (address : List Char) : List Char :=
  wrapping.blanks ++ wrapping.unblanked address ++ wrapping.blanksAfter

/-- Whether the parts of a wrapping are what they are to be. -/
structure IsSound (wrapping : Wrapping) : Prop where
  blanks : ∀ c ∈ wrapping.blanks, isBlank c = true
  blanksAfter : ∀ c ∈ wrapping.blanksAfter, isBlank c = true
  mark : wrapping.mark = [] ∨ ∃ scheme ∈ schemes, wrapping.mark = scheme.toList
  slashes : ∀ c ∈ wrapping.slashes, (c == '/') = true
  slashesAfter : ∀ c ∈ wrapping.slashesAfter, (c == '/') = true
  suffix : wrapping.suffix = [] ∨ wrapping.suffix = repositorySuffix

end Wrapping

/-- Whether a URL spells an address. -/
def Spells (url : String) (address : List Char) : Prop :=
  ∃ wrapping : Wrapping, wrapping.IsSound ∧ url.toList = wrapping.around address

/-- Whether a character could belong to the wrapping of an address that it stands at an end of. -/
def isLoose (c : Char) : Bool := isBlank c || c == '/' || c == ':'

/-- Whether nothing of an address could be taken for a part of its wrapping. -/
structure IsPlain (address : List Char) : Prop where
  trimmed : IsTrimmed isLoose address
  unmarked : ∀ scheme ∈ schemes, ¬scheme.toList <+: address
  bare : ¬repositorySuffix <:+ address

/-- Whether a key has no colons, no slashes at its ends and no suffix. -/
structure IsNormal (key : List Char) : Prop where
  colonless : ':' ∉ key
  trimmed : IsTrimmed (· == '/') key
  bare : ¬repositorySuffix <:+ key

/-- Whether a text without colons has nothing that a key is made without. -/
structure IsSettled (key : List Char) : Prop where
  unblanked : IsTrimmed isBlank key
  trimmed : IsTrimmed (· == '/') key
  unmarked : ¬"git@".toList <+: key
  bare : ¬repositorySuffix <:+ key

/-! ## Marks and suffixes -/

/-- The mark before a text is removed. -/
theorem withoutScheme_append {scheme : String} (member : scheme ∈ schemes) (text : List Char) :
    withoutScheme (scheme.toList ++ text) = text := by
  simp only [schemes, List.mem_cons, List.not_mem_nil, or_false] at member
  rcases member with rfl | rfl | rfl | rfl | rfl <;> rfl

/-- A text with no mark before it is left as it is. -/
theorem withoutScheme_of_unmarked {text : List Char} (unmarked : ∀ scheme ∈ schemes, ¬scheme.toList <+: text) :
    withoutScheme text = text := by
  have none : schemes.findSome? (afterScheme? text) = none := by
    apply List.findSome?_eq_none_iff.mpr
    intro scheme member
    exact if_neg fun starts => unmarked scheme member (List.isPrefixOf_iff_prefix.mp starts)
  rw [withoutScheme, none, Option.getD_none]

/-- A text has a mark before it, which is removed, or it has none and is left as it is. -/
theorem withoutScheme_cases (text : List Char) :
    (∃ scheme ∈ schemes, text = scheme.toList ++ withoutScheme text) ∨
      (∀ scheme ∈ schemes, ¬scheme.toList <+: text) ∧ withoutScheme text = text := by
  by_cases marked : ∃ scheme ∈ schemes, scheme.toList <+: text
  · obtain ⟨scheme, member, rest, rfl⟩ := marked
    exact .inl ⟨scheme, member, by rw [withoutScheme_append member]⟩
  · have unmarked : ∀ scheme ∈ schemes, ¬scheme.toList <+: text :=
      fun scheme member starts => marked ⟨scheme, member, starts⟩
    exact .inr ⟨unmarked, withoutScheme_of_unmarked unmarked⟩

/-- The suffix behind a text is removed. -/
theorem withoutSuffix_append (text : List Char) : withoutSuffix (text ++ repositorySuffix) = text := by
  have ends : repositorySuffix.isSuffixOf (text ++ repositorySuffix) = true :=
    List.isSuffixOf_iff_suffix.mpr (List.suffix_append _ _)
  rw [withoutSuffix, if_pos ends, List.length_append, Nat.add_sub_cancel, List.take_left]

/-- A text without the suffix is left as it is. -/
theorem withoutSuffix_of_bare {text : List Char} (bare : ¬repositorySuffix <:+ text) : withoutSuffix text = text :=
  if_neg fun ends => bare (List.isSuffixOf_iff_suffix.mp ends)

/-- A text has the suffix behind it, which is removed, or it has not and is left as it is. -/
theorem withoutSuffix_cases (text : List Char) :
    text = withoutSuffix text ++ repositorySuffix ∨ ¬repositorySuffix <:+ text ∧ withoutSuffix text = text := by
  by_cases ends : repositorySuffix <:+ text
  · obtain ⟨rest, rfl⟩ := ends
    exact .inl (by rw [withoutSuffix_append])
  · exact .inr ⟨ends, withoutSuffix_of_bare ends⟩

/-! ## Every URL spells its address -/

/-- A URL spells the address that its key is made of. -/
theorem spells_bareAddress (url : String) : Spells url (bareAddress url) := by
  let core := trim url.toList
  let address := trimBy (· == '/') (withoutScheme core)
  obtain ⟨-, blanks, blanksAfter, isUrl, areBlanks, areBlanksAfter⟩ := Text.trimBy_spec isBlank url.toList
  obtain ⟨-, slashes, slashesAfter, isCore, areSlashes, areSlashesAfter⟩ :=
    Text.trimBy_spec (· == '/') (withoutScheme core)
  obtain ⟨mark, isMark, marked⟩ : ∃ mark, (mark = [] ∨ ∃ scheme ∈ schemes, mark = scheme.toList) ∧
      core = mark ++ withoutScheme core := by
    rcases withoutScheme_cases core with ⟨scheme, member, marked⟩ | ⟨-, same⟩
    · exact ⟨scheme.toList, .inr ⟨scheme, member, rfl⟩, marked⟩
    · exact ⟨[], .inl rfl, same.symm⟩
  obtain ⟨suffix, isSuffix, suffixed⟩ : ∃ suffix, (suffix = [] ∨ suffix = repositorySuffix) ∧
      address = bareAddress url ++ suffix := by
    rcases withoutSuffix_cases address with ends | ⟨-, same⟩
    · exact ⟨repositorySuffix, .inr rfl, ends⟩
    · exact ⟨[], .inl rfl, by rw [List.append_nil]; exact same.symm⟩
  refine ⟨⟨blanks, mark, slashes, suffix, slashesAfter, blanksAfter⟩,
    ⟨areBlanks, areBlanksAfter, isMark, areSlashes, areSlashesAfter, isSuffix⟩, ?_⟩
  calc url.toList = blanks ++ core ++ blanksAfter := isUrl
    _ = blanks ++ (mark ++ withoutScheme core) ++ blanksAfter := by rw [← marked]
    _ = blanks ++ (mark ++ (slashes ++ address ++ slashesAfter)) ++ blanksAfter := by rw [← isCore]
    _ = blanks ++ (mark ++ (slashes ++ (bareAddress url ++ suffix) ++ slashesAfter)) ++ blanksAfter := by
      rw [← suffixed]

/-! ## Spellings of plain addresses -/

/-- A character that is not loose is not blank, and no slash. -/
theorem of_not_loose {c : Char} (tight : isLoose c = false) : isBlank c = false ∧ (c == '/') = false ∧ c ≠ ':' := by
  simpa [isLoose, and_assoc] using tight

/-- In a mark, a slash or a point stands behind a colon or a slash. -/
theorem loose_before {scheme : String} (member : scheme ∈ schemes) {start rest : List Char} {c : Char}
    (split : scheme.toList = start ++ c :: rest) (isMark : c = '/' ∨ c = '.') :
    ∃ d ∈ start.getLast?, isLoose d = true := by
  have checked : ∀ scheme ∈ schemes, ∀ size < scheme.toList.length,
      (scheme.toList.drop size).head? = some '/' ∨ (scheme.toList.drop size).head? = some '.' ->
        ((scheme.toList.take size).getLast?.map isLoose) = some true := by decide
  have size : start.length < scheme.toList.length := by rw [split, List.length_append, List.length_cons]; omega
  have found := checked scheme member start.length size
  rw [split, List.drop_left, List.take_left] at found
  have last := found (isMark.imp (congrArg some) (congrArg some))
  simpa using last

namespace IsPlain

variable {address : List Char} (plain : IsPlain address)

include plain

/-- A plain address has no blank characters at its ends. -/
theorem unblanked : IsTrimmed isBlank address := plain.trimmed.mono fun _ tight => (of_not_loose tight).1

/-- A plain address has no slashes at its ends. -/
theorem slashless : IsTrimmed (· == '/') address := plain.trimmed.mono fun _ tight => (of_not_loose tight).2.1

/-- No mark comes about before a plain address by what stands around it. -/
theorem unmarked_around {wrapping : Wrapping} (sound : wrapping.IsSound) : ∀ scheme ∈ schemes,
    ¬scheme.toList <+: wrapping.slashes ++ (address ++ wrapping.suffix) ++ wrapping.slashesAfter := by
  intro scheme member starts
  obtain ⟨first, rest, isScheme⟩ : ∃ first rest, scheme.toList = first :: rest := by
    simp only [schemes, List.mem_cons, List.not_mem_nil, or_false] at member
    rcases member with rfl | rfl | rfl | rfl | rfl <;> exact ⟨_, _, rfl⟩
  cases isSlashes : wrapping.slashes with
  | cons c others =>
    rw [isSlashes, isScheme] at starts
    obtain rfl := (List.cons_prefix_cons.mp starts).1
    have isSlash : first = '/' := by simpa [isSlashes] using sound.slashes first
    obtain ⟨_, none, -⟩ := @loose_before scheme member [] rest first isScheme (.inl isSlash)
    nomatch none
  | nil =>
    rw [isSlashes, List.nil_append, List.append_assoc] at starts
    rcases List.prefix_or_prefix_of_prefix starts (List.prefix_append _ _) with inside | ⟨beyond, isBeyond⟩
    · exact plain.unmarked scheme member inside
    · rw [← isBeyond] at starts
      have further := (List.prefix_append_right_inj address).mp starts
      cases beyond with
      | nil =>
        rw [List.append_nil] at isBeyond
        exact plain.unmarked scheme member (isBeyond ▸ List.prefix_refl _)
      | cons c others =>
        -- The mark goes on behind the address by the suffix or by a slash.
        have isNext : c = '/' ∨ c = '.' := by
          rcases sound.suffix with isSuffix | isSuffix
          · rw [isSuffix, List.nil_append] at further
            have inSlashes := further.subset (.head _)
            exact .inl (by simpa using sound.slashesAfter c inSlashes)
          · rw [isSuffix] at further
            exact .inr (List.cons_prefix_cons.mp further).1
        obtain ⟨d, isLast, loose⟩ := loose_before member isBeyond.symm isNext
        rw [plain.trimmed.stop d isLast] at loose
        nomatch loose

/-- What a URL that spells a plain address has its key made of is that address. -/
theorem bareAddress_eq {url : String} (spells : Spells url address) : bareAddress url = address := by
  obtain ⟨wrapping, sound, isUrl⟩ := spells
  have suffixTrimmed : IsTrimmed isBlank wrapping.suffix ∧ IsTrimmed (· == '/') wrapping.suffix := by
    rcases sound.suffix with isSuffix | isSuffix <;> rw [isSuffix]
    · exact ⟨Text.isTrimmed_nil, Text.isTrimmed_nil⟩
    · exact ⟨Text.isTrimmed_of_all (by decide), Text.isTrimmed_of_all (by decide)⟩
  have markTrimmed : IsTrimmed isBlank wrapping.mark := by
    rcases sound.mark with isMark | ⟨scheme, member, isMark⟩ <;> rw [isMark]
    · exact Text.isTrimmed_nil
    · have free : ∀ scheme ∈ schemes, (scheme.toList.all fun c => !isBlank c) = true := by decide
      exact Text.isTrimmed_of_all (free scheme member)
  have slashesTrimmed : ∀ {slashes : List Char}, (∀ c ∈ slashes, (c == '/') = true) -> IsTrimmed isBlank slashes := by
    intro slashes are
    apply Text.isTrimmed_of_forall
    intro c member
    rw [beq_iff_eq.mp (are c member)]
    rfl
  have unblanked : IsTrimmed isBlank (wrapping.unblanked address) :=
    markTrimmed.append (((slashesTrimmed sound.slashes).append (plain.unblanked.append suffixTrimmed.1)).append
      (slashesTrimmed sound.slashesAfter))
  have isCore : trim url.toList = wrapping.unblanked address := by
    rw [isUrl]
    exact Text.trimBy_padded sound.blanks unblanked sound.blanksAfter
  have isInner : withoutScheme (wrapping.unblanked address) =
      wrapping.slashes ++ (address ++ wrapping.suffix) ++ wrapping.slashesAfter := by
    unfold Wrapping.unblanked
    rcases sound.mark with isMark | ⟨scheme, member, isMark⟩ <;> rw [isMark]
    · exact withoutScheme_of_unmarked (plain.unmarked_around sound)
    · exact withoutScheme_append member _
  have isAddress : trimBy (· == '/') (wrapping.slashes ++ (address ++ wrapping.suffix) ++ wrapping.slashesAfter) =
      address ++ wrapping.suffix :=
    Text.trimBy_padded sound.slashes (plain.slashless.append suffixTrimmed.2) sound.slashesAfter
  rw [bareAddress, isCore, isInner, isAddress]
  rcases sound.suffix with isSuffix | isSuffix <;> rw [isSuffix]
  · rw [List.append_nil]
    exact withoutSuffix_of_bare plain.bare
  · exact withoutSuffix_append address

end IsPlain

/-! ## Keys -/

section Keys

variable {address key : List Char} {url : String}

/-- The characters of a project key. -/
theorem toList_projectKey (url : String) : (projectKey url).toList = withoutColons (bareAddress url) := by
  rw [projectKey, String.toList_ofList]
  rfl

/-- There are no colons in a text without colons. -/
theorem colonless_withoutColons (text : List Char) : ':' ∉ withoutColons text := by
  intro member
  obtain ⟨c, -, same⟩ := List.mem_map.mp member
  split at same
  · nomatch same
  · next notColon => exact notColon same

/-- A text without colons is left as it is. -/
theorem withoutColons_eq_self {text : List Char} (colonless : ':' ∉ text) : withoutColons text = text := by
  have same : ∀ c ∈ text, (if c = ':' then '/' else c) = c := by
    intro c member
    apply if_neg
    rintro rfl
    exact colonless member
  rw [withoutColons, List.map_congr_left same, List.map_id']

/-- Only a text without colons and slashes becomes one without slashes. -/
theorem eq_of_withoutColons_eq {text other : List Char} (slashless : '/' ∉ other) (same : withoutColons text = other) :
    text = other := by
  have colonless : ':' ∉ text := by
    intro member
    apply slashless
    rw [← same]
    exact List.mem_map.mpr ⟨':', member, rfl⟩
  rw [← same, withoutColons_eq_self colonless]

/-- A text without colons has the suffix when it had it with them. -/
theorem suffix_withoutColons_iff {text : List Char} :
    repositorySuffix <:+ withoutColons text ↔ repositorySuffix <:+ text := by
  constructor
  · rintro ⟨start, split⟩
    obtain ⟨first, last, rfl, -, isLast⟩ := List.map_eq_append_iff.mp split.symm
    rw [← eq_of_withoutColons_eq (by decide) isLast]
    exact List.suffix_append _ _
  · rintro ⟨start, rfl⟩
    exact ⟨withoutColons start, by rw [withoutColons, withoutColons, List.map_append]; rfl⟩

/-- A character becomes a slash when it is a slash or a colon. -/
theorem slash_iff {found : Option Char} :
    (found.map fun c => if c = ':' then '/' else c) = some '/' ↔ found = some '/' ∨ found = some ':' := by
  cases found with
  | none => simp
  | some c =>
    by_cases isColon : c = ':'
    · simp [isColon]
    · simp [isColon]

/-- The address that a key is made of does not start with a slash. -/
theorem head?_bareAddress (url : String) : (bareAddress url).head? ≠ some '/' := by
  intro isHead
  let address := trimBy (· == '/') (withoutScheme (trim url.toList))
  have trimmed : IsTrimmed (· == '/') address := (Text.trimBy_spec _ _).1
  have starts : address.head? = some '/' := by
    rcases withoutSuffix_cases address with ends | ⟨-, same⟩
    · rw [ends, List.head?_append]
      exact congrArg (fun found : Option Char => found.or repositorySuffix.head?) isHead
    · rwa [bareAddress, same] at isHead
  nomatch trimmed.start '/' starts

/-- The address that a key is made of is a part of its URL. -/
theorem bareAddress_infix (url : String) :
    bareAddress url <+: trimBy (· == '/') (withoutScheme (trim url.toList)) ∧
      trimBy (· == '/') (withoutScheme (trim url.toList)) <:+: withoutScheme (trim url.toList) ∧
      withoutScheme (trim url.toList) <:+ trim url.toList ∧ trim url.toList <:+: url.toList := by
  refine ⟨?_, Text.trimBy_infix _ _, ?_, Text.trimBy_infix _ _⟩
  · rcases withoutSuffix_cases (trimBy (· == '/') (withoutScheme (trim url.toList))) with ends | ⟨-, same⟩
    · exact ⟨_, ends.symm⟩
    · exact ⟨[], (List.append_nil _).trans same⟩
  · rcases withoutScheme_cases (trim url.toList) with ⟨scheme, -, marked⟩ | ⟨-, same⟩
    · exact ⟨_, marked.symm⟩
    · exact ⟨[], same⟩

/-- A key is the key of itself just when it is settled. -/
theorem projectKey_eq_self_iff {key : String} (colonless : ':' ∉ key.toList) :
    projectKey key = key ↔ IsSettled key.toList := by
  have isSame : projectKey key = key ↔ withoutColons (bareAddress key) = key.toList := by
    rw [← toList_projectKey, String.toList_inj]
  rw [isSame]
  constructor
  · intro same
    -- Nothing is cut off, as nothing is missing in the end.
    have long : key.toList.length = (bareAddress key).length := by
      rw [← same, withoutColons, List.length_map]
    obtain ⟨bare, inner, unmarked, core⟩ := bareAddress_infix key
    have bounds := And.intro bare.length_le (And.intro inner.length_le (And.intro unmarked.length_le core.length_le))
    have isCore : trim key.toList = key.toList := core.eq_of_length (by omega)
    rw [isCore] at bare inner unmarked bounds
    have isUnmarked : withoutScheme key.toList = key.toList := unmarked.eq_of_length (by omega)
    rw [isUnmarked] at bare inner bounds
    have isInner : trimBy (· == '/') key.toList = key.toList := inner.eq_of_length (by omega)
    refine ⟨Text.trimBy_eq_self_iff.mp isCore, Text.trimBy_eq_self_iff.mp isInner, ?_, ?_⟩
    · rintro ⟨rest, marked⟩
      have removed := @withoutScheme_append "git@" (by decide) rest
      rw [marked, isUnmarked, ← marked] at removed
      have shorter := congrArg List.length removed
      rw [List.length_append] at shorter
      have size : "git@".toList.length = 4 := rfl
      omega
    · rintro ⟨start, ends⟩
      have removed : bareAddress key = start := by
        rw [bareAddress, isCore, isUnmarked, isInner, ← ends, withoutSuffix_append]
      rw [removed, ← ends, List.length_append] at long
      have size : repositorySuffix.length = 4 := rfl
      omega
  · rintro ⟨unblanked, trimmed, unmarked, bare⟩
    have noMark : ∀ scheme ∈ schemes, ¬scheme.toList <+: key.toList := by
      intro scheme member starts
      have marks : ∀ scheme ∈ schemes, scheme = "git@" ∨ ':' ∈ scheme.toList := by decide
      rcases marks scheme member with rfl | colon
      · exact unmarked starts
      · exact colonless (starts.subset colon)
    have isBare : bareAddress key = key.toList := by
      rw [bareAddress, trim, Text.trimBy_eq_self_iff.mpr unblanked, withoutScheme_of_unmarked noMark,
        Text.trimBy_eq_self_iff.mpr trimmed, withoutSuffix_of_bare bare]
    rw [isBare, withoutColons_eq_self colonless]

/-- The key of a plain address is normal and settled. -/
theorem IsPlain.settled (plain : IsPlain address) :
    IsNormal (withoutColons address) ∧ IsSettled (withoutColons address) := by
  have keeps : ∀ {found : Option Char}, (∀ c ∈ found, isLoose c = false) ->
      (found.map fun c => if c = ':' then '/' else c) = found := by
    intro found tight
    cases found with
    | none => rfl
    | some c => exact congrArg some (if_neg (of_not_loose (tight c rfl)).2.2)
  have trimmed : IsTrimmed isLoose (withoutColons address) := by
    constructor
    · rw [withoutColons, List.head?_map, keeps plain.trimmed.start]
      exact plain.trimmed.start
    · rw [withoutColons, List.getLast?_map, keeps plain.trimmed.stop]
      exact plain.trimmed.stop
  have unblanked : IsTrimmed isBlank (withoutColons address) := trimmed.mono fun _ tight => (of_not_loose tight).1
  have slashless : IsTrimmed (· == '/') (withoutColons address) := trimmed.mono fun _ tight => (of_not_loose tight).2.1
  have bare : ¬repositorySuffix <:+ withoutColons address := fun ends => plain.bare (suffix_withoutColons_iff.mp ends)
  refine ⟨⟨colonless_withoutColons _, slashless, bare⟩, unblanked, slashless, ?_, bare⟩
  rintro ⟨rest, split⟩
  obtain ⟨first, last, rfl, isFirst, -⟩ := List.map_eq_append_iff.mp split.symm
  apply plain.unmarked "git@" (by decide)
  rw [← eq_of_withoutColons_eq (by decide) isFirst]
  exact List.prefix_append _ _

end Keys

/-- **Project keys.** Every URL spells the address that its key is made of, with slashes for colons, so that there is
no colon in the key. The key starts with a slash when the address starts with a colon, ends with one when the address
ends with a slash or a colon, and has the suffix when the address has it. It is the key of itself just when it is
settled. All URLs that spell one plain address have one key, which is normal and the key of itself. -/
theorem projectKey_account (url : String) :
    (Spells url (bareAddress url) ∧ (projectKey url).toList = withoutColons (bareAddress url)) ∧
    ':' ∉ (projectKey url).toList ∧
    ((projectKey url).toList.head? = some '/' ↔ (bareAddress url).head? = some ':') ∧
    ((projectKey url).toList.getLast? = some '/' ↔
      (bareAddress url).getLast? = some '/' ∨ (bareAddress url).getLast? = some ':') ∧
    (repositorySuffix <:+ (projectKey url).toList ↔ repositorySuffix <:+ bareAddress url) ∧
    (projectKey (projectKey url) = projectKey url ↔ IsSettled (projectKey url).toList) ∧
    ∀ address, IsPlain address -> Spells url address ->
      (projectKey url).toList = withoutColons address ∧ IsNormal (projectKey url).toList ∧
        projectKey (projectKey url) = projectKey url := by
  have isKey := toList_projectKey url
  have colonless : ':' ∉ (projectKey url).toList := isKey ▸ colonless_withoutColons _
  refine ⟨⟨spells_bareAddress url, isKey⟩, colonless, ?_, ?_, ?_, projectKey_eq_self_iff colonless, ?_⟩
  · rw [isKey, withoutColons, List.head?_map, slash_iff]
    exact or_iff_right (head?_bareAddress url)
  · rw [isKey, withoutColons, List.getLast?_map, slash_iff]
  · rw [isKey, suffix_withoutColons_iff]
  · intro address plain spells
    have isAddress : (projectKey url).toList = withoutColons address := by rw [isKey, plain.bareAddress_eq spells]
    obtain ⟨normal, settled⟩ := plain.settled
    rw [← isAddress] at normal settled
    exact ⟨isAddress, normal, (projectKey_eq_self_iff colonless).mpr settled⟩

/-- The address of a repository. -/
def ordersAddress : List Char := "github.com/acme/orders".toList

/-- Two spellings of a plain address have one key, which is normal. A repository directory inside of a checkout is
spelled with the suffix below a slash, which stays. -/
theorem ordersAddress_keys : IsPlain ordersAddress ∧ Spells "https://github.com/acme/orders.git/" ordersAddress ∧
    Spells " ssh://github.com/acme/orders" ordersAddress ∧
    projectKey "https://github.com/acme/orders.git/" = projectKey " ssh://github.com/acme/orders" ∧
    IsNormal (projectKey "https://github.com/acme/orders.git/").toList ∧
    projectKey "file:///srv/checkouts/orders/.git" = "srv/checkouts/orders/" := by
  have plain : IsPlain ordersAddress := by
    refine ⟨⟨fun c isHead => ?_, fun c isLast => ?_⟩, by decide, by decide⟩
    · obtain rfl : 'g' = c := Option.some.inj isHead
      rfl
    · obtain rfl : 's' = c := Option.some.inj isLast
      rfl
  have first : Spells "https://github.com/acme/orders.git/" ordersAddress :=
    ⟨⟨[], "https://".toList, [], repositorySuffix, ['/'], []⟩,
      ⟨List.forall_mem_nil _, List.forall_mem_nil _, .inr ⟨"https://", by decide, rfl⟩, List.forall_mem_nil _,
        List.forall_mem_singleton.mpr rfl, .inr rfl⟩, rfl⟩
  have second : Spells " ssh://github.com/acme/orders" ordersAddress :=
    ⟨⟨[' '], "ssh://".toList, [], [], [], []⟩,
      ⟨List.forall_mem_singleton.mpr rfl, List.forall_mem_nil _, .inr ⟨"ssh://", by decide, rfl⟩,
        List.forall_mem_nil _, List.forall_mem_nil _, .inl rfl⟩, rfl⟩
  obtain ⟨-, -, -, -, -, -, spelled⟩ := projectKey_account "https://github.com/acme/orders.git/"
  obtain ⟨-, -, -, -, -, -, alsoSpelled⟩ := projectKey_account " ssh://github.com/acme/orders"
  obtain ⟨isKey, normal, -⟩ := spelled ordersAddress plain first
  obtain ⟨isSame, -, -⟩ := alsoSpelled ordersAddress plain second
  refine ⟨plain, first, second, String.toList_inj.mp (isKey.trans isSame.symm), normal, ?_⟩
  decide +kernel

end RepoSurvey.Analysis

import RepoSurvey.Proofs.Json.Numbers
import RepoSurvey.Proofs.Json.Strings

/-!
# Values of JSON and their texts

A sound value is one that can be met: its doubles are in canonical form, and no object has two members of
one name. `readAll_write` says that the text of a sound value reads back as the value in every style, as
long as none of its integers is too long to be read.
-/

namespace RepoSurvey.Json

open Number (Binary64 Layout)

/-! ## Sound values -/

mutual

/-- Whether a value can be met: doubles are in canonical form, names of members distinct. -/
def Sound : Json -> Prop
  | .float value => value.IsCanonical
  | .arr items => SoundItems items
  | .obj members => (members.map Prod.fst).Nodup ∧ SoundMembers members
  | _ => True

/-- Whether all items are sound. -/
def SoundItems : List Json -> Prop
  | [] => True
  | item :: items => Sound item ∧ SoundItems items

/-- Whether the values of all members are sound. -/
def SoundMembers : List (String × Json) -> Prop
  | [] => True
  | (_, value) :: members => Sound value ∧ SoundMembers members

end

/-! ## White space and marks -/

variable {rest : List Char} {fuel position level : Nat} {style : Style}

/-- White space is stepped over. -/
theorem skipSpace_spaces (rest : List Char) (position : Nat) {spaces : List Char}
    (allSpaces : ∀ c ∈ spaces, Cursor.isSpace c = true) (stops : ∀ c ∈ rest.head?, Cursor.isSpace c = false) :
    ∃ later, Cursor.skipSpace ⟨spaces ++ rest, position⟩ = ⟨rest, later⟩ := by
  induction spaces generalizing position with
  | nil =>
    cases rest with
    | nil => exact ⟨position, rfl⟩
    | cons c rest =>
      have stop : Cursor.isSpace c = false := stops c rfl
      exact ⟨position, by simp [Cursor.skipSpace, Cursor.skipSpace.go, stop]⟩
  | cons c spaces inductionHypothesis =>
    have space : Cursor.isSpace c = true := allSpaces c (.head _)
    obtain ⟨later, skipped⟩ := inductionHypothesis (position + 1)
      fun other member => allSpaces other (.tail _ member)
    refine ⟨later, ?_⟩
    rw [← skipped]
    simp [Cursor.skipSpace, Cursor.skipSpace.go, space]

/-- The start of a line is white space. -/
theorem isSpace_lineStart (style : Style) (level : Nat) :
    ∀ c ∈ style.lineStart level, Cursor.isSpace c = true := by
  intro c member
  unfold Style.lineStart at member
  split at member
  · cases member
  · rcases List.mem_cons.mp member with rfl | member
    · rfl
    · rw [List.eq_of_mem_replicate member]
      rfl

/-- What stands between two items is a comma and white space. -/
theorem separator_eq (style : Style) (level : Nat) :
    ∃ spaces, style.separator level = ',' :: spaces ∧ ∀ c ∈ spaces, Cursor.isSpace c = true := by
  unfold Style.separator
  split
  · exact ⟨[' '], rfl, List.forall_mem_singleton.mpr rfl⟩
  · exact ⟨_, rfl, isSpace_lineStart style level⟩

/-- A number does not go on at the start of a line. -/
theorem stopsNumber_lineStart (stops : StopsNumber rest) : StopsNumber (style.lineStart level ++ rest) := by
  unfold Style.lineStart
  split
  · exact stops
  · intro c head
    cases head
    decide

/-- The characters with which written values begin. -/
def firstMarks : List Char := ['n', 't', 'f', '-', 'N', 'I', '"', '[', '{']

/-- Whether a character can begin a written value. -/
def Begins (c : Char) : Prop := c.isDigit = true ∨ c ∈ firstMarks

/-- A character that begins a value is none that cannot. -/
theorem Begins.ne {c other : Char} (begins : Begins c) (noDigit : other.isDigit = false)
    (noMark : other ∉ firstMarks) : c ≠ other := by
  rintro rfl
  rcases begins with digit | mark
  · rw [digit] at noDigit
    cases noDigit
  · exact noMark mark

/-- A character that begins a value is no white space. -/
theorem Begins.isSpace {c : Char} (begins : Begins c) : Cursor.isSpace c = false := by
  have blank : c ≠ ' ' := begins.ne rfl (by decide)
  have tab : c ≠ '\t' := begins.ne rfl (by decide)
  have newline : c ≠ '\n' := begins.ne rfl (by decide)
  have return_ : c ≠ '\r' := begins.ne rfl (by decide)
  simp [Cursor.isSpace, blank, tab, newline, return_]

/-- What begins like a number begins a value. -/
theorem StartsNumber.begins {text : List Char} (starts : StartsNumber text) :
    ∃ c others, text = c :: others ∧ Begins c := by
  obtain ⟨c, others, isDigit, rfl | rfl⟩ := starts
  · exact ⟨c, others, rfl, .inl isDigit⟩
  · exact ⟨'-', c :: others, rfl, .inr (by decide)⟩

/-- A written double is one of the three names, or begins like a number. -/
theorem text_float (value : Binary64) :
    (value = .nan ∧ (Layout.exchange.text value).toList = "NaN".toList) ∨
      (value = .infinite false ∧ (Layout.exchange.text value).toList = "Infinity".toList) ∨
      (value = .infinite true ∧ (Layout.exchange.text value).toList = "-Infinity".toList) ∨
      StartsNumber (Layout.exchange.text value).toList := by
  cases value with
  | nan => exact .inl ⟨rfl, rfl⟩
  | infinite negative =>
    cases negative with
    | false => exact .inr (.inl ⟨rfl, rfl⟩)
    | true => exact .inr (.inr (.inl ⟨rfl, rfl⟩))
  | finite negative significand exponent =>
    exact .inr (.inr (.inr (startsNumber_finite negative significand exponent)))

/-- A written value begins with a character that can begin one. -/
theorem write_begins (style : Style) (level : Nat) (value : Json) :
    ∃ c others, write style level value = c :: others ∧ Begins c := by
  cases value with
  | null => exact ⟨'n', "ull".toList, by simp [write], .inr (by decide)⟩
  | bool value =>
    cases value
    · exact ⟨'f', "alse".toList, by simp [write], .inr (by decide)⟩
    · exact ⟨'t', "rue".toList, by simp [write], .inr (by decide)⟩
  | int value =>
    rw [write]
    exact (startsNumber_intText value).begins
  | float value =>
    rw [write]
    rcases text_float value with ⟨-, text⟩ | ⟨-, text⟩ | ⟨-, text⟩ | starts
    · exact ⟨'N', _, text, .inr (by decide)⟩
    · exact ⟨'I', _, text, .inr (by decide)⟩
    · exact ⟨'-', _, text, .inr (by decide)⟩
    · exact starts.begins
  | str value => exact ⟨'"', _, by rw [write, writeString], .inr (by decide)⟩
  | arr items =>
    cases items with
    | nil => exact ⟨'[', _, by rw [write], .inr (by decide)⟩
    | cons item items => exact ⟨'[', _, by rw [write], .inr (by decide)⟩
  | obj members =>
    cases members with
    | nil => exact ⟨'{', _, by rw [write], .inr (by decide)⟩
    | cons member members => exact ⟨'{', _, by rw [write], .inr (by decide)⟩

/-! ## Reading what was written -/

/-- A fixed word is read as what it stands for. -/
theorem reaches_word {text : List Char} {value : Json} {length : Nat}
    (known : word? (text ++ rest) = some (value, length)) (isLength : length = text.length)
    (noQuote : text.head? ≠ some '"') (noBrace : text.head? ≠ some '{')
    (noBracket : text.head? ≠ some '[') (nonempty : text ≠ []) :
    Reaches (readValue (fuel + 1) ⟨text ++ rest, position⟩) value rest := by
  obtain ⟨c, others, rfl⟩ := List.exists_cons_of_ne_nil nonempty
  simp only [List.head?_cons, ne_eq, Option.some.injEq] at noQuote noBrace noBracket
  refine ⟨position + length, ?_⟩
  subst isLength
  rw [readValue.eq_def]
  dsimp only
  split
  · rename_i same
    exact absurd (List.cons.inj same).1 noQuote
  · rename_i same
    exact absurd (List.cons.inj same).1 noBrace
  · rename_i same
    exact absurd (List.cons.inj same).1 noBracket
  · rw [known]
    simp [Cursor.advance]

/-- No fixed word stands where a number begins. -/
theorem word?_startsNumber {text : List Char} (starts : StartsNumber text) (rest : List Char) :
    word? (text ++ rest) = none := by
  obtain ⟨c, others, isDigit, same⟩ := starts
  have different (other : Char) (noDigit : other.isDigit = false) : (other == c) = false := by
    rw [beq_eq_false_iff_ne]
    rintro rfl
    rw [isDigit] at noDigit
    cases noDigit
  rcases same with rfl | rfl <;> simp [word?, words, List.isPrefixOf, different]

/-- What begins like a number is read as a number, if at all. -/
theorem readValue_startsNumber {text : List Char} (starts : StartsNumber text) :
    readValue (fuel + 1) ⟨text ++ rest, position⟩ = readNumber ⟨text ++ rest, position⟩ := by
  obtain ⟨c, others, found, begins⟩ := starts.begins
  have noWord := word?_startsNumber starts rest
  have ne {other : Char} (noDigit : other.isDigit = false) (noSign : other ≠ '-') : c ≠ other := by
    rintro rfl
    obtain ⟨digit, more, isDigit, same | same⟩ := starts
    · rw [found] at same
      cases same
      rw [isDigit] at noDigit
      cases noDigit
    · rw [found] at same
      cases same
      exact noSign rfl
  subst found
  rw [readValue.eq_def]
  dsimp only
  split
  · rename_i same
    exact absurd (List.cons.inj same).1 (ne rfl (by decide))
  · rename_i same
    exact absurd (List.cons.inj same).1 (ne rfl (by decide))
  · rename_i same
    exact absurd (List.cons.inj same).1 (ne rfl (by decide))
  · rw [noWord]

/-- A number is read as a number. -/
theorem reaches_number {text : List Char} {value : Json} (starts : StartsNumber text)
    (reaches : Reaches (readNumber ⟨text ++ rest, position⟩) value rest) :
    Reaches (readValue (fuel + 1) ⟨text ++ rest, position⟩) value rest := by
  rw [readValue_startsNumber starts]
  exact reaches

/-- A character is written with one character at least. -/
theorem length_le_writeString (asciiOnly : Bool) (text : String) :
    text.length + 2 ≤ (writeString asciiOnly text).length := by
  have general (chars : List Char) :
      chars.length ≤ (chars.flatMap (writeChar asciiOnly)).length := by
    induction chars with
    | nil => exact Nat.zero_le _
    | cons c chars inductionHypothesis =>
      have some : 0 < (writeChar asciiOnly c).length := by
        unfold writeChar escapeScalar escapeUnit
        split_ifs <;> simp
      rw [List.flatMap_cons, List.length_append, List.length_cons]
      omega
  have bound := general text.toList
  rw [String.length_toList] at bound
  simp only [writeString, List.length_cons, List.length_append, List.length_nil]
  omega

/-- A written string is read as a value. -/
theorem reaches_string {text : String}
    (enough : 2 * (writeString style.asciiOnly text).length ≤ fuel) :
    Reaches (readValue fuel ⟨writeString style.asciiOnly text ++ rest, position⟩) (.str text) rest := by
  have long := length_le_writeString style.asciiOnly text
  obtain ⟨fuel, rfl⟩ : ∃ left, fuel = left + 1 := ⟨fuel - 1, by omega⟩
  obtain ⟨inside, written, read⟩ := readString_writeString style.asciiOnly position rest
    (by omega : text.length < fuel)
  rw [written]
  simp only [Reaches, readValue, read]
  exact ⟨_, rfl⟩

/-- Members of distinct names stay as they are. -/
theorem mergeMembers_of_nodup {members : List (String × Json)}
    (distinct : (members.map Prod.fst).Nodup) : mergeMembers members = members := by
  have assign_new {name : String} {value : Json} (merged : List (String × Json))
      (new : name ∉ merged.map Prod.fst) : assign name value merged = merged ++ [(name, value)] := by
    induction merged with
    | nil => rfl
    | cons member merged inductionHypothesis =>
      obtain ⟨other, old⟩ := member
      simp only [List.map_cons, List.mem_cons, not_or] at new
      rw [assign, if_neg (Ne.symm new.1), inductionHypothesis new.2, List.cons_append]
  have general (merged : List (String × Json))
      (distinct : ((merged ++ members).map Prod.fst).Nodup) :
      members.foldl (fun merged member => assign member.1 member.2 merged) merged =
        merged ++ members := by
    clear * - assign_new distinct
    induction members generalizing merged with
    | nil => simp
    | cons member members inductionHypothesis =>
      obtain ⟨name, value⟩ := member
      have new : name ∉ merged.map Prod.fst := by
        rw [List.map_append, List.nodup_append] at distinct
        exact fun member => distinct.2.2 name member name (by simp) rfl
      rw [List.foldl_cons, assign_new merged new, inductionHypothesis _ (by simpa using distinct)]
      simp
  exact general [] distinct

/-- A mark after white space is found. -/
theorem skipSpace_mark (rest : List Char) (position : Nat) {spaces : List Char}
    (allSpaces : ∀ c ∈ spaces, Cursor.isSpace c = true) (mark : Char) (noSpace : Cursor.isSpace mark = false) :
    ∃ later, Cursor.skipSpace ⟨spaces ++ mark :: rest, position⟩ = ⟨mark :: rest, later⟩ :=
  skipSpace_spaces _ position allSpaces (by simpa using noSpace)

/-- Before the next item, or before the end, a number does not go on. -/
theorem stopsNumber_items (style : Style) (level : Nat) (rest : List Char) (items : List Json)
    (closing : Nat) :
    StopsNumber (writeItems style level items ++ (style.lineStart closing ++ ']' :: rest)) := by
  cases items with
  | nil => exact stopsNumber_lineStart (by intro c head; cases head; decide)
  | cons item items =>
    obtain ⟨spaces, separator, -⟩ := separator_eq style level
    rw [writeItems, separator]
    intro c head
    cases head
    decide

/-- Before the next member, or before the end, a number does not go on. -/
theorem stopsNumber_members (style : Style) (level : Nat) (rest : List Char)
    (members : List (String × Json)) (closing : Nat) :
    StopsNumber (writeMembers style level members ++ (style.lineStart closing ++ '}' :: rest)) := by
  cases members with
  | nil => exact stopsNumber_lineStart (by intro c head; cases head; decide)
  | cons member members =>
    obtain ⟨spaces, separator, -⟩ := separator_eq style level
    rw [writeMembers, separator]
    intro c head
    cases head
    decide

/-- White space before a written value is stepped over. -/
theorem skipSpace_value (style : Style) (level : Nat) (rest : List Char) (position : Nat)
    {spaces : List Char} (allSpaces : ∀ c ∈ spaces, Cursor.isSpace c = true) (value : Json) :
    ∃ c others later, write style level value ++ rest = c :: others ∧ Begins c ∧
      Cursor.skipSpace ⟨spaces ++ (write style level value ++ rest), position⟩ =
        ⟨write style level value ++ rest, later⟩ := by
  obtain ⟨c, others, found, begins⟩ := write_begins style level value
  obtain ⟨later, skipped⟩ := skipSpace_spaces (write style level value ++ rest) position allSpaces (by
      intro other head
      rw [found] at head
      cases head
      exact begins.isSpace)
  exact ⟨c, others ++ rest, later, by rw [found, List.cons_append], begins, skipped⟩

/-- An array with an item is read by reading its items. -/
theorem readValue_array (fuel position : Nat) (rest : List Char) (item : Json) (items : List Json) : ∃ later,
    readValue (fuel + 1) ⟨write style level (.arr (item :: items)) ++ rest, position⟩ =
      readItems fuel [] ⟨write style (level + 1) item ++
        (writeItems style (level + 1) items ++ (style.lineStart level ++ ']' :: rest)), later⟩ := by
  obtain ⟨c, others, later, found, begins, skipped⟩ := skipSpace_value style (level + 1)
    (writeItems style (level + 1) items ++ (style.lineStart level ++ ']' :: rest)) (position + 1)
    (isSpace_lineStart style (level + 1)) item
  have text : write style level (.arr (item :: items)) ++ rest =
      '[' :: (style.lineStart (level + 1) ++ (write style (level + 1) item ++
        (writeItems style (level + 1) items ++ (style.lineStart level ++ ']' :: rest)))) := by
    simp [write]
  have notEmpty : ∀ tail, c :: others ≠ ']' :: tail := by
    intro tail same
    exact begins.ne rfl (by decide) (List.cons.inj same).1
  refine ⟨later, ?_⟩
  rw [text]
  simp only [readValue, Cursor.advance, List.drop_succ_cons, List.drop_zero, skipped]
  split
  · rename_i same
    rw [found] at same
    exact absurd same (notEmpty _)
  · rfl

/-- White space before a written string is stepped over. -/
theorem skipSpace_string (style : Style) (position : Nat) {spaces : List Char}
    (allSpaces : ∀ c ∈ spaces, Cursor.isSpace c = true) (text : String) (rest : List Char) :
    ∃ later, Cursor.skipSpace ⟨spaces ++ (writeString style.asciiOnly text ++ rest), position⟩ =
      ⟨writeString style.asciiOnly text ++ rest, later⟩ := by
  refine skipSpace_spaces _ position allSpaces ?_
  intro c head
  cases head
  rfl

/-- An object with a member is read by reading its members. -/
theorem readValue_object (fuel position : Nat) (rest : List Char) (name : String) (value : Json)
    (members : List (String × Json)) : ∃ later,
    readValue (fuel + 1) ⟨write style level (.obj ((name, value) :: members)) ++ rest, position⟩ =
      readMembers fuel [] ⟨writeString style.asciiOnly name ++
        (':' :: ' ' :: (write style (level + 1) value ++ (writeMembers style (level + 1) members ++
          (style.lineStart level ++ '}' :: rest)))), later⟩ := by
  obtain ⟨later, skipped⟩ := skipSpace_string style (position + 1)
    (isSpace_lineStart style (level + 1)) name
    (':' :: ' ' :: (write style (level + 1) value ++ (writeMembers style (level + 1) members ++
      (style.lineStart level ++ '}' :: rest))))
  have text : write style level (.obj ((name, value) :: members)) ++ rest =
      '{' :: (style.lineStart (level + 1) ++ (writeString style.asciiOnly name ++
        (':' :: ' ' :: (write style (level + 1) value ++ (writeMembers style (level + 1) members ++
          (style.lineStart level ++ '}' :: rest)))))) := by
    simp [write]
  refine ⟨later, ?_⟩
  rw [text]
  simp only [readValue, Cursor.advance, List.drop_succ_cons, List.drop_zero, skipped]
  split
  · rename_i same
    cases same
  · rfl

/-- The name of a member is read up to its value. -/
theorem reads_name (position : Nat) (rest : List Char) {fuel : Nat} {name : String} {value : Json}
    (enough : 2 * ((writeString style.asciiOnly name).length + (write style level value).length) ≤ fuel) :
    ∃ inside after later, writeString style.asciiOnly name ++
        (':' :: ' ' :: (write style level value ++ rest)) = '"' :: inside ∧
      readString position fuel [] ⟨inside, position + 1⟩ =
        .ok (name, ⟨':' :: ' ' :: (write style level value ++ rest), after⟩) ∧
      Cursor.skipSpace ⟨' ' :: (write style level value ++ rest), after + 1⟩ =
        ⟨write style level value ++ rest, later⟩ := by
  have long := length_le_writeString style.asciiOnly name
  obtain ⟨inside, written, read⟩ := readString_writeString style.asciiOnly position
    (':' :: ' ' :: (write style level value ++ rest)) (by omega : name.length < fuel)
  obtain ⟨c, others, later, found, begins, skipped⟩ := skipSpace_value style level rest
    (position + (writeString style.asciiOnly name).length + 1)
    (List.forall_mem_singleton.mpr rfl : ∀ c ∈ [' '], Cursor.isSpace c = true) value
  exact ⟨inside, _, later, written, read, skipped⟩

/-- How the members of an object go on after the value behind a name was read, as the mark behind it says. -/
def readMembersAfter (fuel : Nat) (done : List (String × Json)) (name : String) : Reading Json -> Reading Json
  | .error fault => .error fault
  | .ok (value, after) =>
    match after.skipSpace.rest with
    | '}' :: _ => .ok (.obj (mergeMembers ((name, value) :: done).reverse), after.skipSpace.advance 1)
    | ',' :: _ => readMembers fuel ((name, value) :: done) (after.skipSpace.advance 1).skipSpace
    | _ => .error (after.skipSpace.fault .expectingComma)

/-- To read a member is to read its value behind its name and to go on from there. -/
theorem readMembers_value (others : List Char) (position : Nat) {fuel : Nat} (name : String) {value : Json}
    (done : List (String × Json))
    (enough : 2 * ((writeString style.asciiOnly name).length + (write style level value).length) ≤ fuel) :
    ∃ later, readMembers (fuel + 1) done ⟨writeString style.asciiOnly name ++
        (':' :: ' ' :: (write style level value ++ others)), position⟩ =
      readMembersAfter fuel done name (readValue fuel ⟨write style level value ++ others, later⟩) := by
  obtain ⟨inside, after, later, written, readName, skipped⟩ := reads_name position others enough
  have colon : Cursor.skipSpace ⟨':' :: ' ' :: (write style level value ++ others), after⟩ =
      ⟨':' :: ' ' :: (write style level value ++ others), after⟩ := rfl
  refine ⟨later, ?_⟩
  rw [readMembers, written]
  simp only [readName, colon, Cursor.advance, List.drop_succ_cons, List.drop_zero, skipped]
  rfl

/-- A member whose value cannot be read cannot be read for the same fault. -/
theorem readMembers_fault (position : Nat) {fuel : Nat} (name : String) {value : Json}
    (done : List (String × Json))
    (enough : 2 * ((writeString style.asciiOnly name).length + (write style level value).length) ≤ fuel)
    {fails : Fault -> Prop}
    (faulty : ∀ position, ∃ fault, fails fault ∧
      readValue fuel ⟨write style level value ++ rest, position⟩ = .error fault) :
    ∃ fault, fails fault ∧ readMembers (fuel + 1) done ⟨writeString style.asciiOnly name ++
      (':' :: ' ' :: (write style level value ++ rest)), position⟩ = .error fault := by
  obtain ⟨later, reading⟩ := readMembers_value rest position name done enough
  obtain ⟨fault, isFault, refused⟩ := faulty later
  exact ⟨fault, isFault, by rw [reading, refused, readMembersAfter]⟩

/-- After the last member that is read the object is there. -/
theorem readMembers_last (position : Nat) {fuel closing : Nat} (name : String) {value : Json}
    (done : List (String × Json))
    (enough : 2 * ((writeString style.asciiOnly name).length + (write style level value).length) ≤ fuel)
    (reads : ∀ position, Reaches (readValue fuel ⟨write style level value ++
      (style.lineStart closing ++ '}' :: rest), position⟩) value (style.lineStart closing ++ '}' :: rest)) :
    Reaches (readMembers (fuel + 1) done ⟨writeString style.asciiOnly name ++
      (':' :: ' ' :: (write style level value ++ (style.lineStart closing ++ '}' :: rest))), position⟩)
      (.obj (mergeMembers ((name, value) :: done).reverse)) rest := by
  obtain ⟨later, reading⟩ := readMembers_value (style.lineStart closing ++ '}' :: rest) position name done enough
  obtain ⟨final, read⟩ := reads later
  obtain ⟨last, ended⟩ := skipSpace_mark rest final (isSpace_lineStart style closing) '}' rfl
  refine ⟨last + 1, ?_⟩
  rw [reading, read]
  simp only [readMembersAfter, ended, Cursor.advance, List.drop_succ_cons, List.drop_zero]

/-- After a member that is read the next one is read. -/
theorem readMembers_onward (position : Nat) {fuel : Nat} (name nextName : String) {value : Json}
    (done : List (String × Json))
    (enough : 2 * ((writeString style.asciiOnly name).length + (write style level value).length) ≤ fuel)
    {others : List Char} (further : List Char)
    (isNext : others = style.separator level ++ (writeString style.asciiOnly nextName ++ further))
    (reads : ∀ position, Reaches (readValue fuel ⟨write style level value ++ others, position⟩) value others) :
    ∃ later, readMembers (fuel + 1) done ⟨writeString style.asciiOnly name ++
        (':' :: ' ' :: (write style level value ++ others)), position⟩ =
      readMembers fuel ((name, value) :: done) ⟨writeString style.asciiOnly nextName ++ further, later⟩ := by
  obtain ⟨later, reading⟩ := readMembers_value others position name done enough
  obtain ⟨final, read⟩ := reads later
  obtain ⟨spaces, separator, allSpaces⟩ := separator_eq style level
  obtain ⟨last, stepped⟩ := skipSpace_string style (final + 1) allSpaces nextName further
  have comma (tail : List Char) (position : Nat) :
      Cursor.skipSpace ⟨',' :: tail, position⟩ = ⟨',' :: tail, position⟩ := rfl
  have text : others = ',' :: (spaces ++ (writeString style.asciiOnly nextName ++ further)) := by
    rw [isNext, separator, List.cons_append]
  refine ⟨last, ?_⟩
  rw [reading, read]
  simp only [readMembersAfter, text, comma, Cursor.advance, List.drop_succ_cons, List.drop_zero, stepped]

/-- After the last item that is read the array is there. -/
theorem readItems_last {fuel closing : Nat} {item : Json} (done : List Json)
    (reads : Reaches (readValue fuel ⟨write style level item ++ (style.lineStart closing ++ ']' :: rest), position⟩)
      item (style.lineStart closing ++ ']' :: rest)) :
    Reaches (readItems (fuel + 1) done ⟨write style level item ++ (style.lineStart closing ++ ']' :: rest), position⟩)
      (.arr (item :: done).reverse) rest := by
  obtain ⟨after, read⟩ := reads
  obtain ⟨later, skipped⟩ := skipSpace_mark rest after (isSpace_lineStart style closing) ']' rfl
  refine ⟨later + 1, ?_⟩
  rw [readItems, read]
  simp only [skipped, Cursor.advance, List.drop_succ_cons, List.drop_zero]

/-- After an item that is read the next one is read. -/
theorem readItems_onward {fuel : Nat} {item : Json} (next : Json) (done : List Json)
    {others : List Char} (further : List Char)
    (isNext : others = style.separator level ++ (write style level next ++ further))
    (reads : Reaches (readValue fuel ⟨write style level item ++ others, position⟩) item others) :
    ∃ later, readItems (fuel + 1) done ⟨write style level item ++ others, position⟩ =
      readItems fuel (item :: done) ⟨write style level next ++ further, later⟩ := by
  obtain ⟨after, read⟩ := reads
  obtain ⟨spaces, separator, allSpaces⟩ := separator_eq style level
  obtain ⟨-, -, later, -, -, skipped⟩ := skipSpace_value style level further (after + 1) allSpaces next
  have comma (tail : List Char) (position : Nat) :
      Cursor.skipSpace ⟨',' :: tail, position⟩ = ⟨',' :: tail, position⟩ := rfl
  have text : others = ',' :: (spaces ++ (write style level next ++ further)) := by
    rw [isNext, separator, List.cons_append]
  refine ⟨later, ?_⟩
  rw [readItems, read]
  simp only [text, comma, Cursor.advance, List.drop_succ_cons, List.drop_zero, skipped]

mutual

/-- A written value is read back. -/
theorem reaches_value {style : Style} {level fuel position : Nat} {rest : List Char} :
    (value : Json) -> Sound value -> integersFit value = true -> StopsNumber rest ->
      2 * (write style level value).length ≤ fuel ->
      Reaches (readValue fuel ⟨write style level value ++ rest, position⟩) value rest
  | .null => by
    intro _ _ _ enough
    obtain ⟨fuel, rfl⟩ : ∃ left, fuel = left + 1 := ⟨fuel - 1, by simp [write] at enough; omega⟩
    rw [write]
    exact reaches_word rfl rfl (by decide) (by decide) (by decide) (by decide)
  | .bool value => by
    intro _ _ _ enough
    obtain ⟨fuel, rfl⟩ : ∃ left, fuel = left + 1 :=
      ⟨fuel - 1, by cases value <;> simp [write] at enough <;> omega⟩
    rw [write]
    cases value <;> exact reaches_word rfl rfl (by decide) (by decide) (by decide) (by decide)
  | .int value => by
    intro _ fits stops enough
    have starts := startsNumber_intText value
    obtain ⟨fuel, rfl⟩ : ∃ left, fuel = left + 1 := by
      obtain ⟨c, others, found, -⟩ := starts.begins
      rw [write, found, List.length_cons] at enough
      exact ⟨fuel - 1, by omega⟩
    rw [integersFit] at fits
    rw [write]
    exact reaches_number starts (reaches_readNumber_int fits stops)
  | .float value => by
    intro sound _ stops enough
    have canonical : value.IsCanonical := by simpa [Sound] using sound
    obtain ⟨fuel, rfl⟩ : ∃ left, fuel = left + 1 := by
      obtain ⟨c, others, found, -⟩ := write_begins style level (.float value)
      rw [found, List.length_cons] at enough
      exact ⟨fuel - 1, by omega⟩
    rw [write]
    cases value with
    | nan => exact reaches_word rfl rfl (by decide) (by decide) (by decide) (by decide)
    | infinite negative =>
      cases negative <;> exact reaches_word rfl rfl (by decide) (by decide) (by decide) (by decide)
    | finite negative significand exponent =>
      exact reaches_number (startsNumber_finite negative significand exponent)
        (reaches_readNumber_finite canonical stops)
  | .str value => by
    intro _ _ _ enough
    rw [write] at enough ⊢
    exact reaches_string enough
  | .arr [] => by
    intro _ _ _ enough
    obtain ⟨fuel, rfl⟩ : ∃ left, fuel = left + 1 := ⟨fuel - 1, by simp [write] at enough; omega⟩
    exact ⟨_, rfl⟩
  | .arr (item :: items) => by
    intro sound fits stops enough
    obtain ⟨fuel, rfl⟩ : ∃ left, fuel = left + 1 := ⟨fuel - 1, by simp [write] at enough; omega⟩
    rw [Sound, SoundItems] at sound
    rw [integersFit, itemIntegersFit, Bool.and_eq_true] at fits
    obtain ⟨later, isReading⟩ := readValue_array fuel position rest item items
    rw [isReading]
    refine reaches_items items item [] sound.1 sound.2 fits.2 ?_ fun {_ _ _} stops enough =>
      reaches_value item sound.1 fits.1 stops enough
    simp only [write, List.length_cons, List.length_append, List.length_nil] at enough
    omega
  | .obj [] => by
    intro _ _ _ enough
    obtain ⟨fuel, rfl⟩ : ∃ left, fuel = left + 1 := ⟨fuel - 1, by simp [write] at enough; omega⟩
    exact ⟨_, rfl⟩
  | .obj ((name, value) :: members) => by
    intro sound fits stops enough
    obtain ⟨fuel, rfl⟩ : ∃ left, fuel = left + 1 := ⟨fuel - 1, by simp [write] at enough; omega⟩
    rw [Sound, SoundMembers] at sound
    obtain ⟨distinct, sound, soundMembers⟩ := sound
    rw [integersFit, memberIntegersFit, Bool.and_eq_true] at fits
    obtain ⟨later, isReading⟩ := readValue_object fuel position rest name value members
    rw [isReading]
    have read := @reaches_members style (level + 1) level fuel later rest members name value []
      sound soundMembers
      fits.2 (by
        simp only [write, List.length_cons, List.length_append, List.length_nil] at enough
        omega) fun {_ _ _} stops enough => reaches_value value sound fits.1 stops enough
    rwa [List.reverse_nil, List.nil_append, mergeMembers_of_nodup distinct] at read

/-- Written items are read back up to the end of their array. -/
theorem reaches_items {style : Style} {level closing fuel position : Nat} {rest : List Char} :
    (items : List Json) -> (item : Json) -> (done : List Json) -> Sound item -> SoundItems items ->
      itemIntegersFit items = true ->
      2 * ((write style level item).length + (writeItems style level items).length) + 1 ≤ fuel ->
      (∀ {fuel position : Nat} {rest : List Char}, StopsNumber rest ->
        2 * (write style level item).length ≤ fuel ->
        Reaches (readValue fuel ⟨write style level item ++ rest, position⟩) item rest) ->
      Reaches (readItems fuel done ⟨write style level item ++ (writeItems style level items ++
        (style.lineStart closing ++ ']' :: rest)), position⟩) (.arr (done.reverse ++ item :: items)) rest
  | [] => by
    intro item done _ _ _ enough reads
    obtain ⟨fuel, rfl⟩ : ∃ left, fuel = left + 1 := ⟨fuel - 1, by omega⟩
    have read := readItems_last done (@reads fuel position _ (stopsNumber_items style level rest [] closing) (by omega))
    rwa [List.reverse_cons] at read
  | next :: items => by
    intro item done _ soundItems fits enough reads
    obtain ⟨fuel, rfl⟩ : ∃ left, fuel = left + 1 := ⟨fuel - 1, by omega⟩
    rw [SoundItems] at soundItems
    rw [itemIntegersFit, Bool.and_eq_true] at fits
    obtain ⟨later, isReading⟩ := readItems_onward next done
      (writeItems style level items ++ (style.lineStart closing ++ ']' :: rest)) (by simp [writeItems])
      (@reads fuel position _ (stopsNumber_items style level rest (next :: items) closing) (by omega))
    rw [isReading]
    have read := @reaches_items style level closing fuel later rest items next (item :: done)
      soundItems.1 soundItems.2 fits.2 (by
        obtain ⟨spaces, separator, -⟩ := separator_eq style level
        rw [writeItems, separator] at enough
        simp only [List.length_cons, List.length_append] at enough
        omega)
      fun {_ _ _} stops enough => reaches_value next soundItems.1 fits.1 stops enough
    rwa [List.reverse_cons, List.append_assoc] at read

/-- Written members are read back up to the end of their object. -/
theorem reaches_members {style : Style} {level closing fuel position : Nat} {rest : List Char} :
    (members : List (String × Json)) -> (name : String) -> (value : Json) ->
      (done : List (String × Json)) -> Sound value -> SoundMembers members ->
      memberIntegersFit members = true ->
      2 * ((writeString style.asciiOnly name).length + (write style level value).length +
        (writeMembers style level members).length) + 1 ≤ fuel ->
      (∀ {fuel position : Nat} {rest : List Char}, StopsNumber rest ->
        2 * (write style level value).length ≤ fuel ->
        Reaches (readValue fuel ⟨write style level value ++ rest, position⟩) value rest) ->
      Reaches (readMembers fuel done ⟨writeString style.asciiOnly name ++
        (':' :: ' ' :: (write style level value ++ (writeMembers style level members ++
          (style.lineStart closing ++ '}' :: rest)))), position⟩)
        (.obj (mergeMembers (done.reverse ++ (name, value) :: members))) rest
  | [] => by
    intro name value done sound _ _ enough reads
    obtain ⟨fuel, rfl⟩ : ∃ left, fuel = left + 1 := ⟨fuel - 1, by omega⟩
    have read := readMembers_last position name done (by omega) fun position =>
      @reads fuel position _ (stopsNumber_members style level rest [] closing) (by omega)
    rwa [List.reverse_cons] at read
  | (nextName, next) :: members => by
    intro name value done sound soundMembers fits enough reads
    obtain ⟨fuel, rfl⟩ : ∃ left, fuel = left + 1 := ⟨fuel - 1, by omega⟩
    rw [SoundMembers] at soundMembers
    rw [memberIntegersFit, Bool.and_eq_true] at fits
    obtain ⟨later, isReading⟩ := readMembers_onward position name nextName done (by omega)
      (':' :: ' ' :: (write style level next ++ (writeMembers style level members ++
        (style.lineStart closing ++ '}' :: rest)))) (by simp [writeMembers])
      fun position => @reads fuel position _
        (stopsNumber_members style level rest ((nextName, next) :: members) closing) (by omega)
    rw [isReading]
    have read := @reaches_members style level closing fuel later rest members nextName
      next ((name, value) :: done) soundMembers.1 soundMembers.2 fits.2 (by
        obtain ⟨spaces, separator, -⟩ := separator_eq style level
        rw [writeMembers, separator] at enough
        simp only [List.length_cons, List.length_append, List.length_nil] at enough
        omega)
      fun {_ _ _} stops enough => reaches_value next soundMembers.1 fits.1 stops enough
    rwa [List.reverse_cons, List.append_assoc] at read

end

/-- The text of a value begins neither with a mark of its encoding nor with white space. -/
theorem start_write (style : Style) (value : Json) :
    (write style 0 value).head? ≠ some '\ufeff' ∧
      ∃ later, (Cursor.start (write style 0 value)).skipSpace = ⟨write style 0 value, later⟩ := by
  obtain ⟨c, others, later, found, begins, skipped⟩ := skipSpace_value style 0 [] 0
    (by simp : ∀ c ∈ [], Cursor.isSpace c = true) value
  rw [List.append_nil] at found skipped
  refine ⟨?_, later, skipped⟩
  rw [found]
  simpa using begins.ne rfl (by decide)

/-- The text of a sound value reads back as the value, unless one of its integers is too long. -/
theorem readAll_write {style : Style} {value : Json} (sound : value.Sound)
    (fits : value.integersFit = true) : readAll (write style 0 value) = .ok value := by
  obtain ⟨noMark, later, skipped⟩ := start_write style value
  obtain ⟨final, read⟩ := @reaches_value style 0 (2 * (write style 0 value).length + 2) later [] value
    sound fits stopsNumber_nil (by omega)
  rw [List.append_nil] at read
  rw [readAll, if_neg noMark, skipped, read]
  rfl

end RepoSurvey.Json

import RepoSurvey.Proofs.Json.RoundTrip
import RepoSurvey.Reply.Extraction

/-!
# The object inside a reply is the one that was written

`parseObject_text` says that the text of an object, in whatever style, is found and read back inside a
reply, as long as no opening brace stands before it and no closing one after it. What its strings hold makes
no difference: braces are not balanced, so those inside the text are never looked at.
-/

namespace RepoSurvey

namespace Json

variable {style : Style} {level : Nat}

/-- The text of an object begins with the opening and ends with the closing brace. -/
theorem write_obj_braced (style : Style) (level : Nat) (members : List (String × Json)) :
    ∃ inside, write style level (.obj members) = '{' :: (inside ++ ['}']) := by
  cases members with
  | nil => exact ⟨[], by rw [write, List.nil_append]⟩
  | cons member members =>
    obtain ⟨name, value⟩ := member
    exact ⟨_, by rw [write]⟩

/-- An integer with no more digits than the limit fits. -/
theorem integerFits_of_lt {value : Int} (digits : Nat) (few : digits ≤ writtenDigitLimit)
    (small : value.natAbs < 10 ^ digits) : integerFits value = true :=
  decide_eq_true (small.trans_le (Nat.pow_le_pow_right (by decide) few))

end Json

namespace Reply

/-- Dropping up to a mark ends at its first occurrence. -/
theorem dropWhile_upTo {mark : Char} {before : List Char} (rest : List Char) (absent : mark ∉ before) :
    (before ++ mark :: rest).dropWhile (· != mark) = mark :: rest := by
  have passed : ∀ c ∈ before, (c != mark) = true := by
    intro c member
    rw [bne_iff_ne]
    rintro rfl
    exact absent member
  rw [List.dropWhile_append_of_pos passed, List.dropWhile_cons_of_neg (by simp)]

/-- Of a text in braces, the part before it without opening braces and the part after it without closing
ones are left out. -/
theorem bracedPart?_between {before after : List Char} (inside : List Char)
    (noOpening : '{' ∉ before) (noClosing : '}' ∉ after) :
    bracedPart? (before ++ '{' :: (inside ++ '}' :: after)) = some ('{' :: (inside ++ ['}'])) := by
  have turned : ('{' :: (inside ++ '}' :: after)).reverse =
      after.reverse ++ '}' :: (inside.reverse ++ ['{']) := by
    simp
  have closed := dropWhile_upTo (inside.reverse ++ ['{']) (mt List.mem_reverse.mp noClosing)
  rw [bracedPart?, dropWhile_upTo _ noOpening, turned, closed]
  simp

/-- The text of an object is the braced part of every reply around it. -/
theorem bracedPart?_write (style : Json.Style) (members : List (String × Json)) {before after : List Char}
    (noOpening : '{' ∉ before) (noClosing : '}' ∉ after) :
    bracedPart? (before ++ Json.write style 0 (.obj members) ++ after) =
      some (Json.write style 0 (.obj members)) := by
  obtain ⟨inside, written⟩ := Json.write_obj_braced style 0 members
  have found := bracedPart?_between inside noOpening noClosing
  rw [written, ← found]
  simp

/-- An object written in any style is read back from every reply around its text that has no opening brace
before the text and no closing brace after it. -/
theorem parseObject_text (style : Json.Style) {members : List (String × Json)} {before after : String}
    (sound : (Json.obj members).Sound) (fits : (Json.obj members).integersFit = true)
    (noOpening : '{' ∉ before.toList) (noClosing : '}' ∉ after.toList) :
    parseObject (before ++ Json.text style (.obj members) ++ after) = .ok (.obj members) := by
  have part : bracedPart? (before ++ Json.text style (.obj members) ++ after).toList =
      some (Json.write style 0 (.obj members)) := by
    rw [String.toList_append, String.toList_append, Json.text, String.toList_ofList]
    exact bracedPart?_write style members noOpening noClosing
  rw [parseObject, part]
  dsimp only
  rw [Json.readAll_write sound fits]

/-- Members whose texts look like the marks around them: braces, quotes, a backslash, a fence, a control
character and characters beyond sixteen bits. -/
def awkwardMembers : List (String × Json) :=
  [("\x7b\"\\", .str "```json\n\x7d\x01\x7b```"), ("𝄞é", .arr [.null, .bool true, .int (-120), .obj []]),
    ("", .obj [("\x7d", .arr [])])]

/-- Between fences, the awkward members are read back from their text with escapes. -/
theorem awkwardMembers_readable :
    (Json.obj awkwardMembers).Sound ∧ (Json.obj awkwardMembers).integersFit = true ∧
      '{' ∉ "Here \x7d: ```json\n".toList ∧ '}' ∉ "\n``` \"\x7b".toList ∧
      parseObject ("Here \x7d: ```json\n" ++ Json.text .ascii (.obj awkwardMembers) ++ "\n``` \"\x7b") =
        .ok (.obj awkwardMembers) := by
  have sound : (Json.obj awkwardMembers).Sound := by
    simp [awkwardMembers, Json.Sound, Json.SoundMembers, Json.SoundItems]
  have fits : (Json.obj awkwardMembers).integersFit = true := by
    have small : Json.integerFits (-120) = true := Json.integerFits_of_lt 3 (by decide) (by decide)
    simp [awkwardMembers, Json.integersFit, Json.memberIntegersFit, Json.itemIntegersFit, small]
  exact ⟨sound, fits, by decide, by decide, parseObject_text .ascii sound fits (by decide) (by decide)⟩

end Reply

end RepoSurvey

import Mathlib.Data.List.Infix
import Mathlib.Data.String.Basic

/-!
# Texts parted at a mark

A text is cut where a mark of two characters stands for the first time, and parted wherever it stands from there on.
What is between the marks holds no mark itself (`notMem_parts`), and pieces that hold none are found again when they are
joined by it (`parts_intercalate`), unless a piece ends in the first character of the mark.

A text that is divided at a single character has the parts of its list of characters: `splitOn_mark`. So what is known
of lists that are divided holds of paths and addresses too.
-/

namespace RepoSurvey.Text

/-! ## Texts in texts -/

section Infixes

variable {part text other : List Char}

/-- A text that has no character in common with the end of another one stands in it only before that end. -/
theorem infix_append_iff_left (apart : ∀ c ∈ part, c ∉ other) : part <:+: text ++ other ↔ part <:+: text := by
  refine ⟨fun found => ?_, fun found => found.trans (List.prefix_append text other).isInfix⟩
  rcases List.infix_append_iff.mp found with inText | inOther | ⟨start, rest, rfl, ends, begins⟩
  · exact inText
  · cases part with
    | nil => exact List.nil_infix
    | cons c part => exact absurd (inOther.subset (.head _)) (apart c (.head _))
  · cases rest with
    | nil =>
      rw [List.append_nil]
      exact ends.isInfix
    | cons c rest => exact absurd (begins.subset (.head _)) (apart c (List.mem_append_right _ (.head _)))

/-- A text that has no character in common with the start of another one stands in it only behind that start. -/
theorem infix_append_iff_right (apart : ∀ c ∈ part, c ∉ other) : part <:+: other ++ text ↔ part <:+: text := by
  refine ⟨fun found => ?_, fun found => found.trans (List.suffix_append other text).isInfix⟩
  rcases List.infix_append_iff.mp found with inOther | inText | ⟨start, rest, rfl, ends, begins⟩
  · cases part with
    | nil => exact List.nil_infix
    | cons c part => exact absurd (inOther.subset (.head _)) (apart c (.head _))
  · exact inText
  · cases start with
    | nil => exact begins.isInfix
    | cons c start => exact absurd (ends.subset (.head _)) (apart c (.head _))

end Infixes

/-! ## Marks -/

/-- A mark of two characters. -/
structure Mark where
  first : Char
  second : Char

namespace Mark

variable {mark : Mark} {text before after : List Char}

/-- The characters of a mark. -/
def chars (mark : Mark) : List Char := [mark.first, mark.second]

/-- Cut a text where a mark stands for the first time. -/
def cut? (mark : Mark) : List Char -> Option (List Char × List Char)
  | c :: d :: rest =>
    if c = mark.first ∧ d = mark.second then some ([], rest)
    else (cut? mark (d :: rest)).map fun parts => (c :: parts.1, parts.2)
  | _ => none

/-- A mark stands at the start of a text or behind its first character. -/
theorem chars_infix_cons {c d : Char} {rest : List Char} : mark.chars <:+: c :: d :: rest ↔
    (c = mark.first ∧ d = mark.second) ∨ mark.chars <:+: d :: rest := by
  rw [List.infix_cons_iff]
  refine or_congr_left ?_
  simp [chars, List.cons_prefix_cons, eq_comm]

/-- One more character makes a mark behind the first one of it only. -/
theorem chars_infix_concat {c : Char} : mark.chars <:+: text ++ [c] ↔
    mark.chars <:+: text ∨ (c = mark.second ∧ [mark.first] <:+ text) := by
  rw [List.infix_concat_iff, List.suffix_concat_iff, or_comm]
  refine or_congr_right ?_
  constructor
  · rintro (none | ⟨start, isMark, ends⟩)
    · nomatch none
    · have parted : [mark.first] ++ [mark.second] = start ++ [c] := isMark
      obtain ⟨rfl, isSecond⟩ := List.append_inj' parted rfl
      exact ⟨(List.cons.inj isSecond).1.symm, ends⟩
  · rintro ⟨rfl, ends⟩
    exact .inr ⟨[mark.first], rfl, ends⟩

/-- A text is not cut when the mark does not stand in it. -/
theorem cut?_eq_none_iff : mark.cut? text = none ↔ ¬ mark.chars <:+: text := by
  fun_induction cut? mark text with
  | case1 c d rest isMark => simp [chars_infix_cons, isMark]
  | case2 c d rest notMark inductionHypothesis =>
    rw [Option.map_eq_none_iff, inductionHypothesis, chars_infix_cons, or_iff_right notMark]
  | case3 text short =>
    refine iff_of_true rfl fun found => ?_
    have long := found.length_le
    rcases text with - | ⟨c, - | ⟨d, rest⟩⟩
    · nomatch long
    · exact absurd long (by simp [chars])
    · exact short c d rest rfl

/-- A text is cut in two with the mark between them, which does not stand before. -/
theorem of_cut?_eq_some (isCut : mark.cut? text = some (before, after)) :
    text = before ++ mark.chars ++ after ∧ ¬ mark.chars <:+: before := by
  fun_induction cut? mark text generalizing before with
  | case1 c d rest isMark =>
    obtain ⟨rfl, rfl⟩ := isMark
    obtain ⟨rfl, rfl⟩ := Prod.mk.inj (Option.some.inj isCut)
    exact ⟨rfl, fun found => nomatch found.length_le⟩
  | case2 c d rest notMark inductionHypothesis =>
    obtain ⟨⟨start, after⟩, isCutThere, isPair⟩ := Option.map_eq_some_iff.mp isCut
    obtain ⟨rfl, rfl⟩ := Prod.mk.inj isPair
    obtain ⟨isText, absent⟩ := inductionHypothesis isCutThere
    refine ⟨by rw [isText]; rfl, fun found => ?_⟩
    cases start with
    | nil => exact absurd found.length_le (by simp [chars])
    | cons e start =>
      obtain rfl : d = e := (List.cons.inj isText).1
      exact (chars_infix_cons.mp found).elim notMark absent
  | case3 text short => nomatch isCut

/-- A text is cut at a mark that does not stand before, not even with its first character there. -/
theorem cut?_append (absent : ¬ mark.chars <:+: before ++ [mark.first]) :
    mark.cut? (before ++ mark.chars ++ after) = some (before, after) := by
  induction before with
  | nil => simp [cut?, chars]
  | cons c before inductionHypothesis =>
    obtain ⟨d, rest, isRest⟩ := List.exists_cons_of_ne_nil (List.concat_ne_nil mark.first before)
    have isTail : before ++ mark.chars ++ after = d :: (rest ++ mark.second :: after) := by
      rw [← List.cons_append, ← isRest]
      simp [chars]
    rw [List.cons_append, isRest, chars_infix_cons, not_or, ← isRest] at absent
    rw [List.cons_append, List.cons_append, isTail, cut?, if_neg absent.1, ← isTail, inductionHypothesis absent.2]
    rfl

/-! ## Parts -/

/-- The parts of a text between marks. -/
def parts (mark : Mark) (text : List Char) : List (List Char) :=
  match _ : mark.cut? text with
  | none => [text]
  | some (before, after) => before :: parts mark after
termination_by text.length
decreasing_by
  next isCut =>
    rw [(of_cut?_eq_some isCut).1]
    simp [chars]
    omega

/-- A text that is not cut is a single part. -/
theorem parts_of_absent (absent : ¬ mark.chars <:+: text) : mark.parts text = [text] := by
  rw [parts]
  split
  · rfl
  · next isCut => nomatch (cut?_eq_none_iff.mpr absent).symm.trans isCut

/-- The first part of a text that is cut is what is before the mark. -/
theorem parts_of_cut (isCut : mark.cut? text = some (before, after)) : mark.parts text = before :: mark.parts after := by
  rw [parts]
  split
  · next notCut => nomatch notCut.symm.trans isCut
  · next found =>
    obtain ⟨rfl, rfl⟩ := Prod.mk.inj (Option.some.inj (found.symm.trans isCut))
    rfl

/-- A text has at least one part. -/
theorem parts_ne_nil (mark : Mark) (text : List Char) : mark.parts text ≠ [] := by
  rw [parts]
  split <;> exact List.cons_ne_nil _ _

/-- A text is its parts joined by the mark. -/
theorem intercalate_parts (mark : Mark) (text : List Char) : mark.chars.intercalate (mark.parts text) = text := by
  fun_induction parts mark text with
  | case1 text notCut => simp
  | case2 text before after isCut inductionHypothesis =>
    obtain ⟨isText, -⟩ := of_cut?_eq_some isCut
    obtain ⟨part, rest, isParts⟩ := List.exists_cons_of_ne_nil (parts_ne_nil mark after)
    rw [isParts] at inductionHypothesis ⊢
    rw [List.intercalate_cons_cons, inductionHypothesis, isText]

/-- The mark stands in no part of a text. -/
theorem notMem_parts {part : List Char} (isPart : part ∈ mark.parts text) : ¬ mark.chars <:+: part := by
  fun_induction parts mark text with
  | case1 text notCut =>
    obtain rfl := List.mem_singleton.mp isPart
    exact cut?_eq_none_iff.mp notCut
  | case2 text before after isCut inductionHypothesis =>
    rcases List.mem_cons.mp isPart with rfl | isLater
    · exact (of_cut?_eq_some isCut).2
    · exact inductionHypothesis isLater

/-- Pieces that hold no mark are the parts of what they are joined to by it. -/
theorem parts_intercalate {pieces : List (List Char)} (some : pieces ≠ [])
    (absent : ∀ piece ∈ pieces, ¬ mark.chars <:+: piece ++ [mark.first]) :
    mark.parts (mark.chars.intercalate pieces) = pieces := by
  induction pieces with
  | nil => exact absurd rfl some
  | cons piece pieces inductionHypothesis =>
    cases pieces with
    | nil =>
      rw [List.intercalate_singleton]
      refine parts_of_absent fun found => absent piece (.head _) ?_
      exact found.trans (List.prefix_append piece _).isInfix
    | cons next pieces =>
      rw [List.intercalate_cons_cons, parts_of_cut (cut?_append (absent piece (.head _))),
        inductionHypothesis (List.cons_ne_nil _ _) fun other member => absent other (.tail _ member)]

/-- Two neighbouring pieces are joined to the same as one that has the mark between them. -/
theorem intercalate_joined {piece next : List Char} (before after : List (List Char)) :
    mark.chars.intercalate (before ++ (piece ++ mark.chars ++ next) :: after) =
      mark.chars.intercalate (before ++ piece :: next :: after) := by
  induction before with
  | nil => cases after <;> simp
  | cons first before inductionHypothesis =>
    rw [List.cons_append, List.intercalate_cons_of_ne_nil (by simp), inductionHypothesis, List.cons_append,
      List.intercalate_cons_of_ne_nil (by simp)]

end Mark

/-! ## Marks of one character -/

section Splitting

open String.Pos (Raw)

/-- The text of a mark starts with it. -/
theorem get_mark (mark : Char) : Raw.get (String.ofList [mark]) 0 = mark := String.get_of_valid [] [mark]

/-- One step goes behind the mark. -/
theorem next_mark (mark : Char) : Raw.next (String.ofList [mark]) 0 = ⟨mark.utf8Size⟩ := by
  have behind := String.next_of_valid [] mark []
  rwa [String.utf8Len_nil, Nat.zero_add] at behind

/-- The text of a mark is at its end there. -/
theorem atEnd_next_mark (mark : Char) :
    Raw.atEnd (String.ofList [mark]) (Raw.next (String.ofList [mark]) 0) = true := by
  have atEnd := (String.atEnd_of_valid [mark] []).mpr rfl
  rwa [String.utf8Len_cons, String.utf8Len_nil, Nat.zero_add, List.append_nil, ← next_mark] at atEnd

/-- The search for the text of a mark is the search for a character. -/
theorem splitOnAux_mark (mark : Char) (text : String) (start place : Raw) (found : List String) :
    text.splitOnAux (String.ofList [mark]) start place 0 found = text.splitAux (· == mark) start place found := by
  induction start, place, found using String.splitAux.induct text (· == mark) with
  | case1 start place found atEnd => rw [String.splitOnAux, if_pos atEnd, String.splitAux, dif_pos atEnd]
  | case2 start place found notEnd _ isMark next inductionHypothesis =>
    -- The part that was found ends where the mark begins, one mark before the place behind it.
    have whole : (Raw.next text place).unoffsetBy (Raw.next (String.ofList [mark]) 0) = place := by
      rw [next_mark, Raw.next, beq_iff_eq.mp isMark]
      exact Raw.ext (Nat.add_sub_cancel ..)
    rw [String.splitOnAux, if_neg notEnd, get_mark, if_pos isMark, if_pos (atEnd_next_mark mark), whole,
      String.splitAux, dif_neg notEnd, if_pos isMark]
    exact inductionHypothesis
  | case3 start place found notEnd _ isOther inductionHypothesis =>
    rw [String.splitOnAux, if_neg notEnd, get_mark, if_neg isOther, String.splitAux, dif_neg notEnd, if_neg isOther]
    exact inductionHypothesis

/-- A text is divided at a mark as its characters are. -/
theorem splitOn_mark (mark : Char) (text : String) :
    text.splitOn (String.ofList [mark]) = (text.toList.splitOn mark).map String.ofList := by
  have isMark : ¬(String.ofList [mark] == "") = true := by simp
  rw [String.splitOn, if_neg isMark, splitOnAux_mark, List.splitOn_eq_splitOnP, ← String.splitToList_of_valid]
  rfl

/-- A text is divided at slashes as its characters are. -/
theorem splitOn_slash (text : String) : text.splitOn "/" = (text.toList.splitOn '/').map String.ofList :=
  splitOn_mark '/' text

end Splitting

end RepoSurvey.Text

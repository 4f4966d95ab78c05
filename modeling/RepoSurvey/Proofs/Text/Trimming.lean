import Mathlib.Data.List.TakeWhile
import RepoSurvey.Text.Blank

/-!
# Trimmed texts

A text is trimmed when no character at its ends satisfies a test. Trimming gives the one trimmed text that is left
when characters which satisfy the test are taken off both ends: `trimBy_eq_iff`.
-/

namespace RepoSurvey.Text

variable {test : Char -> Bool} {before core after chars : List Char}

/-- Whether the characters at the ends of a text fail a test. -/
structure IsTrimmed (test : Char -> Bool) (chars : List Char) : Prop where
  start : ∀ c ∈ chars.head?, test c = false
  stop : ∀ c ∈ chars.getLast?, test c = false

/-- The empty text is trimmed. -/
theorem isTrimmed_nil : IsTrimmed test [] := ⟨nofun, nofun⟩

/-- A trimmed text is trimmed by every stricter test. -/
theorem IsTrimmed.mono {stricter : Char -> Bool} (trimmed : IsTrimmed test chars)
    (weaker : ∀ c, test c = false -> stricter c = false) : IsTrimmed stricter chars :=
  ⟨fun c isHead => weaker c (trimmed.start c isHead), fun c isLast => weaker c (trimmed.stop c isLast)⟩

/-- Trimmed texts in a row are trimmed. -/
theorem IsTrimmed.append {left right : List Char} (leftTrimmed : IsTrimmed test left)
    (rightTrimmed : IsTrimmed test right) : IsTrimmed test (left ++ right) := by
  constructor
  · intro c isHead
    cases left with
    | nil => exact rightTrimmed.start c isHead
    | cons first rest => exact leftTrimmed.start c isHead
  · intro c isLast
    rw [List.getLast?_append] at isLast
    cases last : right.getLast? with
    | none => exact leftTrimmed.stop c (by simpa [last] using isLast)
    | some other => exact rightTrimmed.stop c (by simpa [last] using isLast)

/-- A text none of whose characters satisfies the test is trimmed. -/
theorem isTrimmed_of_forall (free : ∀ c ∈ chars, test c = false) : IsTrimmed test chars :=
  ⟨fun c isHead => free c (List.mem_of_mem_head? isHead), fun c isLast => free c (List.mem_of_getLast? isLast)⟩

/-- It can be computed that no character of a text satisfies the test. -/
theorem isTrimmed_of_all (free : (chars.all fun c => !test c) = true) : IsTrimmed test chars :=
  isTrimmed_of_forall fun c member => (Bool.not_eq_true' _).mp (List.all_eq_true.mp free c member)

/-- Taking off characters at the start leaves a text that starts otherwise. -/
theorem dropWhile_append_of_start (all : ∀ c ∈ before, test c = true) (start : ∀ c ∈ core.head?, test c = false) :
    (before ++ core).dropWhile test = core := by
  rw [List.dropWhile_append_of_pos all]
  cases core with
  | nil => rfl
  | cons c rest => exact List.dropWhile_cons_of_neg (by simp [start c rfl])

/-- Trimming leaves what stands between characters that satisfy the test. -/
theorem trimBy_padded (allBefore : ∀ c ∈ before, test c = true) (trimmed : IsTrimmed test core)
    (allAfter : ∀ c ∈ after, test c = true) : trimBy test (before ++ core ++ after) = core := by
  have ending : dropEnd test (core ++ after) = core := by
    unfold dropEnd
    rw [List.reverse_append, dropWhile_append_of_start (fun c member => allAfter c (List.mem_reverse.mp member)),
      List.reverse_reverse]
    intro c isHead
    rw [List.head?_reverse] at isHead
    exact trimmed.stop c isHead
  unfold trimBy dropStart
  cases core with
  | nil =>
    have all : ∀ c ∈ before ++ [] ++ after, test c = true := by
      simpa [or_imp, forall_and] using ⟨allBefore, allAfter⟩
    rw [List.dropWhile_eq_nil_iff.mpr all]
    rfl
  | cons first rest =>
    have starts : (before ++ (first :: rest ++ after)).dropWhile test = first :: rest ++ after :=
      dropWhile_append_of_start allBefore trimmed.start
    rw [List.append_assoc, starts, ending]

/-- Trimming takes characters that satisfy the test off both ends, and leaves a trimmed text. -/
theorem trimBy_spec (test : Char -> Bool) (chars : List Char) : IsTrimmed test (trimBy test chars) ∧
    ∃ before after, chars = before ++ trimBy test chars ++ after ∧ (∀ c ∈ before, test c = true) ∧
      ∀ c ∈ after, test c = true := by
  let rest := chars.dropWhile test
  have front : chars = chars.takeWhile test ++ rest := List.takeWhile_append_dropWhile.symm
  have back : rest = trimBy test chars ++ (rest.reverse.takeWhile test).reverse := by
    have parts := congrArg List.reverse (List.takeWhile_append_dropWhile (p := test) (l := rest.reverse))
    rw [List.reverse_append, List.reverse_reverse] at parts
    exact parts.symm
  constructor
  · constructor
    · intro c isHead
      have isFirst : c ∈ rest.head? := by
        rw [back]
        cases shape : trimBy test chars with
        | nil => rw [shape] at isHead; nomatch isHead
        | cons first others => rw [shape] at isHead; exact isHead
      have stopped := List.head?_dropWhile_not test chars
      rw [isFirst] at stopped
      simpa using stopped
    · intro c isLast
      have isFirst : (rest.reverse.dropWhile test).head? = some c := by
        rw [← List.getLast?_reverse]
        exact isLast
      have stopped := List.head?_dropWhile_not test rest.reverse
      rw [isFirst] at stopped
      simpa using stopped
  · refine ⟨chars.takeWhile test, (rest.reverse.takeWhile test).reverse, ?_, fun c member => ?_, fun c member => ?_⟩
    · rw [List.append_assoc, ← back]
      exact front
    · exact List.mem_takeWhile_imp member
    · exact List.mem_takeWhile_imp (List.mem_reverse.mp member)

/-- Trimming gives the trimmed text that is left when characters which satisfy the test are taken off the ends. -/
theorem trimBy_eq_iff : trimBy test chars = core ↔ IsTrimmed test core ∧ ∃ before after,
    chars = before ++ core ++ after ∧ (∀ c ∈ before, test c = true) ∧ ∀ c ∈ after, test c = true := by
  constructor
  · rintro rfl
    exact trimBy_spec test chars
  · rintro ⟨trimmed, before, after, rfl, allBefore, allAfter⟩
    exact trimBy_padded allBefore trimmed allAfter

/-- Just trimmed texts are left as they are. -/
theorem trimBy_eq_self_iff : trimBy test chars = chars ↔ IsTrimmed test chars := by
  constructor
  · intro same
    exact (trimBy_eq_iff.mp same).1
  · intro trimmed
    exact trimBy_eq_iff.mpr ⟨trimmed, [], [], by simp, by simp, by simp⟩

end RepoSurvey.Text

import Mathlib
import RepoSurvey.Proofs.Files.Walks
import RepoSurvey.Proofs.Number.Nearest
import RepoSurvey.Proofs.Text.Encoding
import RepoSurvey.Survey.Quality
import RepoSurvey.Text.Blank
import RepoSurvey.Text.Distinct
import RepoSurvey.Text.Utf8

/-!
# Measures of code

The measures of a checkout are those of the first source files that can be read on a walk over it, and three of them are
rounded forms of the mean complexity, the share of repeated lines and an index made from these (`quality_account`). As
exact rationals these lie between bounds that are narrower than the ones between which the index is kept. So do the
doubles that a program runs with, which are off by small errors alone, because fewer than `2 ^ 31` lines are read and
no file has too many branches to be counted exactly.

The texts of a list that occur before are as many as all texts less the distinct ones (`Text.repeats_add_card`), also
when they are told apart by digests of which no two are the same (`Text.repeats_map`). A text that is decoded from bytes
has no more characters than there were bytes, and its lines have no more characters than the text and are no more than
these.

Nothing is claimed about lines that may be unsafe and about the average number of lines. An index that is positive may
still be zero when it is rounded for publication.
-/

namespace RepoSurvey.Text

/-! ## Repeated texts -/

/-- Each text is counted once more for each time that it occurs. -/
theorem getElem?_foldl_insert (texts : List String) (counts : Std.HashMap String Nat) (text : String) :
    (texts.foldl (fun counts text => counts.insert text (counts.getD text 0 + 1)) counts)[text]? =
      if text ∈ texts then some (counts.getD text 0 + texts.count text) else counts[text]? := by
  induction texts generalizing counts with
  | nil => simp
  | cons first rest inductionHypothesis =>
    rw [List.foldl_cons, inductionHypothesis, Std.HashMap.getElem?_insert, Std.HashMap.getD_insert]
    by_cases same : first = text
    · subst same
      by_cases again : first ∈ rest
      · simp [again, Nat.add_assoc, Nat.add_comm 1]
      · simp [again, List.count_eq_zero.mpr again]
    · simp [same, Ne.symm same]

/-- The texts that are counted are those that occur, with the number of times that they do. -/
theorem perm_toList_occurrences (texts : List String) :
    (occurrences texts).toList.Perm (texts.dedup.map fun text => (text, texts.count text)) := by
  have distinct : (occurrences texts).toList.Nodup :=
    Std.HashMap.distinct_keys_toList.imp fun apart same => by simp [same] at apart
  have distinctTexts : (texts.dedup.map fun text => (text, texts.count text)).Nodup :=
    texts.nodup_dedup.map fun _ _ same => (Prod.mk.inj same).1
  refine (List.perm_ext_iff_of_nodup distinct distinctTexts).mpr fun (text, count) => ?_
  rw [Std.HashMap.mem_toList_iff_getElem?_eq_some, occurrences, getElem?_foldl_insert]
  by_cases occurs : text ∈ texts <;> simp [occurs]

/-- A text that occurs some times occurs one time less before. -/
theorem repeats_eq_sum (texts : List String) :
    repeats texts = (texts.dedup.map fun text => texts.count text - 1).sum := by
  have step (total : Nat) (entry : String × Nat) :
      (if 1 < entry.2 then total + (entry.2 - 1) else total) = total + (entry.2 - 1) := by
    split <;> omega
  calc repeats texts
      = (occurrences texts).toList.foldl (fun total entry => total + (entry.2 - 1)) 0 := by
        simp only [repeats, Std.HashMap.fold_eq_foldl_toList, step]
    _ = ((occurrences texts).toList.map fun entry => entry.2 - 1).sum := by
        rw [List.sum_eq_foldl, List.foldl_map]
    _ = (texts.dedup.map fun text => texts.count text - 1).sum := by
        rw [((perm_toList_occurrences texts).map _).sum_eq, List.map_map]
        rfl

/-- Each text either occurs before or is the first one of its kind. -/
theorem repeats_add_card (texts : List String) : repeats texts + texts.toFinset.card = texts.length := by
  have once : ∀ text ∈ texts.dedup, texts.count text - 1 + 1 = texts.count text := fun text isDistinct =>
    Nat.sub_add_cancel (List.count_pos_iff.mpr (List.mem_dedup.mp isDistinct))
  calc repeats texts + texts.toFinset.card
      = (texts.dedup.map fun text => texts.count text - 1).sum + (texts.dedup.map fun _ => 1).sum := by
        rw [repeats_eq_sum, List.card_toFinset, List.map_const', List.sum_replicate, smul_eq_mul, mul_one]
    _ = (texts.dedup.map fun text => texts.count text).sum := by
        rw [← List.sum_map_add, List.map_congr_left once]
    _ = texts.length := List.sum_map_count_dedup_eq_length texts

/-- Texts that are told apart by their digests repeat as often as the digests. -/
theorem repeats_map {digest : String -> String} {texts : List String} (apart : Set.InjOn digest {text | text ∈ texts}) :
    repeats (texts.map digest) = repeats texts := by
  have ofTexts := repeats_add_card texts
  have ofDigests := repeats_add_card (texts.map digest)
  have image : (texts.map digest).toFinset = texts.toFinset.image digest := by
    ext text
    simp
  have apartToo : Set.InjOn digest (texts.toFinset : Set String) := by
    simpa using apart
  rw [image, Finset.card_image_of_injOn apartToo, List.length_map] at ofDigests
  omega

/-! ## Lengths -/

/-- The lines of a text are no more than its characters, and have no more characters together. -/
theorem linesFrom_le (line : List Char) (finished : List (List Char)) (text : List Char) :
    (linesFrom line finished text).length ≤ finished.length + line.length + text.length ∧
      ((linesFrom line finished text).map List.length).sum ≤
        (finished.map List.length).sum + line.length + text.length := by
  fun_induction linesFrom line finished text with
  | case1 line finished =>
    cases line <;> simp
  | case2 | case3 | case4 =>
    simp only [List.length_cons, List.length_reverse, List.map_cons, List.sum_cons, List.length_nil] at *
    omega

/-- The lines of a text are no more than its characters. -/
theorem length_lines_le (text : List Char) : (lines text).length ≤ text.length := by
  simpa [lines] using (linesFrom_le [] [] text).1

/-- The lines of a text have no more characters than the text. -/
theorem sum_length_lines_le (text : List Char) : ((lines text).map List.length).sum ≤ text.length := by
  simpa [lines] using (linesFrom_le [] [] text).2

namespace Utf8

/-- Every character takes at least one byte, and nothing stands for faulty bytes. -/
theorem length_le_of_decodeFrom {fuel position : Nat} {result chars : List Char} {bytes : List UInt8}
    (decoded : decodeFrom (some []) fuel position result bytes = .ok chars) :
    chars.length ≤ result.length + bytes.length := by
  fun_induction decodeFrom (some []) fuel position result bytes with
  | case1 | case2 =>
    obtain rfl := Except.ok.inj decoded
    simp
  | case3 fuel position result first rest c length isHead inductionHypothesis =>
    have shorter := inductionHypothesis decoded
    rw [List.length_cons, List.length_drop] at shorter
    rw [List.length_cons]
    omega
  | case4 fuel position result first rest flaw length isHead chars isSubstitute inductionHypothesis =>
    obtain rfl := Option.some.inj isSubstitute
    have shorter := inductionHypothesis decoded
    rw [List.length_append, List.length_reverse, List.length_nil, List.length_drop] at shorter
    rw [List.length_cons]
    omega
  | case5 => nomatch decoded

/-- A decoded text has no more characters than there were bytes. -/
theorem length_decodeLenient_le (bytes : List UInt8) : (decodeLenient bytes).length ≤ bytes.length := by
  unfold decodeLenient decodeWith
  split
  · rename_i decoded
    simpa using length_le_of_decodeFrom decoded
  · exact Nat.zero_le _

end Utf8

end RepoSurvey.Text

namespace RepoSurvey.Survey

open Files (Checkout Visit)
open Number (Binary64)
open Number.Binary64 (IsValue Nearest isValue_div isValue_natCast lt_of_le_bits nearest_ofRat nearest_ofRatio)

/-! ## Arithmetic -/

section Arithmetic

variable {left right : Binary64}

/-- The lesser of two numbers has the lesser value. -/
theorem toRat_lesser (left right : Binary64) : (lesser left right).toRat = min left.toRat right.toRat := by
  unfold lesser
  split
  · rename_i less
    exact (min_eq_right less.le).symm
  · rename_i notLess
    exact (min_eq_left (not_lt.mp notLess)).symm

/-- A small integer has its own value. -/
theorem toRat_ofInt (value : Nat) (bits : value < 2 ^ 53) : (Binary64.ofInt value).toRat = value := by
  have bitsCast : (value : ℚ) ≤ 2 ^ 53 := by exact_mod_cast bits.le
  have nearest := nearest_ofRatio value one_pos (by simpa using lt_of_le_bits bitsCast)
  rw [Nat.cast_one, div_one] at nearest
  exact nearest.toRat_eq (isValue_natCast value bits)

/-- Half of three has its own value. -/
theorem toRat_quotient_three_two : (quotient 3 2).toRat = 3 / 2 := by
  have nearest := nearest_ofRatio 3 two_pos (lt_of_le_bits (by norm_num))
  exact nearest.toRat_eq (by simpa using isValue_div 3 1 (by decide) (by decide))

/-- A product that is small is rounded to a number nearest to it. -/
theorem nearest_times (left right : Binary64) (nonneg : 0 ≤ left.toRat * right.toRat)
    (bits : left.toRat * right.toRat ≤ 2 ^ 53) :
    Nearest (left.toRat * right.toRat) (times left right) :=
  nearest_ofRat nonneg (lt_of_le_bits bits)

/-- A difference that is small and not negative is rounded to a number nearest to it. -/
theorem nearest_minus (left right : Binary64) (le : right.toRat ≤ left.toRat) (bits : left.toRat ≤ 2 ^ 53)
    (nonneg : 0 ≤ right.toRat) :
    Nearest (left.toRat - right.toRat) (minus left right) :=
  nearest_ofRat (sub_nonneg.mpr le) (lt_of_le_bits (by linarith))

/-- The index of code that has a mean complexity and a share of duplicates, before it is rounded. -/
def exactIndex (mean share : ℚ) : ℚ := 100 - min mean 40 * (3 / 2) - share * 40

/-- The index lies between zero and what is left for the least complexity. -/
theorem exactIndex_bounds {mean share : ℚ} (one : 1 ≤ mean) (nonneg : 0 ≤ share) (less : share < 1) :
    0 < exactIndex mean share ∧ exactIndex mean share ≤ 197 / 2 := by
  unfold exactIndex
  have atMost : min mean 40 ≤ 40 := min_le_right _ _
  have atLeast : 1 ≤ min mean 40 := le_min one (by norm_num)
  constructor <;> linarith

section Index

variable {mean share : ℚ} {average duplicates : Binary64}

/-- The running mean, up to forty, is close to the exact one. -/
theorem lesser_forty_account (ofMean : Nearest mean average) (one : 1 ≤ mean) :
    1 ≤ (lesser average (.ofInt 40)).toRat ∧ (lesser average (.ofInt 40)).toRat ≤ 40 ∧
      |(lesser average (.ofInt 40)).toRat - min mean 40| ≤ 40 / 2 ^ 52 := by
  have forty : (Binary64.ofInt 40).toRat = 40 := toRat_ofInt 40 (by decide)
  have isForty : IsValue 40 := isValue_natCast 40 (by decide)
  have isOne : IsValue 1 := by simpa using isValue_natCast 1 (by decide)
  rw [toRat_lesser, forty]
  refine ⟨le_min (ofMean.atLeast isOne one) (by norm_num), min_le_right _ _, ?_⟩
  rcases le_total mean 40 with below | above
  · rw [min_eq_left below, min_eq_left (ofMean.atMost isForty below)]
    exact ofMean.error_le _ below (by norm_num)
  · rw [min_eq_right above, min_eq_right (ofMean.atLeast isForty above), sub_self, abs_zero]
    positivity

/-- What is left for a complexity of at most forty is close to what is left exactly. -/
theorem remainder_account {capped : Binary64} (least : 1 ≤ capped.toRat) (most : capped.toRat ≤ 40) :
    40 ≤ (minus hundred (times capped (quotient 3 2))).toRat ∧
      (minus hundred (times capped (quotient 3 2))).toRat ≤ 197 / 2 ∧
      |(minus hundred (times capped (quotient 3 2))).toRat - (100 - capped.toRat * (3 / 2))| ≤ 160 / 2 ^ 52 := by
  have isHundred : hundred.toRat = 100 := toRat_ofInt 100 (by decide)
  have isForty : IsValue 40 := isValue_natCast 40 (by decide)
  have isSixty : IsValue 60 := isValue_natCast 60 (by decide)
  have isLeast : IsValue (3 / 2) := by simpa using isValue_div 3 1 (by decide) (by decide)
  have isMost : IsValue (197 / 2) := by simpa using isValue_div 197 1 (by decide) (by decide)
  have branching := nearest_times capped (quotient 3 2)
  rw [toRat_quotient_three_two] at branching
  specialize branching (by linarith) (by linarith)
  have branchingLeast := branching.atLeast isLeast (by linarith)
  have branchingMost := branching.atMost isSixty (by linarith)
  have branchingError := branching.error_le 60 (by linarith) (by norm_num)
  have rest := nearest_minus hundred (times capped (quotient 3 2))
  rw [isHundred] at rest
  specialize rest (by linarith) (by norm_num) (by linarith)
  have restError := rest.error_le 100 (by linarith) (by norm_num)
  refine ⟨rest.atLeast isForty (by linarith), rest.atMost isMost (by linarith), ?_⟩
  rw [abs_le] at *
  constructor <;> linarith

/-- What a share of duplicates costs is close to what it costs exactly. -/
theorem loss_account (ofShare : Nearest share duplicates) (less : share ≤ 1 - 1 / 2 ^ 31) :
    0 ≤ (times duplicates (.ofInt 40)).toRat ∧ (times duplicates (.ofInt 40)).toRat ≤ 40 - 40 / 2 ^ 31 ∧
      |(times duplicates (.ofInt 40)).toRat - share * 40| ≤ 80 / 2 ^ 52 := by
  have forty : (Binary64.ofInt 40).toRat = 40 := toRat_ofInt 40 (by decide)
  -- Of less than `2 ^ 31` long lines, one at least is the first of its kind.
  have isShareMost : IsValue ((2 ^ 31 - 1 : Nat) / 2 ^ 31) := isValue_div _ _ (by decide) (by decide)
  have isLossMost : IsValue ((40 * (2 ^ 31 - 1) : Nat) / 2 ^ 31) := isValue_div _ _ (by decide) (by decide)
  norm_num at isShareMost isLossMost less ⊢
  have shareNonneg := ofShare.nonneg
  have shareMost := ofShare.atMost isShareMost less
  have shareError := ofShare.error_le 1 (by linarith) le_rfl
  have loss := nearest_times duplicates (.ofInt 40)
  rw [forty] at loss
  specialize loss (by linarith) (by linarith)
  have lossError := loss.error_le 40 (by linarith) (by norm_num)
  refine ⟨loss.nonneg, loss.atMost isLossMost (by linarith), ?_⟩
  rw [abs_le] at *
  constructor <;> linarith

/-- The running index lies between the same bounds and is close to the exact one. -/
theorem unboundedIndex_account (ofMean : Nearest mean average) (ofShare : Nearest share duplicates) (one : 1 ≤ mean)
    (less : share ≤ 1 - 1 / 2 ^ 31) :
    (∃ significand exponent, unboundedIndex average duplicates = .finite false significand exponent) ∧
      0 < (unboundedIndex average duplicates).toRat ∧ (unboundedIndex average duplicates).toRat ≤ 197 / 2 ∧
      |(unboundedIndex average duplicates).toRat - exactIndex mean share| ≤ 1 / 2 ^ 43 := by
  have isMost : IsValue (197 / 2) := by simpa using isValue_div 197 1 (by decide) (by decide)
  have isIndexLeast : IsValue ((40 : Nat) / 2 ^ 31) := isValue_div _ _ (by decide) (by decide)
  obtain ⟨cappedLeast, cappedMost, cappedError⟩ := lesser_forty_account ofMean one
  obtain ⟨restLeast, restMost, restError⟩ := remainder_account cappedLeast cappedMost
  obtain ⟨lossLeast, lossMost, lossError⟩ := loss_account ofShare less
  norm_num at isIndexLeast lossMost
  unfold unboundedIndex
  dsimp only
  have index := nearest_minus (minus hundred (times (lesser average (.ofInt 40)) (quotient 3 2)))
    (times duplicates (.ofInt 40)) (by linarith) (by linarith) lossLeast
  have indexLeast := index.atLeast isIndexLeast (by linarith)
  have indexError := index.error_le 100 (by linarith) (by norm_num)
  refine ⟨index.finite, lt_of_lt_of_le (by norm_num) indexLeast, index.atMost isMost (by linarith), ?_⟩
  unfold exactIndex
  rw [abs_le] at *
  constructor <;> linarith

end Index

end Arithmetic

/-! ## Files that are read -/

section Files

variable {visit : Visit} {visits : List Visit} {file : SourceFile}

/-- Whether a visited file is a source file that can be read. -/
def isEligible (visit : Visit) : Bool := isSourceSuffix visit.lowerSuffix && SourceFile.isReadable visit

/-- What is read on a walk are the first source files that can be read. -/
theorem readUpTo_eq (left : Nat) (visits : List Visit) :
    SourceFile.readUpTo left visits = ((visits.filter isEligible).take left).map SourceFile.ofVisit := by
  induction visits generalizing left with
  | nil => simp [SourceFile.readUpTo]
  | cons visit rest inductionHypothesis =>
    unfold SourceFile.readUpTo
    by_cases isSource : isSourceSuffix visit.lowerSuffix = true
    · by_cases readable : SourceFile.isReadable visit = true
      · cases left with
        | zero => simp [isSource]
        | succ left => simp [isEligible, isSource, readable, inductionHypothesis]
      · cases left with
        | zero => simp [isSource]
        | succ left => simp [isEligible, isSource, readable, inductionHypothesis]
    · simp [isEligible, isSource, inductionHypothesis]

/-- A file that is read is one of a visit. -/
theorem exists_of_mem_ofVisits (isRead : file ∈ SourceFile.ofVisits visits) :
    ∃ visit ∈ visits, isEligible visit = true ∧ SourceFile.ofVisit visit = file := by
  rw [SourceFile.ofVisits, readUpTo_eq] at isRead
  obtain ⟨visit, taken, rfl⟩ := List.mem_map.mp isRead
  obtain ⟨visited, eligible⟩ := List.mem_filter.mp (List.mem_of_mem_take taken)
  exact ⟨visit, visited, eligible, rfl⟩

/-- Each branch of a line takes a character. -/
theorem countBranches_le (before : Option Char) (covered : Nat) (line : List Char) :
    countBranches before covered line ≤ line.length := by
  induction line generalizing before covered with
  | nil => exact Nat.le_refl 0
  | cons c rest inductionHypothesis =>
    have onward (covered : Nat) := inductionHypothesis (some c) covered
    unfold countBranches
    rw [List.length_cons]
    split
    · exact Nat.le_succ_of_le (onward _)
    · split
      · exact Nat.le_succ_of_le (onward _)
      · exact Nat.succ_le_succ (onward _)

/-- The text of a file that can be read has no more characters than the file may have bytes. -/
theorem exists_lines_ofVisit (eligible : isEligible visit = true) :
    ∃ text : List Char, (SourceFile.ofVisit visit).lines = Text.lines text ∧ text.length ≤ maxFileBytes := by
  have readable := (Bool.and_eq_true_iff.mp eligible).2
  refine ⟨_, rfl, (Text.Utf8.length_decodeLenient_le _).trans ?_⟩
  unfold SourceFile.isReadable at readable
  cases hasContent : visit.content with
  | none => exact Nat.zero_le _
  | some content =>
    rw [hasContent, Option.any_some, decide_eq_true_iff] at readable
    rw [Option.map_some, Option.getD_some, Text.toList_bytes]
    simpa using readable

/-- A file that can be read has no more lines for duplicates than it may have bytes. -/
theorem length_longLines_le (eligible : isEligible visit = true) :
    (SourceFile.ofVisit visit).longLines.length ≤ maxFileBytes := by
  obtain ⟨text, isText, short⟩ := exists_lines_ofVisit eligible
  have lines := Text.length_lines_le text
  have long : (SourceFile.ofVisit visit).longLines.length ≤ (Text.lines text).length := by
    rw [SourceFile.longLines, isText]
    exact (List.length_filterMap_le _ _).trans_eq (List.length_map _)
  omega

/-- A file that can be read has no more branches than it may have bytes. -/
theorem complexity_le (eligible : isEligible visit = true) :
    (SourceFile.ofVisit visit).complexity ≤ maxFileBytes + 1 := by
  obtain ⟨text, isText, short⟩ := exists_lines_ofVisit eligible
  have characters := Text.sum_length_lines_le text
  have taken : ((Text.lines text).map branches).sum ≤ ((Text.lines text).map List.length).sum :=
    List.sum_le_sum fun line _ => countBranches_le none 0 line
  rw [SourceFile.complexity, isText]
  omega

/-- No more files are read than may be. -/
theorem length_ofVisits_le (visits : List Visit) : (SourceFile.ofVisits visits).length ≤ maxQualityFiles := by
  rw [SourceFile.ofVisits, readUpTo_eq, List.length_map, List.length_take]
  exact Nat.min_le_left _ _

/-- Fewer than `2 ^ 31` long lines are read. -/
theorem length_longLines_lt (visits : List Visit) :
    ((SourceFile.ofVisits visits).flatMap SourceFile.longLines).length < 2 ^ 31 := by
  have each : ∀ length ∈ (SourceFile.ofVisits visits).map (List.length ∘ SourceFile.longLines),
      length ≤ maxFileBytes := by
    refine List.forall_mem_map.mpr fun file isRead => ?_
    obtain ⟨visit, -, eligible, rfl⟩ := exists_of_mem_ofVisits isRead
    exact length_longLines_le eligible
  calc ((SourceFile.ofVisits visits).flatMap SourceFile.longLines).length
      = ((SourceFile.ofVisits visits).map (List.length ∘ SourceFile.longLines)).sum := by
        rw [List.length_flatMap]
        rfl
    _ ≤ (SourceFile.ofVisits visits).length * maxFileBytes := by
        simpa using List.sum_le_card_nsmul _ _ each
    _ ≤ maxQualityFiles * maxFileBytes := Nat.mul_le_mul_right _ (length_ofVisits_le visits)
    _ < 2 ^ 31 := by decide

end Files

/-! ## Measures -/

/-- Whether a list is another one in decreasing order of some numbers, where items of the same number stay in their
order. -/
structure IsRanking {α : Type} (number : α -> Int) (items ranked : List α) : Prop where
  perm : ranked.Perm items
  decreasing : ranked.Pairwise fun earlier later => number later ≤ number earlier
  stable : ∀ value, ranked.filter (number · = value) = items.filter (number · = value)

/-- Sorting gives a ranking. -/
theorem isRanking_mergeSort {α : Type} (number : α -> Int) (items : List α) :
    IsRanking number items (items.mergeSort fun left right => decide (number right ≤ number left)) := by
  have transitive (first second third : α) (isBefore : decide (number second ≤ number first) = true)
      (isAfter : decide (number third ≤ number second) = true) : decide (number third ≤ number first) = true :=
    decide_eq_true ((of_decide_eq_true isAfter).trans (of_decide_eq_true isBefore))
  have total (first second : α) :
      (decide (number second ≤ number first) || decide (number first ≤ number second)) = true := by
    simpa using le_total _ _
  refine ⟨List.mergeSort_perm items _, (List.pairwise_mergeSort transitive total items).imp of_decide_eq_true,
    fun value => ?_⟩
  -- Items of the same number are in order already, so that the sort keeps their order.
  have inOrder : (items.filter (number · = value)).Pairwise
      fun left right => decide (number right ≤ number left) = true := by
    refine List.pairwise_of_forall_mem_list fun left isLeft right isRight => ?_
    have leftValue := of_decide_eq_true (List.mem_filter.mp isLeft).2
    have rightValue := of_decide_eq_true (List.mem_filter.mp isRight).2
    exact decide_eq_true (rightValue.trans leftValue.symm).le
  have kept := (List.sublist_mergeSort transitive total inOrder List.filter_sublist).filter (number · = value)
  rw [List.filter_filter, show (fun item => decide (number item = value) && decide (number item = value)) =
    (decide <| number · = value) from funext fun _ => Bool.and_self _] at kept
  exact (kept.eq_of_length ((List.mergeSort_perm items _).filter _).length_eq.symm).symm

section Measures

variable {visits : List Visit} {files : List SourceFile}

/-- The long lines of some files. -/
def longLinesOf (files : List SourceFile) : List String := files.flatMap SourceFile.longLines

/-- The mean complexity of some files. -/
def exactMean (files : List SourceFile) : ℚ := (files.map SourceFile.complexity).sum / files.length

/-- The share of the long lines of some files that are not the first of their kind; zero if there are none. -/
def exactShare (files : List SourceFile) : ℚ :=
  ((longLinesOf files).length - (longLinesOf files).toFinset.card) / (longLinesOf files).length

/-- The running mean complexity of some files. -/
def runningMean (files : List SourceFile) : Binary64 :=
  quotient (files.map SourceFile.complexity).sum files.length

/-- The running share of the long lines of some files. -/
def runningShare (files : List SourceFile) : Binary64 := duplicateRatio (longLinesOf files)

/-- The running index of some files, not kept between bounds. -/
def runningIndex (files : List SourceFile) : Binary64 := unboundedIndex (runningMean files) (runningShare files)

/-- Whether measures count the lines and branches of some files. -/
structure Measures (quality : Quality) (files : List SourceFile) : Prop where
  count : quality.filesAnalyzed = files.length
  lines : quality.totalLines = (files.map fun file => file.lines.length).sum
  greatest : IsGreatest {complexity | ∃ file ∈ files, complexity = (file.complexity : Int)} quality.maxComplexity
  /-- The complex files are the first ones of a ranking. -/
  complex : ∃ ranked : List FileComplexity,
    IsRanking FileComplexity.complexity (files.map SourceFile.summary) ranked ∧
      quality.complexFiles = ranked.take complexFileLimit

/-- Whether the exact numbers of some files lie between their bounds. -/
structure Bounded (highest : Int) (files : List SourceFile) : Prop where
  mean : 1 ≤ exactMean files ∧ exactMean files ≤ highest
  share : 0 ≤ exactShare files ∧ exactShare files < 1
  index : 0 < exactIndex (exactMean files) (exactShare files) ∧
    exactIndex (exactMean files) (exactShare files) ≤ 197 / 2

/-- Whether measures are rounded from running numbers that are the exact ones of some files, up to the errors of their
arithmetic. The running index lies between its bounds without being kept there. -/
structure Rounded (quality : Quality) (files : List SourceFile) : Prop where
  mean : Nearest (exactMean files) (runningMean files) ∧ quality.averageComplexity = (runningMean files).roundPlaces 2
  share : Nearest (exactShare files) (runningShare files) ∧
    quality.duplicateLineRatio = (runningShare files).roundPlaces 4
  index : 0 < (runningIndex files).toRat ∧ (runningIndex files).toRat ≤ 197 / 2 ∧
    |(runningIndex files).toRat - exactIndex (exactMean files) (exactShare files)| ≤ 1 / 2 ^ 43 ∧
    quality.maintainabilityIndex = (runningIndex files).roundPlaces 1
  meanBounds : 1 ≤ quality.averageComplexity.toRat ∧ quality.averageComplexity.toRat ≤ quality.maxComplexity
  shareBounds : 0 ≤ quality.duplicateLineRatio.toRat ∧ quality.duplicateLineRatio.toRat ≤ 1
  indexBounds : 0 ≤ quality.maintainabilityIndex.toRat ∧ quality.maintainabilityIndex.toRat ≤ 197 / 2

/-- Complexities are positive. -/
theorem complexity_pos (file : SourceFile) : 1 ≤ file.complexity := Nat.le_add_right 1 _

/-- The greatest number of a list is found by comparing all of them with zero first. -/
theorem isGreatest_foldl_max {numbers : List Nat} (some : numbers ≠ []) :
    IsGreatest {number | number ∈ numbers} (numbers.foldl max 0) := by
  obtain ⟨greatest, isGreatest⟩ := Option.isSome_iff_exists.mp (List.isSome_max?_of_ne_nil some)
  rw [List.foldl_max, isGreatest, Option.getD_some, Nat.zero_max]
  exact List.max?_eq_some_iff.mp isGreatest

/-- The greatest complexity of some files. -/
def highestOf (files : List SourceFile) : Nat := (files.map SourceFile.complexity).foldl max 0

/-- The greatest complexity of some files is that of one of them, and none has a greater one. -/
theorem highestOf_account (some : files ≠ []) :
    (∃ file ∈ files, highestOf files = file.complexity) ∧ ∀ file ∈ files, file.complexity ≤ highestOf files := by
  obtain ⟨isOne, most⟩ := isGreatest_foldl_max (mt List.map_eq_nil_iff.mp some : files.map SourceFile.complexity ≠ [])
  obtain ⟨file, member, isComplexity⟩ := List.mem_map.mp isOne
  exact ⟨⟨file, member, isComplexity.symm⟩, fun other isOther => most (List.mem_map_of_mem isOther)⟩

/-- The measures of some files count their lines and branches. -/
theorem measures_ofFiles (some : files ≠ []) : Measures (Quality.ofFiles files) files := by
  obtain ⟨⟨file, member, isHighest⟩, most⟩ := highestOf_account some
  unfold Quality.ofFiles
  rw [List.isEmpty_eq_false_iff.mpr some, if_neg Bool.false_ne_true]
  refine ⟨rfl, rfl, ⟨⟨file, member, congrArg Int.ofNat isHighest⟩, ?_⟩, _, isRanking_mergeSort _ _, rfl⟩
  rintro _ ⟨other, isOther, rfl⟩
  exact Int.ofNat_le.mpr (most other isOther)

/-- The mean lies between the least possible complexity and the greatest one. -/
theorem exactMean_bounds (some : files ≠ []) : 1 ≤ exactMean files ∧ exactMean files ≤ highestOf files := by
  have positive : (0 : ℚ) < files.length := by exact_mod_cast List.length_pos_iff.mpr some
  have most := (highestOf_account some).2
  have atLeast : files.length ≤ (files.map SourceFile.complexity).sum := by
    simpa using List.card_nsmul_le_sum (files.map SourceFile.complexity) 1
      (List.forall_mem_map.mpr fun file _ => complexity_pos file)
  have atMost : (files.map SourceFile.complexity).sum ≤ files.length * highestOf files := by
    simpa using List.sum_le_card_nsmul (files.map SourceFile.complexity) (highestOf files)
      (List.forall_mem_map.mpr most)
  unfold exactMean
  rw [le_div_iff₀ positive, div_le_iff₀ positive, one_mul, mul_comm (highestOf files : ℚ)]
  exact ⟨by exact_mod_cast atLeast, by exact_mod_cast atMost⟩

/-- The running mean is nearest to the exact one. -/
theorem nearest_runningMean (some : files ≠ []) (bits : highestOf files < 2 ^ 53) :
    Nearest (exactMean files) (runningMean files) := by
  have bitsCast : (highestOf files : ℚ) ≤ 2 ^ 53 := by exact_mod_cast bits.le
  exact nearest_ofRatio _ (List.length_pos_iff.mpr some) (lt_of_le_bits ((exactMean_bounds some).2.trans bitsCast))

/-- The share of long lines is less than one by a line at least. -/
theorem exactShare_bounds (few : (longLinesOf files).length < 2 ^ 31) :
    0 ≤ exactShare files ∧ exactShare files ≤ 1 - 1 / 2 ^ 31 := by
  have distinct : ((longLinesOf files).toFinset.card : ℚ) ≤ (longLinesOf files).length := by
    exact_mod_cast List.toFinset_card_le _
  have isCount : ((longLinesOf files).length : ℚ) ≤ 2 ^ 31 := by exact_mod_cast few.le
  unfold exactShare
  refine ⟨div_nonneg (sub_nonneg.mpr distinct) (Nat.cast_nonneg _), ?_⟩
  rcases (longLinesOf files).eq_nil_or_concat with none | ⟨before, last, isLast⟩
  · rw [none]
    norm_num
  · have first : (1 : ℚ) ≤ (longLinesOf files).toFinset.card := by
      have member : last ∈ (longLinesOf files).toFinset := by
        rw [isLast]
        simp
      exact_mod_cast Finset.card_pos.mpr ⟨last, member⟩
    have positive : (0 : ℚ) < (longLinesOf files).length := by linarith
    rw [div_le_iff₀ positive]
    linarith

/-- The running share is nearest to the exact one. -/
theorem nearest_runningShare (few : (longLinesOf files).length < 2 ^ 31) :
    Nearest (exactShare files) (runningShare files) := by
  have bounds := exactShare_bounds few
  have repeated : (Text.repeats (longLinesOf files) : ℚ) =
      (longLinesOf files).length - (longLinesOf files).toFinset.card := by
    rw [← Text.repeats_add_card]
    push_cast
    ring
  unfold runningShare duplicateRatio
  dsimp only
  split
  · rename_i none
    rw [exactShare, none, Nat.cast_zero, div_zero]
    exact Binary64.nearest_zero
  · rename_i some
    rw [exactShare, ← repeated] at bounds ⊢
    exact nearest_ofRatio _ (Nat.pos_of_ne_zero some) (lt_of_le_bits (by linarith))

/-- An index between its bounds does not have to be kept there. -/
theorem maintainability_eq {average duplicates : Binary64} (positive : 0 < (unboundedIndex average duplicates).toRat)
    (most : (unboundedIndex average duplicates).toRat ≤ 197 / 2) :
    maintainability average duplicates = unboundedIndex average duplicates := by
  have isZero : Binary64.zero.toRat = 0 := Binary64.nearest_zero.toRat_eq (isValue_natCast 0 (by decide))
  have isHundred : hundred.toRat = 100 := toRat_ofInt 100 (by decide)
  have notMore : lesser hundred (unboundedIndex average duplicates) = unboundedIndex average duplicates :=
    if_pos (isHundred ▸ most.trans_lt (by norm_num))
  rw [maintainability, notMore]
  exact if_pos (isZero ▸ positive)

/-- The measures of some files are rounded forms of running numbers. -/
theorem published_ofFiles (some : files ≠ []) :
    (Quality.ofFiles files).maxComplexity = highestOf files ∧
      (Quality.ofFiles files).averageComplexity = (runningMean files).roundPlaces 2 ∧
      (Quality.ofFiles files).duplicateLineRatio = (runningShare files).roundPlaces 4 ∧
      (Quality.ofFiles files).maintainabilityIndex =
        (maintainability (runningMean files) (runningShare files)).roundPlaces 1 := by
  unfold Quality.ofFiles
  rw [List.isEmpty_eq_false_iff.mpr some, if_neg Bool.false_ne_true]
  exact ⟨rfl, rfl, rfl, rfl⟩

/-- The measures of some files are rounded from their running numbers, which are close to the exact ones. -/
theorem rounded_ofFiles (some : files ≠ []) (bits : highestOf files < 2 ^ 53)
    (few : (longLinesOf files).length < 2 ^ 31) : Rounded (Quality.ofFiles files) files := by
  have ofMean := nearest_runningMean some bits
  have ofShare := nearest_runningShare few
  have meanBounds := exactMean_bounds some
  have shareBounds := exactShare_bounds few
  obtain ⟨isNumber, positive, most, close⟩ := unboundedIndex_account ofMean ofShare meanBounds.1 shareBounds.2
  have isZero : IsValue 0 := isValue_natCast 0 (by decide)
  have isOne : IsValue 1 := by exact_mod_cast isValue_natCast 1 (by decide)
  have isMost : IsValue (197 / 2) := by
    simpa using isValue_div 197 1 (by decide) (by decide)
  have isHighest := isValue_natCast _ bits
  have highestBits : (highestOf files : ℚ) ≤ 2 ^ 53 := by exact_mod_cast bits.le
  obtain ⟨highest, mean, share, index⟩ := published_ofFiles some
  rw [maintainability_eq positive most] at index
  refine ⟨⟨ofMean, mean⟩, ⟨ofShare, share⟩, ⟨positive, most, close, index⟩, ?_, ?_, ?_⟩
  · have bounds := Binary64.bounds_roundPlaces 2 100 (highestOf files * 100) ofMean.finite
    norm_num at bounds
    rw [mean, highest, Int.cast_natCast]
    exact bounds isOne isHighest (lt_of_le_bits highestBits) (ofMean.atLeast isOne meanBounds.1)
      (ofMean.atMost isHighest meanBounds.2)
  · have bounds := Binary64.bounds_roundPlaces 4 0 10000 ofShare.finite
    norm_num at bounds
    rw [share]
    exact bounds isZero isOne (lt_of_le_bits (by norm_num)) ofShare.nonneg (ofShare.atMost isOne (by linarith))
  · have bounds := Binary64.bounds_roundPlaces 1 0 985 isNumber
    norm_num at bounds
    rw [index]
    exact bounds isZero isMost (lt_of_le_bits (by norm_num)) positive.le most

/-- The measures of a checkout in which a source file is read are those of the first such files on a walk. Their exact
numbers lie between their bounds, and the published numbers are rounded from running ones that are close to these. Lines
may be told apart by digests of which no two are the same. -/
theorem quality_account (checkout : Checkout) (some : SourceFile.ofVisits checkout.visits ≠ []) :
    let files := SourceFile.ofVisits checkout.visits
    let quality := Quality.ofCheckout checkout
    files = ((checkout.visits.filter isEligible).take maxQualityFiles).map SourceFile.ofVisit ∧
      files.length ≤ maxQualityFiles ∧ Measures quality files ∧ Bounded quality.maxComplexity files ∧
      Rounded quality files ∧
      ∀ digest : String -> String, Set.InjOn digest {line | line ∈ longLinesOf files} ->
        Text.repeats ((longLinesOf files).map digest) + (longLinesOf files).toFinset.card =
          (longLinesOf files).length := by
  intro files quality
  have few : (longLinesOf files).length < 2 ^ 31 := length_longLines_lt checkout.visits
  have bits : highestOf files < 2 ^ 53 := by
    obtain ⟨⟨file, isRead, isHighest⟩, -⟩ := highestOf_account some
    obtain ⟨visit, -, eligible, rfl⟩ := exists_of_mem_ofVisits isRead
    have complexity := complexity_le eligible
    rw [isHighest]
    exact complexity.trans_lt (by decide)
  have shareBounds := exactShare_bounds few
  have less : exactShare files < 1 := shareBounds.2.trans_lt (by norm_num)
  have measures : Measures quality files := measures_ofFiles some
  have isHighest : quality.maxComplexity = highestOf files := (published_ofFiles some).1
  refine ⟨readUpTo_eq _ _, length_ofVisits_le _, measures, ?_, rounded_ofFiles some bits few, fun digest apart => ?_⟩
  · refine ⟨?_, ⟨shareBounds.1, less⟩, exactIndex_bounds (exactMean_bounds some).1 shareBounds.1 less⟩
    rw [isHighest, Int.cast_natCast]
    exact exactMean_bounds some
  · rw [Text.repeats_map apart]
    exact Text.repeats_add_card _

/-- A file with two branches and a line that occurs twice. -/
def repeatingFile : SourceFile :=
  ⟨"a.py", ["if a && b:".toList, "print(\"the same line twice\")".toList, "print(\"the same line twice\")".toList]⟩

/-- The content of that file. -/
def repeatingContent : ByteArray :=
  "if a && b:\nprint(\"the same line twice\")\nprint(\"the same line twice\")".toUTF8

/-- The checkout of a directory with that file. -/
def repeatingCheckout : Checkout :=
  ⟨⟨false, ["repo"]⟩, .ok (.directory ⟨[("a.py", .file repeatingContent)], [], Files.linkLimit⟩)⟩

/-- The complexity of the file is three, half of its long lines are repeated, and the index is the one of these. -/
theorem repeatingCheckout_measured : SourceFile.ofVisits repeatingCheckout.visits = [repeatingFile] ∧
    exactMean [repeatingFile] = 3 ∧ exactShare [repeatingFile] = 1 / 2 ∧
    exactIndex (exactMean [repeatingFile]) (exactShare [repeatingFile]) = 151 / 2 ∧
    Measures (Quality.ofCheckout repeatingCheckout) [repeatingFile] ∧
    Rounded (Quality.ofCheckout repeatingCheckout) [repeatingFile] := by
  have visits : repeatingCheckout.visits = [⟨[], "a.py", some repeatingContent⟩] := by cbv
  have lines : Text.lines (Text.Utf8.decodeLenient repeatingContent.toList) = repeatingFile.lines := by decide +kernel
  have isRead : SourceFile.ofVisits repeatingCheckout.visits = [repeatingFile] := by
    have eligible : isEligible ⟨[], "a.py", some repeatingContent⟩ = true := by decide +kernel
    rw [visits, SourceFile.ofVisits, readUpTo_eq, List.filter_cons_of_pos eligible]
    exact congrArg (fun lines => [SourceFile.mk "a.py" lines]) lines
  have complexity : repeatingFile.complexity = 3 := by decide +kernel
  have long : longLinesOf [repeatingFile] = List.replicate 2 "print(\"the same line twice\")" := by decide +kernel
  have mean : exactMean [repeatingFile] = 3 := by simp [exactMean, complexity]
  have share : exactShare [repeatingFile] = 1 / 2 := by
    rw [exactShare, long, List.toFinset_replicate_of_ne_zero two_ne_zero]
    norm_num
  obtain ⟨-, -, measures, -, rounded, -⟩ := quality_account repeatingCheckout (isRead ▸ List.cons_ne_nil _ _)
  rw [isRead] at measures rounded
  refine ⟨isRead, mean, share, ?_, measures, rounded⟩
  rw [mean, share, exactIndex]
  norm_num

end Measures

end RepoSurvey.Survey

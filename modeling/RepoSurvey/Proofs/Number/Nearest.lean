import Mathlib
import RepoSurvey.Number.Decimal

/-!
# Numbers nearest to quotients

A double has one canonical form, and around it lies the interval of the rationals that are rounded to it.
`ofRatio_of_near` says that every quotient in the interval is in fact rounded to the number, and
`ofDecimal_of_near` says so for decimals. Nothing is said about quotients beyond the greatest number.

A number to which a rational is rounded lies on the same side as the rational of every number, and as far from the
rational as half a unit in its last place at most (`nearest_ofRatio`). Rounding to decimal places keeps bounds that
have as many places (`le_toRat_roundPlaces`, `toRat_roundPlaces_le`). This is said about rationals that are not
negative and less than half the greatest number.
-/

namespace RepoSurvey.Number

/-- A quotient nearest to a natural is rounded to it: an end of the interval only to an even one. -/
theorem roundHalfEven_eq {numerator denominator value : Nat} (positive : 0 < denominator)
    (low : 2 * value * denominator ≤ 2 * numerator + denominator)
    (high : 2 * numerator ≤ (2 * value + 1) * denominator)
    (odd : value % 2 = 1 -> 2 * value * denominator < 2 * numerator + denominator ∧
      2 * numerator < (2 * value + 1) * denominator) :
    roundHalfEven numerator denominator = value := by
  have division := Nat.div_add_mod numerator denominator
  have small := Nat.mod_lt numerator positive
  unfold roundHalfEven
  generalize numerator / denominator = below at division
  generalize numerator % denominator = rest at division small
  subst division
  have atMost : below ≤ value := by
    by_contra more
    have : denominator * (value + 1) ≤ denominator * below := Nat.mul_le_mul_left _ (by omega)
    nlinarith
  have atLeast : value ≤ below + 1 := by
    by_contra less
    have : denominator * (below + 2) ≤ denominator * value := Nat.mul_le_mul_left _ (by omega)
    nlinarith
  obtain rfl | rfl : value = below ∨ value = below + 1 := by omega
  · have noMore : 2 * rest ≤ denominator := by nlinarith
    rcases Nat.lt_or_eq_of_le noMore with less | tie
    · simp [less]
    · have even : value % 2 = 0 := by
        by_contra notEven
        have strict := (odd (by omega)).2
        nlinarith
      simp [tie, even]
  · have noLess : denominator ≤ 2 * rest := by nlinarith
    rcases Nat.lt_or_eq_of_le noLess with more | tie
    · simp [more, Nat.lt_asymm more]
    · have oddBelow : below % 2 = 1 := by
        by_contra notOdd
        have strict := (odd (by omega)).1
        nlinarith
      simp [← tie, oddBelow]

namespace Binary64

/-! ## Powers -/

/-- A quotient that is scaled down is divided by the power of two. -/
theorem scaleDown_value (numerator : Nat) {denominator : Nat} (positive : 0 < denominator)
    (exponent : Int) :
    0 < (scaleDown numerator denominator exponent).2 ∧
      ((scaleDown numerator denominator exponent).1 : ℚ) =
        (numerator / denominator : ℚ) / 2 ^ exponent * (scaleDown numerator denominator exponent).2 := by
  have nonzero : (denominator : ℚ) ≠ 0 := by positivity
  by_cases sign : 0 ≤ exponent
  · obtain ⟨power, rfl⟩ := Int.eq_ofNat_of_zero_le sign
    simp only [scaleDown, sign, if_true, Int.toNat_natCast]
    refine ⟨by positivity, ?_⟩
    push_cast
    rw [zpow_natCast]
    field_simp
  · obtain ⟨power, rfl⟩ : ∃ power : Nat, exponent = -power := ⟨exponent.natAbs, by omega⟩
    simp only [scaleDown, sign, if_false, neg_neg, Int.toNat_natCast]
    refine ⟨positive, ?_⟩
    push_cast
    rw [zpow_neg, zpow_natCast]
    field_simp

/-- The guess at the power of a quotient is right or one too great. -/
theorem guess_bounds {numerator denominator : Nat} (numeratorPositive : 0 < numerator)
    (positive : 0 < denominator) :
    (2 : ℚ) ^ ((Nat.log2 numerator : Int) - Nat.log2 denominator - 1) <
        (numerator / denominator : ℚ) ∧
      (numerator / denominator : ℚ) <
        2 ^ ((Nat.log2 numerator : Int) - Nat.log2 denominator + 1) := by
  have numeratorLow : (2 : ℚ) ^ Nat.log2 numerator ≤ numerator := by
    exact_mod_cast Nat.log2_self_le numeratorPositive.ne'
  have numeratorHigh : (numerator : ℚ) < 2 ^ (Nat.log2 numerator + 1) := by
    exact_mod_cast Nat.lt_log2_self
  have denominatorLow : (2 : ℚ) ^ Nat.log2 denominator ≤ denominator := by
    exact_mod_cast Nat.log2_self_le positive.ne'
  have denominatorHigh : (denominator : ℚ) < 2 ^ (Nat.log2 denominator + 1) := by
    exact_mod_cast Nat.lt_log2_self
  have denominatorPositive : (0 : ℚ) < denominator := by positivity
  have two : (2 : ℚ) ≠ 0 := two_ne_zero
  constructor
  · rw [lt_div_iff₀ denominatorPositive]
    calc (2 : ℚ) ^ ((Nat.log2 numerator : Int) - Nat.log2 denominator - 1) * denominator
        < 2 ^ ((Nat.log2 numerator : Int) - Nat.log2 denominator - 1) *
            2 ^ (Nat.log2 denominator + 1) := by gcongr
      _ = 2 ^ Nat.log2 numerator := by
        rw [← zpow_natCast, ← zpow_natCast, ← zpow_add₀ two]
        congr 1
        push_cast
        ring
      _ ≤ numerator := numeratorLow
  · rw [div_lt_iff₀ denominatorPositive]
    calc (numerator : ℚ) < 2 ^ (Nat.log2 numerator + 1) := numeratorHigh
      _ = 2 ^ ((Nat.log2 numerator : Int) - Nat.log2 denominator + 1) *
            2 ^ Nat.log2 denominator := by
        rw [← zpow_natCast, ← zpow_natCast, ← zpow_add₀ two]
        congr 1
        push_cast
        ring
      _ ≤ 2 ^ ((Nat.log2 numerator : Int) - Nat.log2 denominator + 1) * denominator := by gcongr

/-- Under its power a quotient has 53 bits, or fewer when the power is the smallest one. -/
theorem exponentFor_bounds {numerator denominator : Nat} (numeratorPositive : 0 < numerator)
    (positive : 0 < denominator) :
    leastExponent ≤ exponentFor numerator denominator ∧
      ((2 : ℚ) ^ (52 + exponentFor numerator denominator) ≤ numerator / denominator ∨
        exponentFor numerator denominator = leastExponent) ∧
      (numerator / denominator : ℚ) < 2 ^ (53 + exponentFor numerator denominator) := by
  obtain ⟨guessLow, guessHigh⟩ := guess_bounds numeratorPositive positive
  unfold exponentFor
  generalize guessed : (Nat.log2 numerator : Int) - Nat.log2 denominator - 52 = guess
  obtain ⟨scaledPositive, scaled⟩ := scaleDown_value numerator positive guess
  have below : ((scaleDown numerator denominator guess).1 <
      2 ^ 52 * (scaleDown numerator denominator guess).2) ↔
        (numerator / denominator : ℚ) < 2 ^ (52 + guess) := by
    have scaledPositive : (0 : ℚ) < (scaleDown numerator denominator guess).2 := by
      exact_mod_cast scaledPositive
    rw [← Nat.cast_lt (α := ℚ), scaled, Nat.cast_mul, mul_lt_mul_iff_left₀ scaledPositive,
      div_lt_iff₀ (by positivity), zpow_add₀ two_ne_zero]
    norm_num
  obtain ⟨actual, isActual, actualLow, actualHigh⟩ : ∃ actual : Int,
      (if (scaleDown numerator denominator guess).1 <
        2 ^ 52 * (scaleDown numerator denominator guess).2 then guess - 1 else guess) = actual ∧
      (2 : ℚ) ^ (52 + actual) ≤ numerator / denominator ∧
      (numerator / denominator : ℚ) < 2 ^ (53 + actual) := by
    by_cases small : (numerator / denominator : ℚ) < 2 ^ (52 + guess)
    · refine ⟨guess - 1, by rw [if_pos (below.mpr small)], ?_, ?_⟩
      · rw [show 52 + (guess - 1) = (Nat.log2 numerator : Int) - Nat.log2 denominator - 1 by omega]
        exact guessLow.le
      · rwa [show 53 + (guess - 1) = 52 + guess by ring]
    · refine ⟨guess, by rw [if_neg (fun found => small (below.mp found))], not_lt.mp small, ?_⟩
      rw [show 53 + guess = (Nat.log2 numerator : Int) - Nat.log2 denominator + 1 by omega]
      exact guessHigh
  dsimp only
  rw [isActual]
  rcases le_total leastExponent actual with atLeast | atMost
  · rw [max_eq_right atLeast]
    exact ⟨atLeast, .inl actualLow, actualHigh⟩
  · rw [max_eq_left atMost]
    exact ⟨le_refl _, .inr rfl,
      actualHigh.trans_le (zpow_le_zpow_right₀ one_lt_two.le (by omega))⟩

/-- A power under which a quotient has 53 bits, or fewer at the smallest one, is its power. -/
theorem exponentFor_eq {numerator denominator : Nat} {exponent : Int}
    (numeratorPositive : 0 < numerator) (positive : 0 < denominator)
    (least : leastExponent ≤ exponent)
    (low : (2 : ℚ) ^ (52 + exponent) ≤ numerator / denominator ∨ exponent = leastExponent)
    (high : (numerator / denominator : ℚ) < 2 ^ (53 + exponent)) :
    exponentFor numerator denominator = exponent := by
  obtain ⟨foundLeast, foundLow, foundHigh⟩ := exponentFor_bounds numeratorPositive positive
  generalize exponentFor numerator denominator = found at *
  have notBelow {left right : Int} (leftLow : (2 : ℚ) ^ (52 + left) ≤ numerator / denominator ∨
      left = leastExponent) (rightLeast : leastExponent ≤ right)
      (rightHigh : (numerator / denominator : ℚ) < 2 ^ (53 + right)) : left ≤ right := by
    rcases leftLow with leftLow | rfl
    · have := (zpow_lt_zpow_iff_right₀ one_lt_two).mp (leftLow.trans_lt rightHigh)
      omega
    · exact rightLeast
  exact le_antisymm (notBelow foundLow least high) (notBelow low foundLeast foundHigh)

/-- A scaled quotient is rounded to a natural when the quotient is at most half a unit away. -/
theorem roundHalfEven_scaleDown {numerator denominator value : Nat} {exponent : Int}
    (positive : 0 < denominator)
    (low : (2 * value - 1 : ℚ) * 2 ^ exponent ≤ 2 * (numerator / denominator))
    (high : 2 * (numerator / denominator : ℚ) ≤ (2 * value + 1) * 2 ^ exponent)
    (odd : value % 2 = 1 -> (2 * value - 1 : ℚ) * 2 ^ exponent < 2 * (numerator / denominator) ∧
      2 * (numerator / denominator : ℚ) < (2 * value + 1) * 2 ^ exponent) :
    roundHalfEven (scaleDown numerator denominator exponent).1
      (scaleDown numerator denominator exponent).2 = value := by
  obtain ⟨scaledPositive, scaled⟩ := scaleDown_value numerator positive exponent
  generalize (scaleDown numerator denominator exponent).1 = top at scaled
  generalize (scaleDown numerator denominator exponent).2 = bottom at scaled scaledPositive
  generalize (numerator / denominator : ℚ) = quotient at *
  have unit : (0 : ℚ) < 2 ^ exponent := by positivity
  have bottomPositive : (0 : ℚ) < bottom := by exact_mod_cast scaledPositive
  -- Multiplied by the scaled denominator, the bounds are about the scaled quotient.
  have total : (top : ℚ) * 2 ^ exponent = quotient * bottom := by
    rw [scaled]
    field_simp
  refine roundHalfEven_eq scaledPositive ?_ ?_ fun isOdd => ?_
  · have : (2 * value * bottom : ℚ) ≤ 2 * top + bottom := by
      refine le_of_mul_le_mul_right ?_ unit
      nlinarith [mul_le_mul_of_nonneg_right low bottomPositive.le]
    exact_mod_cast this
  · have : (2 * top : ℚ) ≤ (2 * value + 1) * bottom := by
      refine le_of_mul_le_mul_right ?_ unit
      nlinarith [mul_le_mul_of_nonneg_right high bottomPositive.le]
    exact_mod_cast this
  · obtain ⟨less, more⟩ := odd isOdd
    constructor
    · have : (2 * value * bottom : ℚ) < 2 * top + bottom := by
        refine lt_of_mul_lt_mul_right ?_ unit.le
        nlinarith [mul_lt_mul_of_pos_right less bottomPositive]
      exact_mod_cast this
    · have : (2 * top : ℚ) < (2 * value + 1) * bottom := by
        refine lt_of_mul_lt_mul_right ?_ unit.le
        nlinarith [mul_lt_mul_of_pos_right more bottomPositive]
      exact_mod_cast this

/-! ## Canonical forms -/

/-- A significand and a power in canonical form. -/
structure Canonical (significand : Nat) (exponent : Int) : Prop where
  bits : significand < 2 ^ 53
  least : leastExponent ≤ exponent
  greatest : exponent ≤ greatestExponent
  full : 2 ^ 52 ≤ significand ∨ exponent = leastExponent

/-- Whether a number is in canonical form, as all numbers are that can be met. -/
def IsCanonical : Binary64 -> Prop
  | .finite _ significand exponent => Canonical significand exponent
  | .infinite _ | .nan => True

/-- A rounded quotient is at least every natural that the quotient is at least. -/
theorem le_roundHalfEven_of_le {numerator denominator bound : Nat} (positive : 0 < denominator)
    (le : bound * denominator ≤ numerator) : bound ≤ roundHalfEven numerator denominator := by
  have rounded := le_roundHalfEven numerator denominator positive
  by_contra less
  have : (roundHalfEven numerator denominator + 1) * denominator ≤ bound * denominator :=
    Nat.mul_le_mul_right _ (by omega)
  nlinarith

/-- A rounded quotient is at most every natural that the quotient is at most. -/
theorem roundHalfEven_le_of_le {numerator denominator bound : Nat} (positive : 0 < denominator)
    (le : numerator ≤ bound * denominator) : roundHalfEven numerator denominator ≤ bound := by
  have rounded := roundHalfEven_le numerator denominator positive
  by_contra more
  have : (bound + 1) * denominator ≤ roundHalfEven numerator denominator * denominator :=
    Nat.mul_le_mul_right _ (by omega)
  nlinarith

/-- A rounded quotient is in canonical form. -/
theorem isCanonical_ofRatio (negative : Bool) (numerator : Nat) {denominator : Nat}
    (positive : 0 < denominator) : (ofRatio negative numerator denominator).IsCanonical := by
  unfold ofRatio
  split
  · exact ⟨by decide, le_refl _, by decide, .inr rfl⟩
  · rename_i nonzero
    obtain ⟨least, low, high⟩ := exponentFor_bounds (Nat.pos_of_ne_zero nonzero) positive
    obtain ⟨scaledPositive, scaled⟩ :=
      scaleDown_value numerator positive (exponentFor numerator denominator)
    generalize exponentFor numerator denominator = exponent at *
    dsimp only
    generalize (scaleDown numerator denominator exponent).1 = top at *
    generalize (scaleDown numerator denominator exponent).2 = bottom at *
    have bottomPositive : (0 : ℚ) < bottom := by exact_mod_cast scaledPositive
    have unit : (0 : ℚ) < 2 ^ exponent := by positivity
    have atMost : roundHalfEven top bottom ≤ 2 ^ 53 := by
      refine roundHalfEven_le_of_le scaledPositive ?_
      rw [zpow_add₀ two_ne_zero, ← div_lt_iff₀ unit] at high
      have : (top : ℚ) ≤ 2 ^ 53 * bottom := by
        rw [scaled]
        exact mul_le_mul_of_nonneg_right (by exact_mod_cast high.le) bottomPositive.le
      exact_mod_cast this
    have atLeast : 2 ^ 52 ≤ roundHalfEven top bottom ∨ exponent = leastExponent := by
      refine low.imp_left fun low => le_roundHalfEven_of_le scaledPositive ?_
      rw [zpow_add₀ two_ne_zero, ← le_div_iff₀ unit] at low
      have : 2 ^ 52 * bottom ≤ (top : ℚ) := by
        rw [scaled]
        exact mul_le_mul_of_nonneg_right (by exact_mod_cast low) bottomPositive.le
      exact_mod_cast this
    split_ifs with full great great
    · trivial
    · exact ⟨(by decide : 2 ^ 52 < 2 ^ 53), by omega, by omega, .inl le_rfl⟩
    · trivial
    · exact ⟨Nat.lt_of_le_of_ne atMost full, least, by omega, atLeast⟩

/-- A rounded decimal is in canonical form. -/
theorem isCanonical_ofDecimal (negative : Bool) (digits : Nat) (scale : Int) :
    (ofDecimal negative digits scale).IsCanonical := by
  have zero : Canonical 0 leastExponent := ⟨by decide, le_refl _, by decide, .inr rfl⟩
  unfold ofDecimal
  split_ifs
  · exact zero
  · trivial
  · exact zero
  · exact isCanonical_ofRatio _ _ one_pos
  · exact isCanonical_ofRatio _ _ (by positivity)

/-- How many quarters of a unit lie between a number and the lower end of its interval: half as many at a
power of two, where the next number is closer. -/
def quartersBelow (significand : Nat) (exponent : Int) : Nat :=
  if significand = 2 ^ 52 ∧ leastExponent < exponent then 1 else 2

/-- The rationals that are rounded to a number; the ends belong to them when the significand is even. -/
structure Near (significand : Nat) (exponent : Int) (value : ℚ) : Prop where
  low : (4 * significand - quartersBelow significand exponent : ℚ) * 2 ^ exponent ≤ 4 * value
  high : 4 * value ≤ (4 * significand + 2) * 2 ^ exponent
  odd : significand % 2 = 1 ->
    (4 * significand - quartersBelow significand exponent : ℚ) * 2 ^ exponent < 4 * value ∧
      4 * value < (4 * significand + 2) * 2 ^ exponent

/-- At most half a unit lies below a number. -/
theorem quartersBelow_le (significand : Nat) (exponent : Int) :
    (quartersBelow significand exponent : ℚ) ≤ 2 := by
  unfold quartersBelow
  split <;> norm_num

/-- A quotient near a number is rounded to it. -/
theorem ofRatio_of_near {negative : Bool} {significand numerator denominator : Nat} {exponent : Int}
    (canonical : Canonical significand exponent) (numeratorPositive : 0 < numerator)
    (positive : 0 < denominator)
    (near : Near significand exponent (numerator / denominator)) :
    ofRatio negative numerator denominator = .finite negative significand exponent := by
  obtain ⟨bits, least, greatest, full⟩ := canonical
  obtain ⟨low, high, odd⟩ := near
  have unit : (0 : ℚ) < 2 ^ exponent := by positivity
  have quarters := quartersBelow_le significand exponent
  have bitsCast : (significand : ℚ) + 1 ≤ 2 ^ 53 := by exact_mod_cast bits
  unfold ofRatio
  rw [if_neg numeratorPositive.ne']
  by_cases crossing : leastExponent < exponent ∧
      (numerator / denominator : ℚ) < 2 ^ (52 : Int) * 2 ^ exponent
  · -- The quotient lies below a power of two, under which it has one bit more.
    obtain ⟨above, less⟩ := crossing
    have isPower : significand = 2 ^ 52 := by
      rcases full with full | rfl
      · by_contra different
        have more : (2 : ℚ) ^ 52 + 1 ≤ significand := by
          exact_mod_cast Nat.lt_of_le_of_ne full (Ne.symm different)
        norm_num at less
        nlinarith
      · exact absurd above (lt_irrefl _)
    subst isPower
    have quarter : quartersBelow (2 ^ 52) exponent = 1 := by simp [quartersBelow, above]
    rw [quarter] at low
    have half : (2 : ℚ) ^ exponent = 2 * 2 ^ (exponent - 1) := by
      rw [zpow_sub_one₀ two_ne_zero]
      ring
    have power : exponentFor numerator denominator = exponent - 1 := by
      refine exponentFor_eq numeratorPositive positive (by omega) (.inl ?_) ?_
      · rw [zpow_add₀ two_ne_zero]
        rw [half] at low unit
        norm_num at low ⊢
        nlinarith
      · rw [show 53 + (exponent - 1) = 52 + exponent by ring, zpow_add₀ two_ne_zero]
        exact less
    have rounded : roundHalfEven (scaleDown numerator denominator (exponent - 1)).1
        (scaleDown numerator denominator (exponent - 1)).2 = 2 ^ 53 := by
      rw [half] at low less
      norm_num at low less
      refine roundHalfEven_scaleDown positive ?_ ?_ fun isOdd => absurd isOdd (by decide)
      · norm_num
        nlinarith
      · norm_num
        nlinarith
    simp only [power, rounded, if_true, sub_add_cancel]
    rw [if_neg (by omega)]
  · have power : exponentFor numerator denominator = exponent := by
      refine exponentFor_eq numeratorPositive positive least ?_ ?_
      · by_cases above : leastExponent < exponent
        · left
          rw [zpow_add₀ two_ne_zero]
          exact not_lt.mp fun less => crossing ⟨above, less⟩
        · exact .inr (by omega)
      · rw [zpow_add₀ two_ne_zero]
        norm_num at bitsCast ⊢
        nlinarith
    have rounded : roundHalfEven (scaleDown numerator denominator exponent).1
        (scaleDown numerator denominator exponent).2 = significand := by
      refine roundHalfEven_scaleDown positive ?_ ?_ fun isOdd => ?_
      · nlinarith
      · linarith
      · obtain ⟨less, more⟩ := odd isOdd
        constructor
        · nlinarith
        · linarith
    have fewer : significand ≠ 2 ^ 53 := bits.ne
    simp only [power, rounded, if_neg fewer]
    rw [if_neg (by omega)]

/-- What is near a number lies between a positive bound and one below the second-greatest power. -/
theorem Near.bounds {significand : Nat} {exponent : Int} {value : ℚ}
    (near : Near significand exponent value) (canonical : Canonical significand exponent)
    (positive : 0 < significand) : (2 : ℚ) ^ (-1075 : Int) ≤ value ∧ value < 2 ^ (1024 : Int) := by
  obtain ⟨bits, least, greatest, -⟩ := canonical
  have quarters := quartersBelow_le significand exponent
  have positiveCast : (1 : ℚ) ≤ significand := by exact_mod_cast positive
  have bitsCast : (significand : ℚ) + 1 ≤ 2 ^ 53 := by exact_mod_cast bits
  have unit : (0 : ℚ) < 2 ^ exponent := by positivity
  have unitLow : (2 : ℚ) ^ leastExponent ≤ 2 ^ exponent := by gcongr; norm_num
  have unitHigh : (2 : ℚ) ^ exponent ≤ 2 ^ greatestExponent := by gcongr; norm_num
  constructor
  · have half : (2 : ℚ) ^ (-1075 : Int) * 2 = 2 ^ leastExponent := by
      rw [leastExponent, ← zpow_add_one₀ two_ne_zero]
      norm_num
    have low := near.low
    nlinarith
  · have power : (2 : ℚ) ^ (1024 : Int) = 2 ^ 53 * 2 ^ greatestExponent := by
      rw [greatestExponent, ← zpow_natCast, ← zpow_add₀ two_ne_zero]
      norm_num
    have most : (4 * significand + 2 : ℚ) * 2 ^ exponent ≤ (4 * 2 ^ 53 - 2) * 2 ^ greatestExponent :=
      mul_le_mul (by linarith) unitHigh unit.le (by norm_num)
    have high := near.high
    have topmost : (0 : ℚ) < 2 ^ greatestExponent := by positivity
    rw [power]
    generalize (2 : ℚ) ^ greatestExponent = top at most topmost
    linarith

/-- A decimal near a number is rounded to it. -/
theorem ofDecimal_of_near {negative : Bool} {significand digits : Nat} {exponent scale : Int}
    (canonical : Canonical significand exponent) (positive : 0 < significand)
    (near : Near significand exponent (digits * 10 ^ scale)) :
    ofDecimal negative digits scale = .finite negative significand exponent := by
  obtain ⟨low, high⟩ := near.bounds canonical positive
  have ten : (0 : ℚ) < 10 ^ scale := by positivity
  have digitsPositive : 0 < digits := by
    rcases Nat.eq_zero_or_pos digits with rfl | found
    · have : (0 : ℚ) < 2 ^ (-1075 : Int) := by positivity
      simp only [Nat.cast_zero, zero_mul] at low
      linarith
    · exact found
  have digitsCast : (1 : ℚ) ≤ digits := by exact_mod_cast digitsPositive
  have notGreat : ¬ 400 < scale := by
    intro great
    have more : (10 : ℚ) ^ (401 : Int) ≤ 10 ^ scale := zpow_le_zpow_right₀ (by norm_num) great
    have less : (2 : ℚ) ^ (1024 : Int) < 10 ^ (401 : Int) := by
      exact_mod_cast (by decide +kernel : 2 ^ 1024 < 10 ^ 401)
    have atLeast := le_mul_of_one_le_left ten.le digitsCast
    exact lt_asymm less ((more.trans atLeast).trans_lt high)
  have notSmall : ¬ scale + (Nat.log2 digits / 3 + 1 : Nat) < -400 := by
    intro small
    have fewer : (digits : ℚ) ≤ 10 ^ (Nat.log2 digits / 3 + 1) := by
      have bound : digits < 2 ^ (Nat.log2 digits + 1) := Nat.lt_log2_self
      have : 2 ^ (Nat.log2 digits + 1) ≤ 2 ^ (3 * (Nat.log2 digits / 3 + 1)) :=
        Nat.pow_le_pow_right (by decide) (by omega)
      have : (2 ^ 3) ^ (Nat.log2 digits / 3 + 1) ≤ 10 ^ (Nat.log2 digits / 3 + 1) :=
        Nat.pow_le_pow_left (by decide) _
      rw [← Nat.pow_mul] at this
      exact_mod_cast bound.le.trans (by omega)
    have : (digits : ℚ) * 10 ^ scale ≤ 10 ^ (-401 : Int) := calc
      (digits : ℚ) * 10 ^ scale ≤ 10 ^ (Nat.log2 digits / 3 + 1) * 10 ^ scale := by gcongr
      _ = 10 ^ (scale + (Nat.log2 digits / 3 + 1 : Nat)) := by
        rw [zpow_add₀ (by norm_num), zpow_natCast, mul_comm]
      _ ≤ 10 ^ (-401 : Int) := zpow_le_zpow_right₀ (by norm_num) (by omega)
    have less : (10 : ℚ) ^ (-401 : Int) < 2 ^ (-1075 : Int) := by
      rw [zpow_neg, zpow_neg, inv_lt_inv₀ (by positivity) (by positivity)]
      exact_mod_cast (by decide +kernel : 2 ^ 1075 < 10 ^ 401)
    linarith
  unfold ofDecimal
  rw [if_neg digitsPositive.ne', if_neg notGreat, if_neg notSmall]
  split
  · rename_i sign
    obtain ⟨power, rfl⟩ := Int.eq_ofNat_of_zero_le sign
    refine ofRatio_of_near canonical (by positivity) one_pos ?_
    convert near using 1
    push_cast
    rw [Int.toNat_natCast, div_one, zpow_natCast]
  · rename_i sign
    obtain ⟨power, rfl⟩ : ∃ power : Nat, scale = -power := ⟨scale.natAbs, by omega⟩
    refine ofRatio_of_near canonical digitsPositive (by positivity) ?_
    convert near using 1
    push_cast
    rw [neg_neg, Int.toNat_natCast, zpow_neg, zpow_natCast, div_eq_mul_inv]

end Binary64

end RepoSurvey.Number

namespace RepoSurvey.Number.Binary64

/-! ## Values -/

/-- The value of a positive number is its significand times its power. -/
theorem toRat_finite (significand : Nat) (exponent : Int) :
    (finite false significand exponent).toRat = (significand : ℚ) * 2 ^ exponent := by
  simp only [toRat, toRat?, Option.getD_some, Bool.false_eq_true, if_false]
  by_cases sign : 0 ≤ exponent
  · obtain ⟨power, rfl⟩ := Int.eq_ofNat_of_zero_le sign
    rw [if_pos sign, Int.toNat_natCast, zpow_natCast]
    push_cast
    rfl
  · obtain ⟨power, rfl⟩ : ∃ power : Nat, exponent = -power := ⟨exponent.natAbs, by omega⟩
    rw [if_neg sign, neg_neg, Int.toNat_natCast, zpow_neg, zpow_natCast, div_eq_mul_inv]
    push_cast
    rfl

/-- Whether a rational is the value of a number that is not negative, however great its power is. -/
def IsValue (value : ℚ) : Prop :=
  ∃ (significand : Nat) (exponent : Int), significand < 2 ^ 53 ∧ leastExponent ≤ exponent ∧
    value = significand * 2 ^ exponent

/-- Values are not negative. -/
theorem IsValue.nonneg {value : ℚ} (isValue : IsValue value) : 0 ≤ value := by
  obtain ⟨significand, exponent, -, -, rfl⟩ := isValue
  positivity

/-- A natural of at most 53 bits, over a power of two that is not too great, is a value. -/
theorem isValue_div (significand power : Nat) (bits : significand < 2 ^ 53) (small : power ≤ 1074) :
    IsValue (significand / 2 ^ power) :=
  ⟨significand, -power, bits, by unfold leastExponent; omega, by rw [zpow_neg, zpow_natCast, div_eq_mul_inv]⟩

/-- A natural of at most 53 bits is a value. -/
theorem isValue_natCast (value : Nat) (bits : value < 2 ^ 53) : IsValue value := by
  simpa using isValue_div value 0 bits (Nat.zero_le _)

/-- Rationals of at most 53 bits are far from the greatest number. -/
theorem lt_of_le_bits {value : ℚ} (bits : value ≤ 2 ^ 53) : value < 2 ^ (1023 : Int) := by
  have power : (2 : ℚ) ^ 53 = 2 ^ (53 : Int) := by norm_cast
  exact (power ▸ bits).trans_lt (zpow_lt_zpow_right₀ one_lt_two (by decide))

/-! ## Nearest numbers -/

/-- Whether a number is one that a rational, not negative, may be rounded to: it is on the same side of every value,
and at most half a unit away. -/
structure Nearest (exact : ℚ) (rounded : Binary64) : Prop where
  finite : ∃ significand exponent, rounded = .finite false significand exponent
  atLeast : ∀ {bound : ℚ}, IsValue bound -> bound ≤ exact -> bound ≤ rounded.toRat
  atMost : ∀ {bound : ℚ}, IsValue bound -> exact ≤ bound -> rounded.toRat ≤ bound
  error : |rounded.toRat - exact| ≤ exact / 2 ^ 53 + 2 ^ (-1075 : Int)

/-- Zero is rounded to zero. -/
theorem nearest_zero : Nearest 0 zero where
  finite := ⟨0, _, rfl⟩
  atLeast isValue le := by
    rw [zero, toRat_finite]
    simpa using le
  atMost isValue _ := by
    rw [zero, toRat_finite]
    simpa using isValue.nonneg
  error := by
    rw [zero, toRat_finite]
    simp

section Nearest

variable {exact : ℚ} {rounded : Binary64}

/-- What is rounded is not negative. -/
theorem Nearest.nonneg (nearest : Nearest exact rounded) : 0 ≤ rounded.toRat := by
  obtain ⟨significand, exponent, rfl⟩ := nearest.finite
  rw [toRat_finite]
  positivity

/-- A value is rounded to itself. -/
theorem Nearest.toRat_eq (nearest : Nearest exact rounded) (isValue : IsValue exact) : rounded.toRat = exact :=
  le_antisymm (nearest.atMost isValue le_rfl) (nearest.atLeast isValue le_rfl)

/-- What is rounded is off by a small part of any limit that is at least one. -/
theorem Nearest.error_le (nearest : Nearest exact rounded) (limit : ℚ) (below : exact ≤ limit) (one : 1 ≤ limit) :
    |rounded.toRat - exact| ≤ limit / 2 ^ 52 := by
  have tiny : (2 : ℚ) ^ (-1075 : Int) ≤ 2 ^ (-53 : Int) := zpow_le_zpow_right₀ one_lt_two.le (by decide)
  have error := nearest.error
  generalize (2 : ℚ) ^ (-1075 : Int) = rest at tiny error
  rw [zpow_neg, ← one_div] at tiny
  norm_num at tiny error ⊢
  linarith

end Nearest

/-- A value keeps its order with a quotient when the quotient is rounded to multiples of its power. -/
theorem bounds_of_round {exact rounded : ℚ} {exponent : Int}
    (low : (2 : ℚ) ^ (52 + exponent) ≤ exact ∨ exponent = leastExponent)
    (atLeast : ∀ multiple : Nat, (multiple : ℚ) * 2 ^ exponent ≤ exact -> multiple * 2 ^ exponent ≤ rounded)
    (atMost : ∀ multiple : Nat, exact ≤ (multiple : ℚ) * 2 ^ exponent -> rounded ≤ multiple * 2 ^ exponent)
    {bound : ℚ} (isValue : IsValue bound) :
    (bound ≤ exact -> bound ≤ rounded) ∧ (exact ≤ bound -> rounded ≤ bound) := by
  obtain ⟨significand, power, bits, least, rfl⟩ := isValue
  rcases le_or_gt exponent power with coarser | finer
  · obtain ⟨shift, rfl⟩ : ∃ shift : Nat, power = exponent + shift := ⟨(power - exponent).toNat, by omega⟩
    have multiple : (significand : ℚ) * 2 ^ (exponent + shift) = (significand * 2 ^ shift : Nat) * 2 ^ exponent := by
      rw [zpow_add₀ two_ne_zero, zpow_natCast]
      push_cast
      ring
    rw [multiple]
    exact ⟨atLeast _, atMost _⟩
  · -- Numbers of a lesser power are all below the quotient, and below a multiple of its power that is.
    have reached : (2 : ℚ) ^ (52 + exponent) ≤ exact := low.resolve_right (by omega)
    have less : (significand : ℚ) * 2 ^ power < 2 ^ (52 + exponent) := by
      calc (significand : ℚ) * 2 ^ power < 2 ^ 53 * 2 ^ power := by
            gcongr
            exact_mod_cast bits
        _ = 2 ^ (53 + power) := by rw [zpow_add₀ two_ne_zero]; norm_num
        _ ≤ 2 ^ (52 + exponent) := zpow_le_zpow_right₀ one_lt_two.le (by omega)
    refine ⟨fun _ => ?_, fun more => absurd (reached.trans more) (not_le.mpr less)⟩
    have whole : ((2 ^ 52 : Nat) : ℚ) * 2 ^ exponent = 2 ^ (52 + exponent) := by
      rw [zpow_add₀ two_ne_zero]
      norm_num
    exact less.le.trans (whole ▸ atLeast (2 ^ 52) (whole ▸ reached))

section Multiples

variable {exact : ℚ} {top bottom : Nat} {exponent : Int} (positive : 0 < bottom)
  (total : (top : ℚ) * 2 ^ exponent = exact * bottom)

include positive total

/-- A rounded quotient is at least every multiple of its power that the exact one is at least. -/
theorem multiple_le_round {multiple : Nat} (le : (multiple : ℚ) * 2 ^ exponent ≤ exact) :
    (multiple : ℚ) * 2 ^ exponent ≤ roundHalfEven top bottom * 2 ^ exponent := by
  have unit : (0 : ℚ) < 2 ^ exponent := by positivity
  have reached : (multiple * bottom : ℚ) ≤ top := by
    refine le_of_mul_le_mul_right ?_ unit
    nlinarith [mul_le_mul_of_nonneg_right le (Nat.cast_nonneg (α := ℚ) bottom)]
  have := le_roundHalfEven_of_le positive (by exact_mod_cast reached)
  gcongr

/-- A rounded quotient is at most every multiple of its power that the exact one is at most. -/
theorem round_le_multiple {multiple : Nat} (le : exact ≤ (multiple : ℚ) * 2 ^ exponent) :
    (roundHalfEven top bottom : ℚ) * 2 ^ exponent ≤ multiple * 2 ^ exponent := by
  have unit : (0 : ℚ) < 2 ^ exponent := by positivity
  have reached : (top : ℚ) ≤ multiple * bottom := by
    refine le_of_mul_le_mul_right ?_ unit
    nlinarith [mul_le_mul_of_nonneg_right le (Nat.cast_nonneg (α := ℚ) bottom)]
  have := roundHalfEven_le_of_le positive (by exact_mod_cast reached)
  gcongr

/-- A rounded quotient is at most half a unit away from the exact one. -/
theorem abs_round_sub_le : |roundHalfEven top bottom * 2 ^ exponent - exact| ≤ 2 ^ exponent / 2 := by
  have unit : (0 : ℚ) < 2 ^ exponent := by positivity
  have bottomPositive : (0 : ℚ) < bottom := by exact_mod_cast positive
  have above : (2 * (roundHalfEven top bottom * bottom) : ℚ) ≤ 2 * top + bottom := by
    exact_mod_cast roundHalfEven_le top bottom positive
  have below : (2 * top : ℚ) ≤ 2 * (roundHalfEven top bottom * bottom) + bottom := by
    exact_mod_cast le_roundHalfEven top bottom positive
  rw [abs_le]
  constructor
  · refine le_of_mul_le_mul_right ?_ bottomPositive
    nlinarith [mul_le_mul_of_nonneg_right below unit.le]
  · refine le_of_mul_le_mul_right ?_ bottomPositive
    nlinarith [mul_le_mul_of_nonneg_right above unit.le]

end Multiples

/-- Half a unit of a quotient is a small part of it, unless the power is the smallest one. -/
theorem half_unit_le {exact : ℚ} {exponent : Int} (nonneg : 0 ≤ exact)
    (low : (2 : ℚ) ^ (52 + exponent) ≤ exact ∨ exponent = leastExponent) :
    (2 : ℚ) ^ exponent / 2 ≤ exact / 2 ^ 53 + 2 ^ (-1075 : Int) := by
  rcases low with low | rfl
  · have tiny : (0 : ℚ) < 2 ^ (-1075 : Int) := by positivity
    generalize (2 : ℚ) ^ (-1075 : Int) = rest at tiny
    rw [zpow_add₀ two_ne_zero] at low
    norm_num at low ⊢
    linarith
  · have half : (2 : ℚ) ^ leastExponent / 2 = 2 ^ (-1075 : Int) := by
      rw [leastExponent, show (-1074 : Int) = -1075 + 1 by norm_num, zpow_add_one₀ two_ne_zero,
        mul_div_cancel_right₀ _ two_ne_zero]
    rw [half]
    exact le_add_of_nonneg_left (by positivity)

/-- A quotient is rounded to a positive number, of the value of its rounded scaled form. -/
theorem ofRatio_eq_finite {numerator denominator : Nat} (numeratorPositive : 0 < numerator)
    (inRange : exponentFor numerator denominator < greatestExponent) :
    ∃ (significand : Nat) (exponent : Int), ofRatio false numerator denominator = finite false significand exponent ∧
      (finite false significand exponent).toRat =
        roundHalfEven (scaleDown numerator denominator (exponentFor numerator denominator)).1
          (scaleDown numerator denominator (exponentFor numerator denominator)).2 *
            2 ^ exponentFor numerator denominator := by
  unfold ofRatio
  rw [if_neg numeratorPositive.ne']
  dsimp only
  generalize exponentFor numerator denominator = exponent at *
  generalize roundHalfEven _ _ = rounded
  split_ifs with carry great great
  · exact absurd great (by dsimp only; omega)
  · -- A carry into the next power does not change the value.
    refine ⟨_, _, rfl, ?_⟩
    rw [toRat_finite, carry, zpow_add_one₀ two_ne_zero]
    push_cast
    ring
  · exact absurd great (by dsimp only; omega)
  · exact ⟨_, _, rfl, toRat_finite _ _⟩

/-- A quotient is rounded to a number nearest to it. -/
theorem nearest_ofRatio (numerator : Nat) {denominator : Nat} (positive : 0 < denominator)
    (small : (numerator / denominator : ℚ) < 2 ^ (1023 : Int)) :
    Nearest (numerator / denominator) (ofRatio false numerator denominator) := by
  rcases Nat.eq_zero_or_pos numerator with rfl | numeratorPositive
  · simpa [ofRatio, zero] using nearest_zero
  obtain ⟨least, low, -⟩ := exponentFor_bounds numeratorPositive positive
  have inRange : exponentFor numerator denominator < greatestExponent := by
    rcases low with low | low
    · have := (zpow_lt_zpow_iff_right₀ one_lt_two).mp (low.trans_lt small)
      unfold greatestExponent
      omega
    · rw [low]
      decide
  obtain ⟨significand, power, isNumber, isValue⟩ := ofRatio_eq_finite numeratorPositive inRange
  obtain ⟨scaledPositive, scaled⟩ := scaleDown_value numerator positive (exponentFor numerator denominator)
  have total : ((scaleDown numerator denominator (exponentFor numerator denominator)).1 : ℚ) *
      2 ^ exponentFor numerator denominator = numerator / denominator *
        (scaleDown numerator denominator (exponentFor numerator denominator)).2 := by
    rw [scaled]
    have : (2 : ℚ) ^ exponentFor numerator denominator ≠ 0 := by positivity
    field_simp
  have bounds {bound : ℚ} (isBound : IsValue bound) := bounds_of_round low
    (fun _ => multiple_le_round scaledPositive total) (fun _ => round_le_multiple scaledPositive total) isBound
  rw [isNumber]
  refine ⟨⟨_, _, rfl⟩, fun isBound le => isValue ▸ (bounds isBound).1 le,
    fun isBound le => isValue ▸ (bounds isBound).2 le, ?_⟩
  rw [isValue]
  exact (abs_round_sub_le scaledPositive total).trans (half_unit_le (by positivity) low)

/-- A rational that is not negative is rounded to a number nearest to it. -/
theorem nearest_ofRat {value : ℚ} (nonneg : 0 ≤ value) (small : value < 2 ^ (1023 : Int)) :
    Nearest value (ofRat value) := by
  have isValue : (value.num.natAbs / value.den : ℚ) = value := by
    rw [Nat.cast_natAbs, abs_of_nonneg (Rat.num_nonneg.mpr nonneg), Rat.num_div_den]
  have nearest := nearest_ofRatio value.num.natAbs value.den_pos (isValue.symm ▸ small)
  rw [ofRat, decide_eq_false (not_lt.mpr (Rat.num_nonneg.mpr nonneg))]
  rwa [isValue] at nearest

/-! ## Rounding to decimal places -/

/-- Rounding a number to decimal places rounds its units to a natural. -/
theorem roundPlaces_finite (significand places : Nat) (exponent : Int) :
    ∃ top bottom : Nat, 0 < bottom ∧
      (top : ℚ) = (finite false significand exponent).toRat * 10 ^ places * bottom ∧
      (finite false significand exponent).roundPlaces places =
        ofRatio false (roundHalfEven top bottom) (10 ^ places) := by
  obtain ⟨positive, scaled⟩ := scaleDown_value (significand * 10 ^ places) one_pos (-exponent)
  refine ⟨_, _, positive, ?_, rfl⟩
  rw [scaled, toRat_finite, zpow_neg, div_inv_eq_mul]
  push_cast
  ring

/-- Rounding to decimal places keeps bounds that have as many places and are values. -/
theorem bounds_roundPlaces {number : Binary64} (places low high : Nat)
    (isNumber : ∃ significand exponent, number = .finite false significand exponent)
    (isLow : IsValue (low / 10 ^ places)) (isHigh : IsValue (high / 10 ^ places))
    (small : (high / 10 ^ places : ℚ) < 2 ^ (1023 : Int))
    (above : low / 10 ^ places ≤ number.toRat) (below : number.toRat ≤ high / 10 ^ places) :
    low / 10 ^ places ≤ (number.roundPlaces places).toRat ∧
      (number.roundPlaces places).toRat ≤ high / 10 ^ places := by
  obtain ⟨significand, exponent, rfl⟩ := isNumber
  obtain ⟨top, bottom, positive, isTop, isRounded⟩ := roundPlaces_finite significand places exponent
  have tens : (0 : ℚ) < 10 ^ places := by positivity
  have bottomPositive : (0 : ℚ) < bottom := by exact_mod_cast positive
  rw [div_le_iff₀ tens] at above
  rw [le_div_iff₀ tens] at below
  have lowUnits : low ≤ roundHalfEven top bottom := by
    refine le_roundHalfEven_of_le positive ?_
    have : (low * bottom : ℚ) ≤ top := isTop ▸ mul_le_mul_of_nonneg_right above bottomPositive.le
    exact_mod_cast this
  have highUnits : roundHalfEven top bottom ≤ high := by
    refine roundHalfEven_le_of_le positive ?_
    have : (top : ℚ) ≤ high * bottom := isTop ▸ mul_le_mul_of_nonneg_right below bottomPositive.le
    exact_mod_cast this
  have isLess : ((roundHalfEven top bottom : Nat) / (10 ^ places : Nat) : ℚ) ≤ high / 10 ^ places := by
    push_cast
    gcongr
  have isMore : (low / 10 ^ places : ℚ) ≤ (roundHalfEven top bottom : Nat) / (10 ^ places : Nat) := by
    push_cast
    gcongr
  have nearest := nearest_ofRatio (roundHalfEven top bottom) (pow_pos (by decide) places) (isLess.trans_lt small)
  rw [isRounded]
  exact ⟨nearest.atLeast isLow isMore, nearest.atMost isHigh isLess⟩

end RepoSurvey.Number.Binary64

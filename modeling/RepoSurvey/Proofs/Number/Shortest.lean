import RepoSurvey.Proofs.Number.Nearest

/-!
# Shortest decimals

The decimal that is found for a number lies in the number's interval, so that it reads back as the number:
every hit does, and the finest grids that are tried always have one. That no decimal of fewer digits reads
back is not claimed here.
-/

namespace RepoSurvey.Number

open Binary64 (Canonical Near quartersBelow)

namespace Decimal

/-- The rational that a decimal stands for. -/
def value (decimal : Decimal) : ℚ := decimal.digits * 10 ^ decimal.exponent

/-- Zeros that are moved into the exponent do not change the value. -/
@[simp] theorem value_trimZeros (fuel : Nat) (decimal : Decimal) :
    (trimZeros fuel decimal).value = decimal.value := by
  induction fuel generalizing decimal with
  | zero => rfl
  | succ fuel inductionHypothesis =>
    unfold trimZeros
    split
    · rename_i found
      rw [inductionHypothesis]
      have whole : decimal.digits = decimal.digits / 10 * 10 := by omega
      have cast : (decimal.digits : ℚ) = (decimal.digits / 10 : Nat) * 10 := by exact_mod_cast whole
      rw [value, value, cast, zpow_add_one₀ (by norm_num)]
      push_cast
      ring
    · rfl

/-! ## Placements -/

/-- A quarter of a number's unit on a grid. -/
def gridUnit (exponent gridExponent : Int) : Nat :=
  2 ^ (exponent - 2).toNat * 10 ^ (-gridExponent).toNat

/-- The step of a grid on it. -/
def gridStep (exponent gridExponent : Int) : Nat :=
  2 ^ (2 - exponent).toNat * 10 ^ gridExponent.toNat

variable {significand : Nat} {exponent gridExponent : Int}

/-- A number is placed on a grid together with the ends of its interval. -/
theorem place_eq : place significand exponent gridExponent =
    { lower := (4 * significand - quartersBelow significand exponent) * gridUnit exponent gridExponent
      value := 4 * significand * gridUnit exponent gridExponent
      upper := (4 * significand + 2) * gridUnit exponent gridExponent
      scale := gridStep exponent gridExponent } := rfl

/-- The step of a grid is positive. -/
theorem gridStep_pos : 0 < gridStep exponent gridExponent := by
  unfold gridStep
  positivity

/-- How the units of a number and of a grid go into each other. -/
theorem gridUnit_gridStep (exponent gridExponent : Int) :
    (gridUnit exponent gridExponent : ℚ) * (4 * 10 ^ gridExponent) =
      gridStep exponent gridExponent * 2 ^ exponent := by
  have twos : (2 : ℚ) ^ (exponent - 2).toNat * 4 = 2 ^ (2 - exponent).toNat * 2 ^ exponent := by
    rw [← zpow_natCast, ← zpow_natCast, ← zpow_add₀ two_ne_zero,
      show (4 : ℚ) = 2 ^ (2 : Int) by norm_num, ← zpow_add₀ two_ne_zero]
    congr 1
    omega
  have tens : (10 : ℚ) ^ (-gridExponent).toNat * 10 ^ gridExponent = 10 ^ gridExponent.toNat := by
    rw [← zpow_natCast, ← zpow_natCast, ← zpow_add₀ (by norm_num)]
    congr 1
    omega
  unfold gridUnit gridStep
  push_cast
  calc (2 : ℚ) ^ (exponent - 2).toNat * 10 ^ (-gridExponent).toNat * (4 * 10 ^ gridExponent)
      = 2 ^ (exponent - 2).toNat * 4 * (10 ^ (-gridExponent).toNat * 10 ^ gridExponent) := by ring
    _ = 2 ^ (2 - exponent).toNat * 10 ^ gridExponent.toNat * 2 ^ exponent := by
      rw [twos, tens]
      ring

/-- Quarters of the unit and points, measured on the grid and in fact. -/
theorem units_steps_scale (quarters point : Nat) :
    ((quarters * gridUnit exponent gridExponent : Nat) : ℚ) * (4 * 10 ^ gridExponent) =
        quarters * 2 ^ exponent * gridStep exponent gridExponent ∧
      ((point * gridStep exponent gridExponent : Nat) : ℚ) * (4 * 10 ^ gridExponent) =
        4 * (point * 10 ^ gridExponent) * gridStep exponent gridExponent := by
  have related := gridUnit_gridStep exponent gridExponent
  push_cast
  constructor
  · rw [mul_assoc, related]
    ring
  · ring

/-- What is measured on the grid is ordered as it is in fact. -/
theorem le_iff_of_scale {left right : Nat} {leftFact rightFact : ℚ}
    (leftScale : (left : ℚ) * (4 * 10 ^ gridExponent) = leftFact * gridStep exponent gridExponent)
    (rightScale : (right : ℚ) * (4 * 10 ^ gridExponent) = rightFact * gridStep exponent gridExponent) :
    left ≤ right ↔ leftFact ≤ rightFact := by
  have step : (0 : ℚ) < gridStep exponent gridExponent := by exact_mod_cast gridStep_pos
  have tens : (0 : ℚ) < 4 * 10 ^ gridExponent := by positivity
  rw [← Nat.cast_le (α := ℚ), ← mul_le_mul_iff_left₀ tens, leftScale, rightScale, mul_le_mul_iff_left₀ step]

/-- A point lies above some quarters of the unit on the grid when it does so in fact. -/
theorem units_le_steps {quarters point : Nat} :
    quarters * gridUnit exponent gridExponent ≤ point * gridStep exponent gridExponent ↔
      (quarters : ℚ) * 2 ^ exponent ≤ 4 * (point * 10 ^ gridExponent) := by
  obtain ⟨units, steps⟩ := @units_steps_scale exponent gridExponent quarters point
  exact le_iff_of_scale units steps

/-- A point lies below some quarters of the unit on the grid when it does so in fact. -/
theorem steps_le_units {quarters point : Nat} :
    point * gridStep exponent gridExponent ≤ quarters * gridUnit exponent gridExponent ↔
      4 * (point * 10 ^ gridExponent : ℚ) ≤ quarters * 2 ^ exponent := by
  obtain ⟨units, steps⟩ := @units_steps_scale exponent gridExponent quarters point
  exact le_iff_of_scale steps units

/-- A point that is accepted is near the number. -/
theorem near_of_accepts {point : Nat} (positive : 0 < significand)
    (accepts : (place significand exponent gridExponent).accepts (significand % 2 = 0) point = true) :
    Near significand exponent (point * 10 ^ gridExponent) := by
  have below : quartersBelow significand exponent ≤ 4 * significand := by
    unfold quartersBelow
    split <;> omega
  have quarters : ((4 * significand - quartersBelow significand exponent : Nat) : ℚ) =
      4 * significand - quartersBelow significand exponent := by
    push_cast [Nat.cast_sub below]
    rfl
  have upper : ((4 * significand + 2 : Nat) : ℚ) = 4 * significand + 2 := by push_cast; rfl
  rw [place_eq] at accepts
  by_cases even : significand % 2 = 0
  · simp only [Placement.accepts, even, decide_true, if_true, Bool.and_eq_true, decide_eq_true_eq,
      units_le_steps, steps_le_units, quarters, upper] at accepts
    exact ⟨accepts.1, accepts.2, fun odd => by omega⟩
  · simp only [Placement.accepts, even, decide_false, Bool.false_eq_true, if_false,
      Bool.and_eq_true, decide_eq_true_eq, ← not_le, units_le_steps, steps_le_units, quarters,
      upper] at accepts
    obtain ⟨low, high⟩ := accepts
    rw [not_le] at low high
    exact ⟨low.le, high.le, fun _ => ⟨low, high⟩⟩

/-! ## Hits -/

/-- The point that is hit is accepted. -/
theorem accepts_of_nearest? {placement : Placement} {closed : Bool} {point : Nat}
    (hit : placement.nearest? closed = some point) : placement.accepts closed point = true := by
  simp only [Placement.nearest?] at hit
  cases down : (decide (0 < placement.value / placement.scale) &&
      placement.accepts closed (placement.value / placement.scale)) <;>
    cases up : placement.accepts closed (placement.value / placement.scale + 1) <;>
    simp only [down, up] at hit
  · cases hit
  · obtain rfl := Option.some.inj hit
    exact up
  · obtain rfl := Option.some.inj hit
    exact (Bool.and_eq_true _ _ ▸ down).2
  · have accepted := (Bool.and_eq_true _ _ ▸ down).2
    split at hit
    · obtain rfl := Option.some.inj hit
      exact accepted
    · split at hit
      · obtain rfl := Option.some.inj hit
        exact up
      · split at hit <;> obtain rfl := Option.some.inj hit
        · exact accepted
        · exact up

/-- A grid with a step of less than half the unit has a hit. -/
theorem isSome_nearest? (fine : gridStep exponent gridExponent < 2 * gridUnit exponent gridExponent)
    (closed : Bool) : ((place significand exponent gridExponent).nearest? closed).isSome = true := by
  have positive : 0 < gridStep exponent gridExponent := gridStep_pos
  have up : (place significand exponent gridExponent).accepts closed
      ((place significand exponent gridExponent).value /
        (place significand exponent gridExponent).scale + 1) = true := by
    rw [place_eq]
    dsimp only
    generalize gridUnit exponent gridExponent = unit at *
    generalize gridStep exponent gridExponent = step at *
    have division := Nat.div_add_mod (4 * significand * unit) step
    have small := Nat.mod_lt (4 * significand * unit) positive
    have above : (4 * significand * unit / step + 1) * step =
        step * (4 * significand * unit / step) + step := by ring
    have lower : (4 * significand - quartersBelow significand exponent) * unit ≤
        4 * significand * unit := Nat.mul_le_mul_right _ (Nat.sub_le _ _)
    have upper : (4 * significand + 2) * unit = 4 * significand * unit + 2 * unit := by ring
    cases closed <;>
      simp only [Placement.accepts, Bool.false_eq_true, if_true, if_false, Bool.and_eq_true,
        decide_eq_true_eq] <;> omega
  simp only [Placement.nearest?, up]
  split
  · split_ifs <;> rfl
  · rfl
  · rfl
  · contradiction

/-- The finest grid that is tried for a number of 53 bits has a step of less than half the unit, whatever
the power. -/
theorem finest_fine : ∀ index < 2046,
    gridStep ((index : Nat) - 1074) (((index - 1074 + 52 : Int) * 1233 / 4096) - 21) <
      2 * gridUnit ((index : Nat) - 1074) (((index - 1074 + 52 : Int) * 1233 / 4096) - 21) := by
  decide +kernel

/-- Coarser grids have greater steps. -/
theorem fine_of_le {coarser finer : Int} (le : finer ≤ coarser)
    (fine : gridStep exponent coarser < 2 * gridUnit exponent coarser) :
    gridStep exponent finer < 2 * gridUnit exponent finer := by
  have fineIff (grid : Int) : gridStep exponent grid < 2 * gridUnit exponent grid ↔
      4 * ((1 : Nat) * 10 ^ grid : ℚ) < (2 : Nat) * 2 ^ exponent := by
    rw [← not_le, ← not_le, ← units_le_steps, Nat.one_mul]
  rw [fineIff] at fine ⊢
  have tens : (10 : ℚ) ^ finer ≤ 10 ^ coarser := zpow_le_zpow_right₀ (by norm_num) le
  push_cast at fine ⊢
  linarith

/-- A search that comes upon a grid with a hit ends near the number. -/
theorem near_search {fuel : Nat} (positive : 0 < significand)
    (hit : ∃ index < fuel, ((place significand exponent (gridExponent - index)).nearest?
      (significand % 2 = 0)).isSome = true) :
    Near significand exponent (search significand exponent fuel gridExponent).value := by
  induction fuel generalizing gridExponent with
  | zero =>
    obtain ⟨index, impossible, -⟩ := hit
    exact absurd impossible (Nat.not_lt_zero index)
  | succ fuel inductionHypothesis =>
    unfold search
    split
    · rename_i point found
      rw [value_trimZeros]
      exact near_of_accepts positive (accepts_of_nearest? found)
    · rename_i missed
      refine inductionHypothesis ?_
      obtain ⟨index, below, isHit⟩ := hit
      cases index with
      | zero =>
        rw [Nat.cast_zero, sub_zero, missed] at isHit
        cases isHit
      | succ index =>
        refine ⟨index, by omega, ?_⟩
        rwa [show gridExponent - 1 - (index : Int) = gridExponent - (index + 1 : Nat) by
          push_cast; ring]

/-- The shortest decimal of a number reads back as the number. -/
theorem near_shortest (canonical : Canonical significand exponent) (positive : 0 < significand) :
    Near significand exponent (shortest significand exponent).value := by
  obtain ⟨bits, least, greatest, -⟩ := canonical
  refine near_search positive ⟨23, by decide, isSome_nearest? ?_ _⟩
  have few : Nat.log2 significand ≤ 52 := by
    have := (Nat.log2_lt positive.ne').mpr bits
    omega
  have fine := finest_fine (exponent + 1074).toNat (by
    unfold Binary64.greatestExponent at greatest
    omega)
  have same : (((exponent + 1074).toNat : Nat) : Int) - 1074 = exponent := by
    unfold Binary64.leastExponent at least
    omega
  rw [same] at fine
  refine fine_of_le ?_ fine
  have : ((Nat.log2 significand : Int) + exponent) * 1233 / 4096 ≤ (exponent + 52) * 1233 / 4096 :=
    Int.ediv_le_ediv (by decide) (by omega)
  push_cast
  omega

end Decimal

/-- The shortest decimal of a number is rounded to the number. -/
theorem Binary64.ofDecimal_shortest {significand : Nat} {exponent : Int}
    (canonical : Canonical significand exponent) (positive : 0 < significand) (negative : Bool) :
    ofDecimal negative (Decimal.shortest significand exponent).digits
      (Decimal.shortest significand exponent).exponent = .finite negative significand exponent :=
  ofDecimal_of_near canonical positive (Decimal.near_shortest canonical positive)

end RepoSurvey.Number

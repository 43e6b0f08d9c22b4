import Mathlib.Algebra.Order.Field.Power
import Mathlib.Data.Int.Log
import Mathlib.Data.Rat.Floor
import Mathlib.Tactic.FieldSimp
import Mathlib.Tactic.Linarith
import Mathlib.Tactic.Positivity
import Mathlib.Tactic.Ring
import TypedRoutes.Decimal.Ratio
import TypedRoutes.Proofs.Decimal.Digits

/-! Ratios as rational numbers: their scaling, their rounding to whole numbers, and the powers of
two and ten below them. -/

namespace TypedRoutes

/-- A power of a base with a greater exponent is a multiple of one with a smaller exponent. -/
theorem exists_shift {base : Nat} (proper : 0 < base) {low high : Int} (ordered : low ≤ high) :
    ∃ shift : Nat, high = low + shift ∧ ∀ coefficient : Nat,
      (coefficient : ℚ) * (base : ℚ) ^ high =
        (coefficient * base ^ shift : Nat) * (base : ℚ) ^ low := by
  -- The exponents are so many steps apart, and each step is a factor.
  have nonzero : (base : ℚ) ≠ 0 := by exact_mod_cast proper.ne'
  obtain ⟨shift, same⟩ := Int.eq_ofNat_of_zero_le (sub_nonneg.mpr ordered)
  have split : high = low + shift := by omega
  refine ⟨shift, split, fun coefficient => ?_⟩
  rw [split, zpow_add₀ nonzero, zpow_natCast]
  push_cast
  ring

/-- Between two numbers that are equally near, everything is nearer. -/
theorem abs_sub_lt_of_inside {value low high inner : ℚ} (same : |value - low| = |value - high|)
    (above : low < inner) (below : inner < high) : |value - inner| < |value - low| := by
  -- The number is in the middle of the two.
  have middle : value - low = -(value - high) :=
    (abs_eq_abs.mp same).resolve_left fun equal => by linarith
  rw [abs_of_pos (by linarith : 0 < value - low), abs_lt]
  constructor
  · linarith
  · linarith

namespace Ratio

/-- The rational number. -/
def value (ratio : Ratio) : ℚ :=
  ratio.numerator / ratio.denominator

variable (ratio : Ratio)

/-- Denominators are positive as rational numbers, too. -/
theorem denominator_pos : (0 : ℚ) < ratio.denominator := by
  exact_mod_cast ratio.positive

/-- A ratio with a numerator is above zero. -/
theorem value_pos (positive : ratio.numerator ≠ 0) : 0 < ratio.value := by
  -- Both parts are positive.
  have numerator : (0 : ℚ) < ratio.numerator := by exact_mod_cast Nat.pos_of_ne_zero positive
  exact div_pos numerator ratio.denominator_pos

/-- A ratio above zero has a numerator. -/
theorem numerator_ne_zero (positive : 0 < ratio.value) : ratio.numerator ≠ 0 := by
  -- Without one the ratio would be zero.
  intro none
  rw [value, none, Nat.cast_zero, zero_div] at positive
  exact lt_irrefl _ positive

/-- Scaling multiplies by a power. -/
theorem value_scale {base : Nat} (proper : 0 < base) (exponent : Int) :
    (ratio.scale proper exponent).value = ratio.value * (base : ℚ) ^ exponent := by
  -- A power with a negative exponent goes into the denominator.
  have positive : (base : ℚ) ≠ 0 := by exact_mod_cast proper.ne'
  have denominator := ratio.denominator_pos.ne'
  cases exponent with
  | ofNat power =>
    simp only [scale, value, Nat.pow_eq, Nat.cast_mul, Nat.cast_pow, Int.ofNat_eq_natCast,
      zpow_natCast]
    ring
  | negSucc power =>
    simp only [scale, value, Nat.pow_eq, Nat.cast_mul, Nat.cast_pow, zpow_negSucc]
    field_simp

/-- A whole number is scaled as a ratio over one. -/
theorem value_ofScaled (whole : Nat) {base : Nat} (proper : 0 < base) (exponent : Int) :
    (ofScaled whole proper exponent).value = whole * (base : ℚ) ^ exponent := by
  rw [ofScaled, value_scale, value, Nat.cast_one, div_one]

/-- A ratio is its floor and what is above that. -/
theorem value_eq : ratio.value = ratio.floor + ratio.excess / ratio.denominator := by
  -- The division leaves the excess as its remainder.
  have denominator := ratio.denominator_pos.ne'
  have division : (ratio.denominator : ℚ) * ratio.floor + ratio.excess = ratio.numerator := by
    exact_mod_cast Nat.div_add_mod ratio.numerator ratio.denominator
  rw [value, ← division]
  field_simp

/-- The floor is not above the ratio. -/
theorem floor_le : (ratio.floor : ℚ) ≤ ratio.value := by
  -- What is above the floor is not negative.
  rw [value_eq]
  have excess : (0 : ℚ) ≤ ratio.excess / ratio.denominator := by positivity
  linarith

/-- The ratio is below the number that follows its floor. -/
theorem lt_floor_add_one : ratio.value < ratio.floor + 1 := by
  have below : (ratio.excess : ℚ) < ratio.denominator := by
    exact_mod_cast Nat.mod_lt ratio.numerator ratio.positive
  -- A remainder is less than what is divided by.
  have excess : (ratio.excess : ℚ) / ratio.denominator < 1 :=
    (div_lt_one ratio.denominator_pos).mpr below
  rw [value_eq]
  linarith

/-- Whether a ratio is nearer to its floor or to the number above that. -/
theorem half_excess_lt_iff :
    2 * ratio.excess < ratio.denominator ↔ ratio.value < ratio.floor + 1 / 2 := by
  -- The excess is compared with half of the denominator, in whole numbers and in rational ones.
  rw [value_eq, add_lt_add_iff_left, div_lt_iff₀ ratio.denominator_pos]
  constructor
  · intro less
    have cast : (2 : ℚ) * ratio.excess < ratio.denominator := by exact_mod_cast less
    linarith
  · intro less
    have cast : (2 : ℚ) * ratio.excess < ratio.denominator := by linarith
    exact_mod_cast cast

/-- A ratio is beyond the middle where twice the excess is more than the denominator. -/
theorem lt_half_excess_iff :
    ratio.denominator < 2 * ratio.excess ↔ ratio.floor + 1 / 2 < ratio.value := by
  -- This is the same comparison from the other side.
  rw [value_eq, add_lt_add_iff_left, lt_div_iff₀ ratio.denominator_pos]
  constructor
  · intro less
    have cast : (ratio.denominator : ℚ) < 2 * ratio.excess := by exact_mod_cast less
    linarith
  · intro less
    have cast : (ratio.denominator : ℚ) < 2 * ratio.excess := by linarith
    exact_mod_cast cast

/-- Rounding moves by at most a half, and by a half only to an even number. -/
theorem abs_sub_roundEven_le : |ratio.value - ratio.roundEven| ≤ 1 / 2 ∧
    (|ratio.value - ratio.roundEven| = 1 / 2 → Even ratio.roundEven) := by
  have low := ratio.floor_le
  have high := ratio.lt_floor_add_one
  unfold roundEven
  dsimp only
  -- Twice the excess says on which side of the middle the ratio is.
  split
  -- Below the middle the floor is taken.
  · rename_i near
    have less := ratio.half_excess_lt_iff.mp near
    rw [abs_of_nonneg (by linarith)]
    exact ⟨by linarith, fun half => by linarith⟩
  · rename_i near
    rw [half_excess_lt_iff, not_lt] at near
    split
    · rename_i far
      have more := ratio.lt_half_excess_iff.mp far
      push_cast
      rw [abs_of_nonpos (by linarith)]
      exact ⟨by linarith, fun half => by linarith⟩
    -- In the middle the parity decides.
    · rename_i far
      rw [lt_half_excess_iff, not_lt] at far
      have middle : ratio.value = ratio.floor + 1 / 2 := le_antisymm far near
      split
      · rename_i even
        refine ⟨?_, fun _ => Nat.even_iff.mpr even⟩
        rw [middle, add_sub_cancel_left, abs_of_pos one_half_pos]
      · rename_i odd
        refine ⟨?_, fun _ => Nat.even_iff.mpr (by omega)⟩
        push_cast
        rw [middle, abs_of_nonpos (by linarith)]
        linarith

/-- No whole number is nearer than the rounded one, and one that is as near leaves an even one. -/
theorem abs_sub_roundEven_le_abs_sub (whole : Nat) :
    |ratio.value - ratio.roundEven| ≤ |ratio.value - whole| ∧
      (|ratio.value - ratio.roundEven| = |ratio.value - whole| → whole ≠ ratio.roundEven →
        Even ratio.roundEven) := by
  -- The rounded number is at most a half away, and any other is one away from it.
  obtain ⟨bound, even⟩ := ratio.abs_sub_roundEven_le
  by_cases same : whole = ratio.roundEven
  · exact ⟨by rw [same], fun _ other => absurd same other⟩
  -- Different whole numbers are one apart.
  · have apart : (1 : ℚ) ≤ |(whole : ℚ) - ratio.roundEven| := by
      have distinct : (whole : ℤ) - ratio.roundEven ≠ 0 := by omega
      exact_mod_cast Int.one_le_abs distinct
    have triangle : |(whole : ℚ) - ratio.roundEven| ≤
        |ratio.value - ratio.roundEven| + |ratio.value - whole| := by
      have sides := abs_sub_le (whole : ℚ) ratio.value ratio.roundEven
      rw [abs_sub_comm (whole : ℚ) ratio.value] at sides
      linarith
    exact ⟨by linarith, fun equal _ => even (by linarith)⟩

/-- Rounding does not pass whole numbers. -/
theorem roundEven_le {bound : Nat} (below : ratio.value ≤ bound) : ratio.roundEven ≤ bound := by
  -- Beyond the bound, the bound would be nearer.
  by_contra above
  have past : (bound : ℚ) < ratio.roundEven := by exact_mod_cast not_le.mp above
  have nearest := (ratio.abs_sub_roundEven_le_abs_sub bound).1
  rw [abs_of_nonpos (by linarith), abs_of_nonpos (by linarith)] at nearest
  linarith

/-- Rounding does not pass whole numbers from above either. -/
theorem le_roundEven {bound : Nat} (above : bound ≤ ratio.value) : bound ≤ ratio.roundEven := by
  -- Below the bound, the bound would be nearer.
  by_contra below
  have past : (ratio.roundEven : ℚ) < bound := by exact_mod_cast not_le.mp below
  have nearest := (ratio.abs_sub_roundEven_le_abs_sub bound).1
  rw [abs_of_nonneg (by linarith), abs_of_nonneg (by linarith)] at nearest
  linarith

/-! Logarithms. -/

/-- A logarithm is found between two powers. -/
theorem log_eq_of_bounds {base : Nat} (proper : 1 < base) {number : ℚ} {power : Int}
    (low : (base : ℚ) ^ power ≤ number) (high : number < (base : ℚ) ^ (power + 1)) :
    power = Int.log base number := by
  -- Both bounds say the same of the exponent and of the logarithm.
  have base_pos : (0 : ℚ) < base := by exact_mod_cast Nat.zero_lt_of_lt proper
  have positive : 0 < number := lt_of_lt_of_le (by positivity) low
  have lower := (Int.zpow_le_iff_le_log proper positive).mp low
  have upper := (Int.lt_zpow_iff_log_lt proper positive).mp high
  omega

/-- The floor is zero below one. -/
theorem floor_eq_zero_iff : ratio.floor = 0 ↔ ratio.value < 1 := by
  -- The floor is the only whole number within one below the ratio.
  have low := ratio.floor_le
  have high := ratio.lt_floor_add_one
  constructor
  · intro zero
    rw [zero, Nat.cast_zero, zero_add] at high
    exact high
  · intro small
    have less : (ratio.floor : ℚ) < 1 := by linarith
    exact Nat.lt_one_iff.mp (by exact_mod_cast less)

/-- The bits of a number say between which powers of two it is. -/
theorem log2_bounds {number : Nat} (positive : number ≠ 0) :
    (2 : ℚ) ^ (number.log2 : Int) ≤ number ∧ (number : ℚ) < 2 ^ ((number.log2 : Int) + 1) := by
  -- The bounds hold in natural numbers already.
  have low := Nat.log2_self_le positive
  have high : number < 2 ^ (number.log2 + 1) := Nat.lt_log2_self
  exact ⟨by exact_mod_cast low, by exact_mod_cast high⟩

/-- The greatest power of two that is not above a ratio is found. -/
theorem floorLog2_eq (positive : ratio.numerator ≠ 0) :
    ratio.floorLog2 = Int.log 2 ratio.value := by
  -- The bits of both parts leave two powers in question.
  have numerator := log2_bounds positive
  have denominator := log2_bounds ratio.positive.ne'
  unfold floorLog2
  dsimp only
  generalize (ratio.numerator.log2 : Int) = numeratorBits at numerator ⊢
  generalize (ratio.denominator.log2 : Int) = denominatorBits at denominator ⊢
  have two : (2 : ℚ) ≠ 0 := two_ne_zero
  have low : (2 : ℚ) ^ (numeratorBits - denominatorBits - 1) ≤ ratio.value := by
    rw [value, le_div_iff₀ ratio.denominator_pos]
    calc (2 : ℚ) ^ (numeratorBits - denominatorBits - 1) * ratio.denominator
        ≤ 2 ^ (numeratorBits - denominatorBits - 1) * 2 ^ (denominatorBits + 1) := by
          gcongr
          exact denominator.2.le
      _ = 2 ^ numeratorBits := by rw [← zpow_add₀ two]; congr 1; ring
      _ ≤ ratio.numerator := numerator.1
  have high : ratio.value < 2 ^ (numeratorBits - denominatorBits + 1) := by
    rw [value, div_lt_iff₀ ratio.denominator_pos]
    calc (ratio.numerator : ℚ) < 2 ^ (numeratorBits + 1) := numerator.2
      _ = 2 ^ (numeratorBits - denominatorBits + 1) * 2 ^ denominatorBits := by
        rw [← zpow_add₀ two]; congr 1; ring
      _ ≤ 2 ^ (numeratorBits - denominatorBits + 1) * ratio.denominator := by
        gcongr
        exact denominator.1
  -- The comparison with the greater one decides.
  have compared : (ratio.scale Nat.two_pos (-(numeratorBits - denominatorBits))).floor = 0 ↔
      ratio.value < 2 ^ (numeratorBits - denominatorBits) := by
    rw [floor_eq_zero_iff, value_scale, zpow_neg, ← div_eq_mul_inv, Nat.cast_ofNat,
      div_lt_one (by positivity)]
  split
  -- Below the power in question it is the one before it.
  · rename_i below
    refine log_eq_of_bounds (by decide) low ?_
    rw [sub_add_cancel]
    exact compared.mp below
  -- Otherwise it is the one in question.
  · rename_i above
    exact log_eq_of_bounds (by decide) (not_lt.mp (mt compared.mpr above)) high

/-- The greatest power of ten that is not above a ratio is found. -/
theorem floorLog10_eq (positive : ratio.numerator ≠ 0) :
    ratio.floorLog10 = Int.log 10 ratio.value := by
  -- A ratio above one and its inverse below one are measured by their digits.
  unfold floorLog10
  split
  -- The floor has as many digits as the ratio before the point.
  · rename_i large
    have filled : ratio.floor ≠ 0 := (Nat.div_pos large ratio.positive).ne'
    obtain ⟨length, same, low, high⟩ := exists_decimalLength filled
    rw [same, Nat.cast_add, Nat.cast_one, add_sub_cancel_right]
    apply log_eq_of_bounds (by decide)
    · calc ((10 : Nat) : ℚ) ^ (length : Int) ≤ ratio.floor := by exact_mod_cast low
        _ ≤ ratio.value := ratio.floor_le
    · calc ratio.value < ratio.floor + 1 := ratio.lt_floor_add_one
        _ ≤ ((10 : Nat) : ℚ) ^ ((length : Int) + 1) := by exact_mod_cast high
  -- Below one, the inverse says how far the first digit is behind the point.
  · rename_i small
    rw [not_le] at small
    let inverse := (ratio.denominator - 1) / ratio.numerator
    have numerator := Nat.pos_of_ne_zero positive
    have numerator_pos : (0 : ℚ) < ratio.numerator := by exact_mod_cast numerator
    have filled : inverse ≠ 0 := (Nat.div_pos (Nat.le_sub_one_of_lt small) numerator).ne'
    obtain ⟨length, same, low, high⟩ := exists_decimalLength filled
    -- The length of the inverse bounds the ratio from both sides.
    have below : ratio.numerator * 10 ^ length < ratio.denominator := by
      have product := (Nat.le_div_iff_mul_le numerator).mp low
      rw [Nat.mul_comm] at product
      omega
    have above : ratio.denominator ≤ ratio.numerator * 10 ^ (length + 1) := by
      have product := (Nat.div_lt_iff_lt_mul numerator).mp high
      rw [Nat.mul_comm] at product
      omega
    show -((decimalLength inverse : Nat) : Int) = _
    rw [same]
    apply log_eq_of_bounds (by decide)
    · calc (((10 : Nat) : ℚ) ^ (-((length + 1 : Nat) : Int)))
          = ratio.numerator / (ratio.numerator * 10 ^ (length + 1)) := by
            rw [zpow_neg, zpow_natCast, div_mul_cancel_left₀ numerator_pos.ne', Nat.cast_ofNat]
        _ ≤ ratio.numerator / ratio.denominator := by
            have denominator := ratio.denominator_pos
            gcongr
            exact_mod_cast above
    · have exponent : -((length + 1 : Nat) : Int) + 1 = -(length : Int) := by push_cast; ring
      calc (ratio.numerator : ℚ) / ratio.denominator
          < ratio.numerator / (ratio.numerator * 10 ^ length) := by
            gcongr
            exact_mod_cast below
        _ = ((10 : Nat) : ℚ) ^ (-((length + 1 : Nat) : Int) + 1) := by
            rw [exponent, zpow_neg, zpow_natCast, div_mul_cancel_left₀ numerator_pos.ne',
              Nat.cast_ofNat]

end Ratio

end TypedRoutes

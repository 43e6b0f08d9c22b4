import TypedRoutes.Decimal.Digits

/-! Exact ratios of natural numbers, with the powers of two and ten that bound them. -/

namespace TypedRoutes

/-- A ratio that need not be in lowest terms. -/
structure Ratio where
  numerator : Nat
  denominator : Nat
  /-- Division by zero is ruled out. -/
  positive : 0 < denominator

namespace Ratio

/-- Ten is a base. -/
theorem ten_pos : 0 < 10 := by decide

/-- The ratio times a power of a base. -/
def scale (ratio : Ratio) {base : Nat} (proper : 0 < base) (exponent : Int) : Ratio :=
  match exponent with
  | .ofNat power => ⟨ratio.numerator * Nat.pow base power, ratio.denominator, ratio.positive⟩
  | .negSucc power =>
    ⟨ratio.numerator, ratio.denominator * Nat.pow base (power + 1),
      Nat.mul_pos ratio.positive (Nat.pow_pos proper)⟩

/-- A whole number times a power of a base. -/
def ofScaled (value : Nat) {base : Nat} (proper : 0 < base) (exponent : Int) : Ratio :=
  scale ⟨value, 1, Nat.one_pos⟩ proper exponent

/-- The greatest whole number that is not above the ratio. -/
def floor (ratio : Ratio) : Nat :=
  ratio.numerator / ratio.denominator

/-- What the ratio has above its floor, in units of the denominator. -/
def excess (ratio : Ratio) : Nat :=
  ratio.numerator % ratio.denominator

/-- The nearest whole number; of two that are equally near, the even one. -/
def roundEven (ratio : Ratio) : Nat :=
  let low := ratio.floor
  let double := 2 * ratio.excess
  if double < ratio.denominator then low
  else if ratio.denominator < double then low + 1
  else if low % 2 = 0 then low
  else low + 1

/-- The greatest power of two that is not above a positive ratio. -/
def floorLog2 (ratio : Ratio) : Int :=
  let estimate : Int := (Nat.log2 ratio.numerator : Int) - (Nat.log2 ratio.denominator : Int)
  -- The estimate is exact or one too high.
  if (ratio.scale Nat.two_pos (-estimate)).floor = 0 then estimate - 1 else estimate

/-- The greatest power of ten that is not above a positive ratio. -/
def floorLog10 (ratio : Ratio) : Int :=
  if ratio.denominator ≤ ratio.numerator then (decimalLength ratio.floor : Int) - 1
  else
    -- The least power of ten that lifts the ratio to one is that of the inverse, rounded up.
    -((decimalLength ((ratio.denominator - 1) / ratio.numerator) : Nat) : Int)

end Ratio

end TypedRoutes

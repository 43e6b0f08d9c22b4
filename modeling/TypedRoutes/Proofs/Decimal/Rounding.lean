import TypedRoutes.Decimal.Binary
import TypedRoutes.Proofs.Decimal.Ratio

/-! Binary formats: which numbers they have, what it means that an exact number is rounded to one of
them, and that the rounding finds it. -/

namespace TypedRoutes

/-- The exact number. -/
def Binary.value (number : Binary) : ℚ :=
  number.significand * 2 ^ number.exponent

/-- The ratio of a number is the number. -/
theorem Binary.value_ratio (number : Binary) : number.ratio.value = number.value := by
  -- The significand is scaled by the power of two.
  rw [ratio, Ratio.value_ofScaled, value, Nat.cast_ofNat]

namespace BinaryFormat

/-- A number of the format, as far as its exponent is not too great. Each number is written in one
way: the significand has its full length, unless the exponent is the least. -/
structure Wide (format : BinaryFormat) (number : Binary) : Prop where
  /-- The significand has not too many bits. -/
  short : number.significand < 2 ^ format.precision
  /-- The exponent is not too small. -/
  low : format.least ≤ number.exponent
  /-- The significand could not have more bits with a smaller exponent. -/
  full : number.exponent = format.least ∨ 2 ^ (format.precision - 1) ≤ number.significand

/-- The number that is closest to an exact one, if exponents may be great. Of two that are equally
close, it is the one whose significand is even. -/
structure Closest (format : BinaryFormat) (value : ℚ) (number : Binary) : Prop where
  wide : format.Wide number
  /-- No other number is closer. -/
  nearest : ∀ other, format.Wide other → |value - number.value| ≤ |value - other.value|
  /-- Where another one is as close, this one is even. -/
  even : ∀ other, format.Wide other → other ≠ number →
    |value - number.value| = |value - other.value| → Even number.significand

/-- An exact number is rounded to a finite number: to the nearest one, ties to even. What would need
an exponent that is too great is rounded to no finite number. -/
structure RoundsTo (format : BinaryFormat) (value : ℚ) (number : Binary) : Prop extends
    format.Closest value number where
  /-- The exponent is not too great. -/
  finite : number.exponent ≤ format.greatest

/-- What is needed of the parameters of a format. -/
structure Proper (format : BinaryFormat) : Prop where
  /-- Significands have at least two bits. -/
  bits : 2 ≤ format.precision
  /-- There are numbers below one. -/
  small : format.least ≤ 0
  /-- There are numbers above one half. -/
  large : 0 ≤ format.greatest + format.precision
  /-- There are exponents. -/
  ordered : format.least ≤ format.greatest
  /-- So many digits tell the numbers apart. -/
  apart : 2 ^ format.precision < 10 ^ (format.digits - 1)

/-- The parameters of the format of 32 bits are as they should be. -/
theorem proper_single : single.Proper :=
  ⟨by decide, by decide, by decide, by decide, by decide⟩

/-- So are those of the format of 64 bits. -/
theorem proper_double : double.Proper :=
  ⟨by decide, by decide, by decide, by decide, by decide⟩

variable {format : BinaryFormat}

/-- Powers of two are positive. -/
theorem two_zpow_pos (exponent : Int) : (0 : ℚ) < 2 ^ exponent := by
  positivity

/-- One bit more doubles the bound of the significands. -/
theorem Proper.two_pow (proper : format.Proper) :
    2 ^ format.precision = 2 * 2 ^ (format.precision - 1) := by
  -- There are at least two bits, so one can be taken away.
  obtain ⟨bits, same⟩ := Nat.exists_eq_add_of_le' (Nat.le_of_succ_le proper.bits)
  rw [same, Nat.add_sub_cancel, pow_succ, Nat.mul_comm]

/-- A bit of the significand is worth one in the exponent. -/
theorem Proper.shift (proper : format.Proper) (exponent : Int) :
    (2 : ℚ) ^ (format.precision - 1) * 2 ^ (exponent + 1) = 2 ^ format.precision * 2 ^ exponent := by
  -- Both sides are a power of two, split in two ways.
  have double : (2 : ℚ) ^ format.precision = 2 * 2 ^ (format.precision - 1) := by
    exact_mod_cast proper.two_pow
  rw [double, zpow_add_one₀ two_ne_zero]
  ring

/-- A full significand is above all significands with a smaller exponent. -/
theorem Proper.shift_le (proper : format.Proper) {low high : Int} (less : low < high) :
    (2 : ℚ) ^ format.precision * 2 ^ low ≤ 2 ^ (format.precision - 1) * 2 ^ high := by
  -- It is enough to compare with the next exponent.
  have ordered : (2 : ℚ) ^ (low + 1) ≤ 2 ^ high := zpow_le_zpow_right₀ one_le_two less
  rw [← proper.shift]
  gcongr

/-! Order of the numbers. -/

namespace Wide

variable {number other : Binary}

/-- A number is below the bound of the significands at its exponent. -/
theorem value_lt (wide : format.Wide number) :
    number.value < 2 ^ format.precision * 2 ^ number.exponent := by
  -- The significand is below its bound.
  have short : (number.significand : ℚ) < 2 ^ format.precision := by exact_mod_cast wide.short
  unfold Binary.value
  gcongr

/-- A number with a greater exponent is a multiple of the power that belongs to a smaller one. -/
theorem exists_multiple {exponent : Int} (above : exponent ≤ number.exponent) :
    ∃ count : Nat, number.value = count * 2 ^ exponent := by
  -- The bits by which the exponents differ are moved into the significand.
  obtain ⟨shift, -, moved⟩ := exists_shift Nat.two_pos above
  exact ⟨number.significand * 2 ^ shift, moved number.significand⟩

/-- A number with a smaller exponent is below the least one that has a full significand. -/
theorem lt_of_exponent_lt (proper : format.Proper) (wide : format.Wide number) {exponent : Int}
    (below : number.exponent < exponent) :
    number.value < 2 ^ (format.precision - 1) * 2 ^ exponent :=
  wide.value_lt.trans_le (proper.shift_le below)

/-- With an exponent that is not the least, the significand is full. -/
theorem le_value_of_exponent_lt (wide : format.Wide number)
    (above : format.least < number.exponent) :
    2 ^ (format.precision - 1) * 2 ^ number.exponent ≤ number.value := by
  -- Only the least exponent allows for shorter significands.
  have full : (2 : ℚ) ^ (format.precision - 1) ≤ number.significand := by
    exact_mod_cast wide.full.resolve_left above.ne'
  unfold Binary.value
  gcongr

/-- Greater exponents belong to greater numbers. -/
theorem value_lt_of_exponent_lt (proper : format.Proper) (first : format.Wide number)
    (second : format.Wide other) (less : number.exponent < other.exponent) :
    number.value < other.value :=
  (first.lt_of_exponent_lt proper less).trans_le
    (second.le_value_of_exponent_lt (first.low.trans_lt less))

/-- A number is written in one way. -/
theorem eq_of_value_eq (proper : format.Proper) (first : format.Wide number)
    (second : format.Wide other) (same : number.value = other.value) : number = other := by
  -- The exponent is that of the value, and then so is the significand.
  rcases lt_trichotomy number.exponent other.exponent with less | equal | greater
  · exact absurd same (first.value_lt_of_exponent_lt proper second less).ne
  · obtain ⟨significand, exponent⟩ := number
    obtain ⟨otherSignificand, otherExponent⟩ := other
    dsimp only at equal
    subst equal
    have significands : (significand : ℚ) = otherSignificand :=
      mul_right_cancel₀ (two_zpow_pos exponent).ne' same
    rw [Nat.cast_injective significands]
  · exact absurd same.symm (second.value_lt_of_exponent_lt proper first greater).ne

/-- Different numbers are at least a unit of the last place apart, which is less by one bit where
the greater number is a power of two. -/
theorem le_distance (proper : format.Proper) (first : format.Wide number)
    (second : format.Wide other) (distinct : other ≠ number) :
    number.value ≤ 2 ^ format.precision * |number.value - other.value| := by
  -- The number with the smaller exponent decides how far apart two numbers can be.
  rcases le_or_gt number.exponent other.exponent with above | below
  -- Both are multiples of the same power.
  · obtain ⟨count, multiple⟩ := exists_multiple above
    have different : (number.significand : ℤ) - count ≠ 0 := by
      intro same
      have equal : number.significand = count := by omega
      refine distinct (second.eq_of_value_eq proper first ?_)
      rw [multiple, Binary.value, equal]
    have unit : (1 : ℚ) ≤ |(number.significand : ℚ) - count| := by
      exact_mod_cast Int.one_le_abs different
    calc number.value ≤ 2 ^ format.precision * 2 ^ number.exponent := first.value_lt.le
      _ ≤ 2 ^ format.precision * (|(number.significand : ℚ) - count| * 2 ^ number.exponent) := by
        gcongr
        exact le_mul_of_one_le_left (two_zpow_pos _).le unit
      _ = 2 ^ format.precision * |number.value - other.value| := by
        rw [multiple, Binary.value, ← sub_mul, abs_mul, abs_of_pos (two_zpow_pos _)]
  -- The other is smaller, and its significand has no more bits.
  · have less := second.value_lt_of_exponent_lt proper first below
    have short : (other.significand : ℚ) ≤ 2 ^ format.precision - 1 := by
      have whole : (other.significand : ℚ) + 1 ≤ 2 ^ format.precision := by
        exact_mod_cast second.short
      linarith
    have room : 2 ^ format.precision * 2 ^ other.exponent ≤ number.value :=
      (proper.shift_le below).trans (first.le_value_of_exponent_lt (second.low.trans_lt below))
    have bound : 2 ^ format.precision * other.value ≤
        (2 ^ format.precision - 1) * number.value := by
      calc 2 ^ format.precision * other.value
          = other.significand * (2 ^ format.precision * 2 ^ other.exponent) := by
            rw [Binary.value]
            ring
        _ ≤ (2 ^ format.precision - 1) * number.value :=
          mul_le_mul short room (by positivity) ((Nat.cast_nonneg _).trans short)
    rw [abs_of_pos (sub_pos.mpr less)]
    linarith

/-- Zero is written in one way. -/
theorem eq_zero (wide : format.Wide number) (none : number.significand = 0) :
    number = format.zero := by
  -- Zero has no bits, so its exponent must be the least.
  have least : number.exponent = format.least :=
    wide.full.resolve_right (by rw [none]; exact Nat.not_le.mpr (Nat.two_pow_pos _))
  exact congrArg₂ Binary.mk none least

/-- Above a number with an even significand, the next significand belongs to a number too. -/
theorem next (proper : format.Proper) (wide : format.Wide number) (even : Even number.significand) :
    format.Wide ⟨number.significand + 1, number.exponent⟩ := by
  -- The bound for significands is even, so the next significand is not the bound.
  obtain ⟨half, split⟩ := even
  have short := wide.short
  refine ⟨?_, wide.low, wide.full.imp id Nat.le_succ_of_le⟩
  rw [proper.two_pow] at short ⊢
  dsimp only
  omega

/-- What is above a number is not below the next significand. -/
theorem next_le (proper : format.Proper) (first : format.Wide number) (second : format.Wide other)
    (less : number.value < other.value) :
    (number.significand + 1) * 2 ^ number.exponent ≤ other.value := by
  -- The greater number has no smaller exponent, so it is a multiple of the same power.
  have above : number.exponent ≤ other.exponent := by
    by_contra below
    have more := second.value_lt_of_exponent_lt proper first (not_le.mp below)
    exact absurd less more.asymm
  obtain ⟨count, multiple⟩ := exists_multiple above
  rw [multiple] at less ⊢
  have more : (number.significand : ℚ) < count := lt_of_mul_lt_mul_right less (two_zpow_pos _).le
  have next : (number.significand : ℚ) + 1 ≤ count := by exact_mod_cast more
  gcongr

/-- At an exponent where an exact number has all bits, every other number of the format is a multiple
of the power, or some multiple is closer than it. -/
theorem exists_multiple_or_lt (proper : format.Proper) (wide : format.Wide number) {value : ℚ}
    {exponent : Int} (full : exponent = format.least ∨
      2 ^ (format.precision - 1) * 2 ^ exponent ≤ value) :
    ∃ count : Nat, number.value = count * 2 ^ exponent ∨
      |value - count * 2 ^ exponent| < |value - number.value| := by
  -- With a greater exponent a number is a multiple, and with a smaller one it is far below.
  rcases le_or_gt exponent number.exponent with above | below
  · obtain ⟨count, same⟩ := exists_multiple above
    exact ⟨count, Or.inl same⟩
  -- With a smaller exponent it is below the least full significand, which the exact number is not.
  · have reached := full.resolve_left (wide.low.trans_lt below).ne'
    have less := wide.lt_of_exponent_lt proper below
    refine ⟨2 ^ (format.precision - 1), Or.inr ?_⟩
    push_cast
    rw [abs_of_nonneg (by linarith), abs_of_nonneg (by linarith)]
    linarith

end Wide

/-! The closest number. -/

namespace Closest

variable {value : ℚ} {number other : Binary}

/-- Between two even numbers that are equally close there is an odd one, which is closer. -/
theorem value_le (proper : format.Proper) (first : format.Closest value number)
    (second : format.Closest value other) : other.value ≤ number.value := by
  -- If the other one were greater, the number that follows would be between the two.
  by_contra less
  rw [not_le] at less
  have distinct : other ≠ number := by
    rintro rfl
    exact lt_irrefl _ less
  have same : |value - number.value| = |value - other.value| :=
    le_antisymm (first.nearest other second.wide) (second.nearest number first.wide)
  have even := first.even other second.wide distinct same
  have odd := first.wide.next proper even
  -- It is above the smaller one, by one unit.
  have step : number.value < Binary.value ⟨number.significand + 1, number.exponent⟩ := by
    have unit := two_zpow_pos number.exponent
    simp only [Binary.value, Nat.cast_add, Nat.cast_one]
    linarith
  -- It is not above the greater one, since that is a number of the format too.
  have reach : Binary.value ⟨number.significand + 1, number.exponent⟩ ≤ other.value := by
    simpa [Binary.value] using first.wide.next_le proper second.wide less
  -- The odd one is not the greater of the two, which is even.
  have strict : Binary.value ⟨number.significand + 1, number.exponent⟩ < other.value := by
    refine lt_of_le_of_ne reach fun equal => ?_
    have found := odd.eq_of_value_eq proper second.wide equal
    have parity := second.even number first.wide distinct.symm same.symm
    rw [← found] at parity
    exact absurd even (Nat.even_add_one.mp parity)
  exact absurd (first.nearest _ odd) (not_le.mpr (abs_sub_lt_of_inside same step strict))

/-- There is one closest number. -/
theorem unique (proper : format.Proper) (first : format.Closest value number)
    (second : format.Closest value other) : number = other :=
  first.wide.eq_of_value_eq proper second.wide
    (le_antisymm (second.value_le proper first) (first.value_le proper second))

/-- What is between an exact number and its closest one has the same closest one. -/
theorem of_between (closest : format.Closest value number) {inner : ℚ}
    (between : |value - inner| + |inner - number.value| = |value - number.value|) :
    format.Closest inner number := by
  -- The way to another number is not shorter from a point on the way to the closest one.
  refine ⟨closest.wide, fun other wide => ?_, fun other wide distinct same => ?_⟩
  · have nearest := closest.nearest other wide
    have triangle := abs_sub_le value inner other.value
    linarith
  · have nearest := closest.nearest other wide
    have triangle := abs_sub_le value inner other.value
    exact closest.even other wide distinct (by linarith)

/-- A number is the closest one where all others are further away. -/
theorem of_further (wide : format.Wide number)
    (further : ∀ other, format.Wide other → other ≠ number →
      |value - number.value| < |value - other.value|) : format.Closest value number := by
  -- Every other number is further away, so there are no ties.
  refine ⟨wide, fun other second => ?_, fun other second distinct same => ?_⟩
  · by_cases same : other = number
    · rw [same]
    · exact (further other second same).le
  · exact absurd same (further other second distinct).ne

/-- A number is the closest one to what is near enough. -/
theorem of_near (proper : format.Proper) (wide : format.Wide number)
    (near : 2 ^ format.precision * (2 * |value - number.value|) < number.value) :
    format.Closest value number := by
  -- All others are more than twice as far from the number as the exact one is.
  have power : (0 : ℚ) < 2 ^ format.precision := by positivity
  refine of_further wide fun other second distinct => ?_
  have apart := wide.le_distance proper second distinct
  have twice := lt_of_mul_lt_mul_left (near.trans_le apart) power.le
  have triangle := abs_sub_le number.value value other.value
  rw [abs_sub_comm number.value value] at triangle
  linarith

/-- What is less than half of the smallest number is closest to zero. -/
theorem zero (low : 0 ≤ value) (high : 2 * value < 2 ^ format.least) :
    format.Closest value format.zero := by
  have wide : format.Wide format.zero := ⟨Nat.two_pow_pos _, le_rfl, Or.inl rfl⟩
  -- Every other number is at least the smallest one.
  refine of_further wide fun other second distinct => ?_
  have filled : other.significand ≠ 0 := fun none => distinct (second.eq_zero none)
  have one : (1 : ℚ) ≤ other.significand := by exact_mod_cast Nat.one_le_iff_ne_zero.mpr filled
  have above : (2 : ℚ) ^ format.least ≤ other.value :=
    calc (2 : ℚ) ^ format.least ≤ 2 ^ other.exponent := zpow_le_zpow_right₀ one_le_two second.low
      _ ≤ other.value := le_mul_of_one_le_left (two_zpow_pos _).le one
  have none : format.zero.value = 0 := by simp [Binary.value, BinaryFormat.zero]
  rw [none, sub_zero, abs_of_nonneg low, abs_of_neg (by linarith)]
  linarith

/-- A number that has all bits of a significand before the point, once it is scaled, is rounded by
rounding to a whole number. -/
theorem of_roundEven (proper : format.Proper) (wide : format.Wide number) {exponent : Int}
    {scaled : Ratio} (split : value = scaled.value * 2 ^ exponent)
    (full : exponent = format.least ∨ 2 ^ (format.precision - 1) * 2 ^ exponent ≤ value)
    (rounded : number.value = scaled.roundEven * 2 ^ exponent)
    (even : Even scaled.roundEven → Even number.significand) : format.Closest value number := by
  have unit := two_zpow_pos exponent
  have distance (count : Nat) :
      |value - count * 2 ^ exponent| = |scaled.value - count| * 2 ^ exponent := by
    rw [split, ← sub_mul, abs_mul, abs_of_pos unit]
  -- Whole numbers are compared at the scale where the rounding compares them.
  have nearest (count : Nat) :
      |value - number.value| ≤ |value - count * 2 ^ exponent| := by
    rw [rounded, distance, distance]
    exact mul_le_mul_of_nonneg_right (scaled.abs_sub_roundEven_le_abs_sub count).1 unit.le
  refine ⟨wide, fun other second => ?_, fun other second distinct same => ?_⟩
  -- Another number is a multiple too, or some multiple is closer than it.
  · obtain ⟨count, equal | less⟩ := second.exists_multiple_or_lt proper full
    · rw [equal]
      exact nearest count
    · exact (nearest count).trans less.le
  · obtain ⟨count, equal | less⟩ := second.exists_multiple_or_lt proper full
    -- As close as the rounded one is only another multiple, and then the rounded one is even.
    · apply even
      rw [equal, rounded, distance, distance] at same
      refine (scaled.abs_sub_roundEven_le_abs_sub count).2
        (mul_right_cancel₀ unit.ne' same) fun whole => ?_
      rw [whole] at equal
      exact distinct (second.eq_of_value_eq proper wide (equal.trans rounded.symm))
    · have bound := nearest count
      linarith

end Closest

/-! The rounding of a ratio. -/

/-- At its exponent a ratio has no more bits than the format, and no fewer, unless the exponent is
the least. -/
theorem exponentFor_bounds (proper : format.Proper) (ratio : Ratio)
    (filled : ratio.numerator ≠ 0) :
    ratio.value < 2 ^ format.precision * 2 ^ format.exponentFor ratio ∧
      (format.exponentFor ratio = format.least ∨
        2 ^ (format.precision - 1) * 2 ^ format.exponentFor ratio ≤ ratio.value) := by
  -- The exponent leaves the bits of the logarithm before the point, where it is not the least.
  have log := ratio.floorLog2_eq filled
  constructor
  · have room : ratio.floorLog2 + 1 ≤ format.precision + format.exponentFor ratio := by
      have bound : ratio.floorLog2 + 1 - format.precision ≤ format.exponentFor ratio :=
        le_max_right _ _
      omega
    calc ratio.value < ((2 : Nat) : ℚ) ^ (Int.log 2 ratio.value + 1) :=
          Int.lt_zpow_succ_log_self (by decide) _
      _ ≤ 2 ^ (format.precision + format.exponentFor ratio) := by
        rw [← log, Nat.cast_ofNat]
        exact zpow_le_zpow_right₀ one_le_two room
      _ = 2 ^ format.precision * 2 ^ format.exponentFor ratio := by
        rw [zpow_add₀ two_ne_zero, zpow_natCast]
  -- The exponent is the least one, or the one that leaves all bits before the point.
  · rcases max_choice format.least (ratio.floorLog2 + 1 - format.precision) with least | full
    · exact Or.inl least
    · right
      have same : format.exponentFor ratio = ratio.floorLog2 + 1 - format.precision := full
      have bits : ((format.precision - 1 : Nat) : Int) = format.precision - 1 := by
        have two := proper.bits
        omega
      calc (2 : ℚ) ^ (format.precision - 1) * 2 ^ format.exponentFor ratio
          = ((2 : Nat) : ℚ) ^ Int.log 2 ratio.value := by
            rw [← zpow_natCast, ← zpow_add₀ two_ne_zero, bits, same, ← log, Nat.cast_ofNat]
            congr 1
            ring
        _ ≤ ratio.value := Int.zpow_log_le_self (by decide) (ratio.value_pos filled)

/-- A significand that is rounded up beyond the bits of the format loses one. -/
theorem exists_carried (proper : format.Proper) {significand : Nat} {exponent : Int}
    (low : format.least ≤ exponent) (short : significand ≤ 2 ^ format.precision)
    (full : exponent = format.least ∨ 2 ^ (format.precision - 1) ≤ significand) (number : Binary)
    (carried : number = if significand = Nat.pow 2 format.precision then
      ⟨Nat.pow 2 (format.precision - 1), exponent + 1⟩ else ⟨significand, exponent⟩) :
    format.Wide number ∧ number.value = significand * 2 ^ exponent ∧
      (Even significand → Even number.significand) := by
  -- Only a full power of two has a bit too many.
  have bits := proper.bits
  split at carried
  · rename_i carry
    subst carried
    rw [Nat.pow_eq] at carry
    refine ⟨⟨?_, ?_, Or.inr le_rfl⟩, ?_, fun _ => ?_⟩
    · exact Nat.pow_lt_pow_right (by decide) (by omega)
    · exact low.trans (le_add_of_nonneg_right zero_le_one)
    · rw [Binary.value, carry, Nat.pow_eq, Nat.cast_pow, Nat.cast_pow, Nat.cast_ofNat, proper.shift]
    · exact Nat.even_pow.mpr ⟨even_two, by omega⟩
  -- Otherwise the significand is as it was.
  · rename_i inside
    subst carried
    exact ⟨⟨lt_of_le_of_ne short inside, low, full⟩, rfl, id⟩

/-- Rounding a ratio finds the closest number, and then looks at its exponent. -/
theorem exists_round? (proper : format.Proper) (ratio : Ratio) :
    ∃ number, format.Closest ratio.value number ∧
      format.round? ratio = if format.greatest < number.exponent then none else some number := by
  -- Zero is its own closest number; others are scaled, rounded to a whole number and carried.
  unfold round?
  split
  · rename_i none
    have zero : ratio.value = 0 := by rw [Ratio.value, none, Nat.cast_zero, zero_div]
    refine ⟨format.zero, ?_, (if_neg (not_lt.mpr proper.ordered)).symm⟩
    rw [zero]
    exact Closest.zero le_rfl (by simpa using two_zpow_pos format.least)
  · rename_i filled
    refine ⟨_, ?_, rfl⟩
    obtain ⟨short, full⟩ := exponentFor_bounds proper ratio filled
    have low : format.least ≤ format.exponentFor ratio := le_max_left _ _
    generalize format.exponentFor ratio = exponent at short full low ⊢
    have unit := two_zpow_pos exponent
    -- The ratio is scaled so that all bits stand before the point.
    have split : ratio.value = (ratio.scale Nat.two_pos (-exponent)).value * 2 ^ exponent := by
      rw [Ratio.value_scale, Nat.cast_ofNat, zpow_neg, inv_mul_cancel_right₀ unit.ne']
    generalize ratio.scale Nat.two_pos (-exponent) = scaled at split ⊢
    -- Rounding keeps the bounds.
    have upper : scaled.roundEven ≤ 2 ^ format.precision := by
      rw [split, mul_lt_mul_iff_left₀ unit] at short
      exact scaled.roundEven_le (by exact_mod_cast short.le)
    have lower : exponent = format.least ∨ 2 ^ (format.precision - 1) ≤ scaled.roundEven := by
      rw [split, mul_le_mul_iff_left₀ unit] at full
      exact full.imp id fun bound => scaled.le_roundEven (by exact_mod_cast bound)
    obtain ⟨wide, rounded, even⟩ := exists_carried proper low upper lower _ rfl
    exact Closest.of_roundEven proper wide split full rounded even

/-- A ratio is rounded to a number exactly where that is the nearest one and finite. -/
theorem round?_eq_some_iff (proper : format.Proper) {ratio : Ratio} {number : Binary} :
    format.round? ratio = some number ↔ format.RoundsTo ratio.value number := by
  -- There is one closest number, so the question is only whether it is finite.
  obtain ⟨found, closest, result⟩ := exists_round? proper ratio
  rw [result]
  constructor
  · intro same
    split at same
    · cases same
    · rename_i finite
      cases same
      exact ⟨closest, not_lt.mp finite⟩
  · intro rounds
    obtain rfl := rounds.unique proper closest
    rw [if_neg (not_lt.mpr rounds.finite)]

/-! The rounding of a decimal. -/

/-- A number is between the powers of ten that its length gives. -/
theorem magnitude_bounds {coefficient : Nat} (filled : coefficient ≠ 0) (exponent : Int) :
    (10 : ℚ) ^ (exponent + decimalLength coefficient - 1) ≤ coefficient * 10 ^ exponent ∧
      coefficient * (10 : ℚ) ^ exponent < 10 ^ (exponent + decimalLength coefficient) := by
  -- The digits bound the coefficient, and the exponent moves the bounds.
  obtain ⟨length, same, low, high⟩ := exists_decimalLength filled
  have first : exponent + (length + 1 : Nat) - 1 = length + exponent := by push_cast; ring
  have last : exponent + (length + 1 : Nat) = (length + 1 : Nat) + exponent := by ring
  rw [same, first, last, zpow_add₀ (by norm_num), zpow_add₀ (by norm_num), zpow_natCast,
    zpow_natCast]
  constructor
  · gcongr
    exact_mod_cast low
  · gcongr
    exact_mod_cast high

/-- Above the greatest numbers, nothing is rounded to a finite number. -/
theorem not_roundsTo_of_large (proper : format.Proper) {value : ℚ}
    (large : 2 ^ format.precision * 2 ^ format.greatest ≤ value) (number : Binary) :
    ¬ format.RoundsTo value number := by
  intro rounds
  -- The number that would come next is closer than any finite one.
  let beyond : Binary := ⟨2 ^ (format.precision - 1), format.greatest + 1⟩
  have same : beyond.value = 2 ^ format.precision * 2 ^ format.greatest := by
    rw [Binary.value, Nat.cast_pow, Nat.cast_ofNat, proper.shift]
  have wide : format.Wide beyond := by
    have bits := proper.bits
    have ordered := proper.ordered
    exact ⟨Nat.pow_lt_pow_right (by decide) (by omega), by dsimp only [beyond]; omega, Or.inr le_rfl⟩
  have less : number.value < beyond.value :=
    calc number.value < 2 ^ format.precision * 2 ^ number.exponent := rounds.wide.value_lt
      _ ≤ 2 ^ format.precision * 2 ^ format.greatest := by
        gcongr
        · norm_num
        · exact rounds.finite
      _ = beyond.value := same.symm
  have nearest := rounds.nearest beyond wide
  rw [abs_of_nonneg (by linarith), abs_of_nonneg (by linarith)] at nearest
  linarith

/-- What is less than half of the smallest number is rounded to zero. -/
theorem roundsTo_small_iff (proper : format.Proper) {value : ℚ} (low : 0 ≤ value)
    (high : 2 * value < 2 ^ format.least) {number : Binary} :
    format.RoundsTo value number ↔ format.zero = number := by
  -- Zero is closest, and no other number is.
  have closest : format.Closest value format.zero := .zero low high
  constructor
  · intro rounds
    exact closest.unique proper rounds.toClosest
  · rintro rfl
    exact ⟨closest, proper.ordered⟩

/-- Zero is rounded to zero only. -/
theorem roundsTo_zero_iff (proper : format.Proper) {number : Binary} :
    format.RoundsTo 0 number ↔ format.zero = number :=
  roundsTo_small_iff proper le_rfl (by simpa using two_zpow_pos format.least)

/-- Powers of ten are further from one than powers of two. -/
theorem two_zpow_le_ten_zpow {exponent : Int} (positive : 0 ≤ exponent) :
    (2 : ℚ) ^ exponent ≤ 10 ^ exponent :=
  zpow_le_zpow_left₀ positive (by norm_num) (by norm_num)

/-- Below one it is the power of ten that is smaller. -/
theorem ten_zpow_le_two_zpow {exponent : Int} (negative : exponent ≤ 0) :
    (10 : ℚ) ^ exponent ≤ 2 ^ exponent := by
  -- The inverses are powers with positive exponents.
  have inverse := two_zpow_le_ten_zpow (neg_nonneg.mpr negative)
  rw [zpow_neg, zpow_neg] at inverse
  exact (inv_le_inv₀ (by positivity) (by positivity)).mp inverse

/-- A decimal is rounded to a number exactly where that is the nearest one and finite. -/
theorem ofDecimal?_eq_some_iff (proper : format.Proper) {coefficient : Nat} {exponent : Int}
    {number : Binary} : format.ofDecimal? coefficient exponent = some number ↔
      format.RoundsTo (coefficient * 10 ^ exponent) number := by
  -- Numbers far outside the range are decided by their length, all others by exact rounding.
  unfold ofDecimal?
  dsimp only
  split
  · rename_i none
    rw [none, Nat.cast_zero, zero_mul, roundsTo_zero_iff proper, Option.some.injEq]
  · rename_i filled
    obtain ⟨low, high⟩ := magnitude_bounds filled exponent
    generalize exponent + (decimalLength coefficient : Int) = magnitude at low high ⊢
    split
    -- The number is too great.
    · rename_i beyond
      have large := proper.large
      refine iff_of_false (by simp) (not_roundsTo_of_large proper ?_ number)
      calc (2 : ℚ) ^ format.precision * 2 ^ format.greatest
          = 2 ^ (format.greatest + format.precision) := by
            rw [zpow_add₀ two_ne_zero, zpow_natCast, mul_comm]
        _ ≤ 10 ^ (format.greatest + format.precision) := two_zpow_le_ten_zpow large
        _ ≤ 10 ^ (magnitude - 1) := zpow_le_zpow_right₀ (by norm_num) (by omega)
        _ ≤ coefficient * 10 ^ exponent := low
    · split
      -- The number is too small.
      · rename_i under
        have small := proper.small
        rw [Option.some.injEq]
        refine (roundsTo_small_iff proper (by positivity) ?_).symm
        have powers : (10 : ℚ) ^ (format.least - 1) ≤ 2 ^ (format.least - 1) :=
          ten_zpow_le_two_zpow (by omega)
        have half : (2 : ℚ) * 2 ^ (format.least - 1) = 2 ^ format.least := by
          rw [mul_comm, ← zpow_add_one₀ two_ne_zero, sub_add_cancel]
        calc 2 * (coefficient * (10 : ℚ) ^ exponent) < 2 * 10 ^ magnitude := by gcongr
          _ ≤ 2 * 10 ^ (format.least - 1) := by
            gcongr
            · norm_num
            · omega
          _ ≤ 2 * 2 ^ (format.least - 1) := by gcongr
          _ = 2 ^ format.least := half
      -- In between, the ratio is rounded.
      · rw [round?_eq_some_iff proper, Ratio.value_ofScaled, Nat.cast_ofNat]

end BinaryFormat

end TypedRoutes

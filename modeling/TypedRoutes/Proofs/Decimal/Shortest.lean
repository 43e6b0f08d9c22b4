import TypedRoutes.Decimal.Shortest
import TypedRoutes.Proofs.Decimal.Rounding

/-! The decimal that is found for a binary number is rounded to the number, and no decimal with fewer
digits is. -/

namespace TypedRoutes

open BinaryFormat

/-- What is between an exact number and what it is rounded to is rounded to the same. -/
theorem BinaryFormat.RoundsTo.of_between {format : BinaryFormat} {value inner : ℚ}
    {number : Binary} (rounds : format.RoundsTo value number)
    (between : |value - inner| + |inner - number.value| = |value - number.value|) :
    format.RoundsTo inner number :=
  ⟨rounds.toClosest.of_between between, rounds.finite⟩

namespace Decimal

/-- The exact number. -/
def value (decimal : Decimal) : ℚ :=
  decimal.coefficient * 10 ^ decimal.exponent

/-- The test of the search asks for the rounding of the decimal. -/
theorem readsAs_iff {format : BinaryFormat} (proper : format.Proper) {decimal : Decimal}
    {number : Binary} :
    decimal.readsAs format number = true ↔ format.RoundsTo decimal.value number := by
  -- Reading the decimal is rounding it exactly.
  rw [readsAs, beq_iff_eq, ofDecimal?_eq_some_iff proper]
  rfl

/-- Two decimals with so many digits, one after the other, that have the number between them; in
some order they are the neighbours of the number. -/
structure Encloses (number : Binary) (digits whole : Nat) (exponent : Int) : Prop where
  /-- The lower one has all digits. -/
  first : 10 ^ (digits - 1) ≤ whole
  /-- It has no more. -/
  last : whole < 10 ^ digits
  /-- The number is not below it. -/
  low : whole * 10 ^ exponent ≤ number.value
  /-- The number is below the upper one. -/
  high : number.value < (whole + 1) * 10 ^ exponent
  /-- The nearer one comes first among the neighbours. -/
  either : neighbours number digits = (⟨whole, exponent⟩, ⟨whole + 1, exponent⟩) ∨
    neighbours number digits = (⟨whole + 1, exponent⟩, ⟨whole, exponent⟩)
  /-- It is at most half a step away. -/
  near : 2 * |(neighbours number digits).1.value - number.value| ≤ 10 ^ exponent

section

variable {number : Binary} {digits whole : Nat} {exponent : Int}

/-- The step of the neighbours leaves as many digits as they should have. -/
theorem step_bounds (filled : number.significand ≠ 0) (some : 0 < digits)
    (step : exponent = number.ratio.floorLog10 + 1 - digits) :
    10 ^ (digits - 1) * 10 ^ exponent ≤ number.value ∧
      number.value < 10 ^ digits * 10 ^ exponent := by
  have ten : (10 : ℚ) ≠ 0 := by norm_num
  have positive : 0 < number.value := by
    have significand : (0 : ℚ) < number.significand := by
      exact_mod_cast Nat.pos_of_ne_zero filled
    exact mul_pos significand (two_zpow_pos _)
  -- The logarithm is that of the exact number, so its powers of ten are the bounds.
  have log : number.ratio.floorLog10 = Int.log 10 number.value := by
    rw [Ratio.floorLog10_eq _ (Ratio.numerator_ne_zero _ (number.value_ratio ▸ positive)),
      number.value_ratio]
  rw [log] at step
  constructor
  · calc (10 : ℚ) ^ (digits - 1) * 10 ^ exponent
        = ((10 : Nat) : ℚ) ^ Int.log 10 number.value := by
          rw [← zpow_natCast, ← zpow_add₀ ten, Nat.cast_ofNat]
          congr 1
          omega
      _ ≤ number.value := Int.zpow_log_le_self (by decide) positive
  · calc number.value < ((10 : Nat) : ℚ) ^ (Int.log 10 number.value + 1) :=
          Int.lt_zpow_succ_log_self (by decide) _
      _ = 10 ^ digits * 10 ^ exponent := by
        rw [← zpow_natCast, ← zpow_add₀ ten, Nat.cast_ofNat]
        congr 1
        omega

/-- A number other than zero is enclosed by its neighbours. -/
theorem exists_encloses (filled : number.significand ≠ 0) (some : 0 < digits) :
    ∃ whole exponent, Encloses number digits whole exponent := by
  -- The number is scaled so that so many digits stand before its point, where it is cut.
  let exponent := number.ratio.floorLog10 + 1 - digits
  let scaled := number.ratio.scale Ratio.ten_pos (-exponent)
  have unit : (0 : ℚ) < 10 ^ exponent := by positivity
  have split : number.value = scaled.value * 10 ^ exponent := by
    rw [Ratio.value_scale, number.value_ratio, Nat.cast_ofNat, zpow_neg,
      inv_mul_cancel_right₀ unit.ne']
  have below := scaled.floor_le
  have above := scaled.lt_floor_add_one
  -- The digits of the scaled number before its point are those of the lower neighbour.
  obtain ⟨low, high⟩ := step_bounds filled some rfl
  rw [split] at low high
  have first : 10 ^ (digits - 1) ≤ scaled.floor := by
    have bound := (le_of_mul_le_mul_right low unit).trans_lt above
    exact Nat.lt_succ_iff.mp (by exact_mod_cast bound)
  have last : scaled.floor < 10 ^ digits := by
    have bound := below.trans_lt (lt_of_mul_lt_mul_right high unit.le)
    exact_mod_cast bound
  have distance (whole : Nat) (half : 2 * |(whole : ℚ) - scaled.value| ≤ 1) :
      2 * |Decimal.value ⟨whole, exponent⟩ - number.value| ≤ 10 ^ exponent := by
    rw [value, split, ← sub_mul, abs_mul, abs_of_pos unit, ← mul_assoc]
    exact mul_le_of_le_one_left unit.le half
  have chosen : neighbours number digits =
      if 2 * scaled.excess < scaled.denominator then
        (⟨scaled.floor, exponent⟩, ⟨scaled.floor + 1, exponent⟩)
      else (⟨scaled.floor + 1, exponent⟩, ⟨scaled.floor, exponent⟩) := rfl
  refine ⟨scaled.floor, exponent, first, last, ?_, ?_, ?_, ?_⟩
  · rw [split]
    gcongr
  · rw [split]
    gcongr
  all_goals rw [chosen]
  · split
    · exact Or.inl rfl
    · exact Or.inr rfl
  -- The comparison of the excess says which of the two is at most half a step away.
  · split
    · rename_i near
      have less := scaled.half_excess_lt_iff.mp near
      exact distance _ (by rw [abs_of_nonpos (by linarith)]; linarith)
    · rename_i far
      have more := not_lt.mp (mt scaled.half_excess_lt_iff.mpr far)
      refine distance _ ?_
      push_cast
      rw [abs_of_nonneg (by linarith)]
      linarith

/-- The neighbours have so many digits, or are the power of ten that comes next. -/
theorem Encloses.coefficient_le (encloses : Encloses number digits whole exponent) :
    (neighbours number digits).1.coefficient ≤ 10 ^ digits ∧
      (neighbours number digits).2.coefficient ≤ 10 ^ digits := by
  -- The upper neighbour is one above the lower one, which has no more digits.
  have last := encloses.last
  rcases encloses.either with order | order <;> rw [order]
  · exact ⟨last.le, last⟩
  · exact ⟨last, last.le⟩

/-- No decimal with so many digits or fewer is between the two. -/
theorem Encloses.le_or_le (encloses : Encloses number digits whole exponent) (some : 0 < digits)
    {coefficient : Nat} (short : coefficient < 10 ^ digits) (other : Int) :
    (coefficient : ℚ) * 10 ^ other ≤ whole * 10 ^ exponent ∨
      (whole + 1 : ℚ) * 10 ^ exponent ≤ coefficient * 10 ^ other := by
  -- A decimal with the same or greater steps is a multiple of the step; others are too small.
  have unit : (0 : ℚ) < 10 ^ exponent := by positivity
  rcases le_or_gt exponent other with above | below
  -- A multiple of the step is not between two that follow each other.
  · obtain ⟨shift, -, moved⟩ := exists_shift Ratio.ten_pos above
    have multiple : (coefficient : ℚ) * 10 ^ other =
        (coefficient * 10 ^ shift : Nat) * 10 ^ exponent := moved coefficient
    rw [multiple]
    rcases Nat.lt_or_ge whole (coefficient * 10 ^ shift) with more | less
    · right
      gcongr
      exact_mod_cast more
    · left
      gcongr
  -- With smaller steps, the decimal has one digit less before it reaches the lower one.
  · left
    obtain ⟨count, rfl⟩ := Nat.exists_eq_add_of_lt some
    have room : (coefficient : ℚ) ≤ 10 ^ count * 10 := by
      have bound : coefficient ≤ 10 ^ count * 10 := by
        rw [← Nat.pow_succ]
        simpa using short.le
      exact_mod_cast bound
    have full : (10 : ℚ) ^ count ≤ whole := by
      exact_mod_cast (by simpa using encloses.first : 10 ^ count ≤ whole)
    calc (coefficient : ℚ) * 10 ^ other ≤ 10 ^ count * 10 * 10 ^ other := by gcongr
      _ = 10 ^ count * 10 ^ (other + 1) := by rw [zpow_add_one₀ (by norm_num)]; ring
      _ ≤ 10 ^ count * 10 ^ exponent := by
        gcongr
        · norm_num
        · omega
      _ ≤ whole * 10 ^ exponent := by gcongr

/-- Where a decimal with so many digits is rounded to the number, one of the neighbours is. -/
theorem Encloses.roundsTo {format : BinaryFormat}
    (encloses : Encloses number digits whole exponent) (some : 0 < digits) {coefficient : Nat}
    (short : coefficient < 10 ^ digits) {other : Int}
    (rounds : format.RoundsTo (coefficient * 10 ^ other) number) :
    format.RoundsTo (neighbours number digits).1.value number ∨
      format.RoundsTo (neighbours number digits).2.value number := by
  have low := encloses.low
  have high := encloses.high
  -- The neighbour on its side is between the decimal and the number.
  have either : format.RoundsTo (Decimal.value ⟨whole, exponent⟩) number ∨
      format.RoundsTo (Decimal.value ⟨whole + 1, exponent⟩) number := by
    simp only [value, Nat.cast_add, Nat.cast_one]
    rcases encloses.le_or_le some short other with below | above
    · refine Or.inl (rounds.of_between ?_)
      rw [abs_of_nonpos (by linarith), abs_of_nonpos (by linarith), abs_of_nonpos (by linarith)]
      ring
    · refine Or.inr (rounds.of_between ?_)
      rw [abs_of_nonneg (by linarith), abs_of_nonneg (by linarith), abs_of_nonneg (by linarith)]
      ring
  rcases encloses.either with order | order <;> rw [order]
  · exact either
  · exact either.symm

end

/-- A decimal that is rounded to the number and has no more digits than needed. -/
structure Shortest (format : BinaryFormat) (number : Binary) (decimal : Decimal) (count : Nat) :
    Prop where
  /-- The decimal is rounded to the number. -/
  rounds : format.RoundsTo decimal.value number
  /-- It has so many digits, or is the power of ten that comes next. -/
  short : decimal.coefficient ≤ 10 ^ count
  /-- The digits are at least one. -/
  some : 0 < count
  /-- With fewer digits, no decimal is rounded to the number. -/
  least : ∀ (coefficient : Nat) (exponent : Int), coefficient < 10 ^ (count - 1) →
    ¬ format.RoundsTo (coefficient * 10 ^ exponent) number

section

variable {format : BinaryFormat} {number : Binary}

/-- With as many digits as the format has, the nearer neighbour is rounded to the number. -/
theorem Encloses.near_roundsTo (proper : format.Proper) (wide : format.Wide number)
    (finite : number.exponent ≤ format.greatest) {whole : Nat} {exponent : Int}
    (encloses : Encloses number format.digits whole exponent) :
    format.RoundsTo (neighbours number format.digits).1.value number := by
  -- Half a step is less than half of what numbers are apart.
  refine ⟨.of_near proper wide ?_, finite⟩
  have apart : (2 : ℚ) ^ format.precision < 10 ^ (format.digits - 1) := by
    exact_mod_cast proper.apart
  have first : (10 : ℚ) ^ (format.digits - 1) ≤ whole := by exact_mod_cast encloses.first
  have unit : (0 : ℚ) < 10 ^ exponent := by positivity
  calc 2 ^ format.precision * (2 * |(neighbours number format.digits).1.value - number.value|)
      ≤ 2 ^ format.precision * 10 ^ exponent := by
        have near := encloses.near
        gcongr
    _ < 10 ^ (format.digits - 1) * 10 ^ exponent := by gcongr
    _ ≤ whole * 10 ^ exponent := by gcongr
    _ ≤ number.value := encloses.low

/-- The search finds a shortest decimal. -/
theorem exists_shortest_search (proper : format.Proper) (wide : format.Wide number)
    (finite : number.exponent ≤ format.greatest) (filled : number.significand ≠ 0)
    {digits spare : Nat} (some : 0 < digits) (total : digits + spare = format.digits)
    (none : ∀ (coefficient : Nat) (exponent : Int), coefficient < 10 ^ (digits - 1) →
      ¬ format.RoundsTo (coefficient * 10 ^ exponent) number) :
    ∃ count, Shortest format number (search format number digits spare) count := by
  -- Each round of the search tries one digit more.
  induction spare generalizing digits with
  | zero =>
    obtain ⟨whole, exponent, encloses⟩ := exists_encloses filled some
    obtain rfl : digits = format.digits := total
    exact ⟨format.digits, encloses.near_roundsTo proper wide finite, encloses.coefficient_le.1, some,
      none⟩
  | succ spare ih =>
    obtain ⟨whole, exponent, encloses⟩ := exists_encloses filled some
    obtain ⟨nearShort, farShort⟩ := encloses.coefficient_le
    rw [search]
    dsimp only
    split
    · rename_i near
      exact ⟨digits, (readsAs_iff proper).mp near, nearShort, some, none⟩
    · rename_i near
      split
      · rename_i far
        exact ⟨digits, (readsAs_iff proper).mp far, farShort, some, none⟩
      -- If neither neighbour is rounded to the number, no decimal with so many digits is.
      · rename_i far
        refine ih (Nat.succ_pos digits) (by omega) fun coefficient other short rounds => ?_
        rcases encloses.roundsTo some short rounds with reads | reads
        · exact near ((readsAs_iff proper).mpr reads)
        · exact far ((readsAs_iff proper).mpr reads)

/-- Every number of the format other than zero has a shortest decimal, which is found. -/
theorem exists_shortest (proper : format.Proper) (wide : format.Wide number)
    (finite : number.exponent ≤ format.greatest) (filled : number.significand ≠ 0) :
    ∃ count, Shortest format number (shortest format number) count := by
  have digits : 1 ≤ format.digits - 1 := by
    -- A single digit cannot tell the numbers apart.
    by_contra few
    have apart := proper.apart
    rw [Nat.lt_one_iff.mp (not_le.mp few), pow_zero, Nat.lt_one_iff] at apart
    exact (Nat.two_pow_pos format.precision).ne' apart
  rw [shortest, if_neg filled]
  refine exists_shortest_search proper wide finite filled Nat.one_pos (by omega) ?_
  intro coefficient exponent short rounds
  -- Without digits there is only zero.
  obtain rfl : coefficient = 0 := Nat.lt_one_iff.mp (by simpa using short)
  rw [Nat.cast_zero, zero_mul, roundsTo_zero_iff proper] at rounds
  exact filled (rounds ▸ rfl)

end

end Decimal

end TypedRoutes

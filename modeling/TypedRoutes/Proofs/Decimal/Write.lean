import TypedRoutes.Proofs.Decimal.Numeral
import TypedRoutes.Proofs.Decimal.Shortest

/-! Decimals as they are written: plain numerals without an exponent. -/

namespace TypedRoutes

/-- Digits, and perhaps a point with digits behind it. -/
inductive PlainOf : List Char → List Char → List Char → Prop where
  | whole (digits : List Char) (some : AreDigits digits) : PlainOf digits digits []
  | point (whole fraction : List Char) (some : AreDigits whole) (more : AreDigits fraction) :
    PlainOf (whole ++ '.' :: fraction) whole fraction

/-- A numeral without an exponent, with no sign but a minus sign, and with digits wherever there may
be some. -/
inductive PlainNumeralOf : List Char → NumeralParts → Prop where
  | plus (mantissa whole fraction : List Char) (plain : PlainOf mantissa whole fraction) :
    PlainNumeralOf mantissa ⟨false, whole, fraction, 0⟩
  | minus (mantissa whole fraction : List Char) (plain : PlainOf mantissa whole fraction) :
    PlainNumeralOf ('-' :: mantissa) ⟨true, whole, fraction, 0⟩

/-- Plain digits are a mantissa. -/
theorem PlainOf.mantissaOf {mantissa whole fraction : List Char}
    (plain : PlainOf mantissa whole fraction) : MantissaOf mantissa whole fraction := by
  -- Digits behind a point are allowed there as well.
  cases plain with
  | whole _ some => exact .whole _ some
  | point _ _ some more => exact .point _ _ some more.2

/-- Plain numerals are numerals. -/
theorem PlainNumeralOf.numeralOf {text : List Char} {parts : NumeralParts}
    (plain : PlainNumeralOf text parts) : NumeralOf text parts := by
  -- There is no exponent, which numerals may leave out.
  cases plain with
  | plus _ whole fraction plain =>
    have numeral := NumeralOf.mk [] _ [] whole fraction false 0 .none plain.mantissaOf .none
    simpa using numeral
  | minus mantissa whole fraction plain =>
    have numeral := NumeralOf.mk ['-'] _ [] whole fraction true 0 .minus plain.mantissaOf .none
    simpa using numeral

namespace Decimal

/-- A point is put between digits, and a zero in front of it where there would be no digit. -/
theorem plainOf_placePoint {front back : List Char} (before : ∀ c ∈ front, c.isDigit = true)
    (after : ∀ c ∈ back, c.isDigit = true) :
    PlainOf (placePoint (front ++ back) front.length) (if front.isEmpty then ['0'] else front)
      back := by
  have whole : AreDigits (if front.isEmpty then ['0'] else front) := by
    cases front with
    | nil => exact ⟨by simp, by simp⟩
    | cons c front => exact ⟨by simp, before⟩
  unfold placePoint
  rw [List.take_left, List.drop_left]
  -- Without digits behind it there is no point.
  cases back with
  | nil => simpa using PlainOf.whole _ whole
  | cons c back => exact .point _ _ whole ⟨by simp, after⟩

/-- A zero in the place of no digits changes nothing. -/
theorem ofDigits_zero_or (front : List Char) :
    ofDigits (if front.isEmpty then ['0'] else front) = ofDigits front := by
  -- Neither spelling has a digit other than zero.
  cases front with
  | nil => decide
  | cons c front => rfl

/-- Digits with a point in front of so many of them are a plain numeral, also without the zeros at
the end of those. -/
theorem exists_plainOf_trimmed {digits : List Char} (inside : ∀ c ∈ digits, c.isDigit = true)
    {places : Nat} (room : places ≤ digits.length) :
    ∃ whole fraction, PlainOf (placePoint (digits.take (digits.length - places) ++
          ((digits.drop (digits.length - places)).reverse.dropWhile (· == '0')).reverse)
          (digits.length - places)) whole fraction ∧
        (ofDigits whole : ℚ) + ofDigits fraction / 10 ^ fraction.length =
          ofDigits digits / 10 ^ places := by
  -- The digits are split where the point is put.
  obtain ⟨front, rest, rfl, count⟩ : ∃ front rest, digits = front ++ rest ∧ rest.length = places :=
    ⟨digits.take (digits.length - places), digits.drop (digits.length - places),
      (List.take_append_drop _ _).symm, by rw [List.length_drop]; omega⟩
  have point : (front ++ rest).length - places = front.length := by
    rw [List.length_append]
    omega
  obtain ⟨dropped, trimmed⟩ := exists_trailing_zeros rest
  rw [point, List.take_left, List.drop_left]
  generalize (rest.reverse.dropWhile (· == '0')).reverse = fraction at trimmed ⊢
  subst trimmed
  refine ⟨_, fraction, plainOf_placePoint (fun c member => inside c (by simp [member]))
    fun c member => inside c (by simp [member]), ?_⟩
  -- The zeros count for nothing behind the point.
  rw [ofDigits_zero_or, ofDigits_append, ofDigits_append, ofDigits_replicate, count]
  rw [List.length_append, List.length_replicate] at count
  rw [← count, pow_add, List.length_replicate]
  push_cast
  field_simp
  ring

/-- A decimal is written as a plain numeral of the same number. -/
theorem exists_plainOf_write (decimal : Decimal) :
    ∃ whole fraction, PlainOf decimal.write whole fraction ∧
      (ofDigits whole : ℚ) + ofDigits fraction / 10 ^ fraction.length = decimal.value := by
  -- The exponent says whether zeros are added behind the digits or a point among them.
  have digits : ∀ c ∈ digitsOf decimal.coefficient, c.isDigit = true :=
    fun c member => isDigit_of_mem_digitsOf member
  have filled : digitsOf decimal.coefficient ≠ [] := digitsOf_ne_nil _
  unfold write value
  split
  -- Zero is written as one digit.
  · rename_i none
    exact ⟨['0'], [], .whole _ ⟨by simp, by simp⟩, by simp [none, ofDigits]⟩
  · split
    -- Zeros behind the digits make the number greater.
    · rename_i count exponent
      have inside := isDigit_of_mem_padded digits 0 count
      refine ⟨_, [], .whole _ ⟨by simp [filled], by simpa using inside⟩, ?_⟩
      rw [exponent, ofDigits_append, ofDigits_digitsOf, ofDigits_replicate, List.length_replicate]
      simp
    -- Zeros in front of the digits make room for the point.
    · rename_i places exponent
      have inside := isDigit_of_mem_padded digits
        (places + 1 - (digitsOf decimal.coefficient).length) 0
      rw [List.replicate_zero, List.append_nil] at inside
      have room : places + 1 ≤ (List.replicate (places + 1 - (digitsOf decimal.coefficient).length) '0' ++
          digitsOf decimal.coefficient).length := by
        rw [List.length_append, List.length_replicate]
        omega
      obtain ⟨whole, fraction, plain, same⟩ := exists_plainOf_trimmed inside room
      refine ⟨whole, fraction, plain, ?_⟩
      rw [same, ofDigits_append, ofDigits_replicate, Nat.zero_mul, Nat.zero_add,
        ofDigits_digitsOf, exponent, zpow_negSucc, div_eq_mul_inv]

section

variable {format : BinaryFormat} {number : Binary}

/-- The shortest decimal of a number is rounded to it. -/
theorem shortest_roundsTo (proper : format.Proper) (wide : format.Wide number)
    (finite : number.exponent ≤ format.greatest) :
    format.RoundsTo (shortest format number).value number := by
  -- Zero is a case of its own; for all other numbers the search finds a decimal.
  by_cases none : number.significand = 0
  · rw [shortest, if_pos none, value, Nat.cast_zero, zero_mul, BinaryFormat.roundsTo_zero_iff proper]
    exact (wide.eq_zero none).symm
  · obtain ⟨count, found⟩ := exists_shortest proper wide finite none
    exact found.rounds

/-- No numeral for a number other than zero has fewer significant digits than its shortest
decimal. -/
theorem significant_shortest_le (proper : format.Proper) (wide : format.Wide number)
    (finite : number.exponent ≤ format.greatest) (filled : number.significand ≠ 0)
    {parts other : NumeralParts} {text : List Char} (plain : PlainNumeralOf text parts)
    (same : parts.magnitude = (shortest format number).value) {otherText : List Char}
    (numeral : NumeralOf otherText other) (rounds : format.RoundsTo other.magnitude number) :
    parts.significant.length ≤ other.significant.length := by
  -- The shortest decimal has no more digits than its count, and fewer do not suffice.
  obtain ⟨count, found⟩ := exists_shortest proper wide finite filled
  have few : parts.significant.length ≤ count := by
    rw [NumeralParts.length_significant_le_iff plain.numeralOf.digits, same, value]
    rcases Nat.lt_or_eq_of_le found.short with less | equal
    · exact ⟨_, _, less, rfl⟩
    -- A power of ten has one digit.
    · refine ⟨1, count + (shortest format number).exponent,
        Nat.one_lt_pow found.some.ne' (by decide), ?_⟩
      rw [equal, zpow_add₀ (by norm_num), zpow_natCast]
      push_cast
      ring
  -- The other numeral has a coefficient with as many digits as are significant.
  obtain ⟨coefficient, exponent, short, magnitude⟩ :=
    (NumeralParts.length_significant_le_iff numeral.digits).mp (Nat.le_refl _)
  by_contra fewer
  refine found.least coefficient exponent ?_ (magnitude ▸ rounds)
  calc coefficient < 10 ^ other.significant.length := short
    _ ≤ 10 ^ (count - 1) := Nat.pow_le_pow_right (by decide) (by omega)

end

end Decimal

end TypedRoutes

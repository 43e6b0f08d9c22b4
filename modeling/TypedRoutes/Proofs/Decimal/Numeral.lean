import TypedRoutes.Decimal.Numeral
import TypedRoutes.Proofs.Decimal.Ratio
import TypedRoutes.Proofs.Lists

/-! Decimal numerals: their grammar, the numbers they denote, and how many of their digits are
significant. -/

namespace TypedRoutes

/-- The parts of a decimal numeral. -/
structure NumeralParts where
  /-- Whether there is a minus sign. -/
  negative : Bool
  /-- The digits before the point. -/
  whole : List Char
  /-- The digits behind the point. -/
  fraction : List Char
  /-- The exponent; without one it is zero. -/
  exponent : Int

namespace NumeralParts

/-- The number without its sign. -/
def magnitude (parts : NumeralParts) : ℚ :=
  (ofDigits parts.whole + ofDigits parts.fraction / 10 ^ parts.fraction.length) *
    10 ^ parts.exponent

/-- The digits without zeros at either end. -/
def significant (parts : NumeralParts) : List Char :=
  (((parts.whole ++ parts.fraction).dropWhile (· == '0')).reverse.dropWhile (· == '0')).reverse

/-- The parts as they are read. -/
def numeral (parts : NumeralParts) : Numeral :=
  ⟨parts.negative, ofDigits (parts.whole ++ parts.fraction),
    parts.exponent - parts.fraction.length⟩

end NumeralParts

/-! The grammar. -/

/-- One digit or more. -/
def AreDigits (text : List Char) : Prop :=
  text ≠ [] ∧ ∀ c ∈ text, c.isDigit = true

/-- A sign or none. -/
inductive SignOf : List Char → Bool → Prop where
  | none : SignOf [] false
  | plus : SignOf ['+'] false
  | minus : SignOf ['-'] true

/-- Digits with a point behind them, among them or in front of them, or without a point. -/
inductive MantissaOf : List Char → List Char → List Char → Prop where
  | whole (digits : List Char) (some : AreDigits digits) : MantissaOf digits digits []
  | point (whole fraction : List Char) (some : AreDigits whole)
    (inside : ∀ c ∈ fraction, c.isDigit = true) :
    MantissaOf (whole ++ '.' :: fraction) whole fraction
  | fraction (digits : List Char) (some : AreDigits digits) : MantissaOf ('.' :: digits) [] digits

/-- An exponent or none. -/
inductive ExponentOf : List Char → Int → Prop where
  | none : ExponentOf [] 0
  | some (mark : Char) (sign digits : List Char) (negative : Bool)
    (marked : mark = 'e' ∨ mark = 'E') (signed : SignOf sign negative) (some : AreDigits digits) :
    ExponentOf (mark :: (sign ++ digits))
      (if negative then -(ofDigits digits : Int) else ofDigits digits)

/-- A decimal numeral with its parts. -/
inductive NumeralOf : List Char → NumeralParts → Prop where
  | mk (sign mantissa tail whole fraction : List Char) (negative : Bool) (exponent : Int)
    (signed : SignOf sign negative) (mantissa_of : MantissaOf mantissa whole fraction)
    (tailed : ExponentOf tail exponent) :
    NumeralOf (sign ++ (mantissa ++ tail)) ⟨negative, whole, fraction, exponent⟩

/-! Reading. -/

/-- What follows the sign starts with another character. -/
theorem splitSign_append {sign rest : List Char} {negative : Bool} (signed : SignOf sign negative)
    (other : ∀ c ∈ rest.head?, c ≠ '-' ∧ c ≠ '+') : splitSign (sign ++ rest) = (negative, rest) := by
  -- Only the first character is looked at, and behind a sign that is left out it is none.
  cases signed with
  | plus | minus => rfl
  | none =>
    unfold splitSign
    split
    · rename_i _ rest same
      rw [List.nil_append] at same
      exact absurd rfl (other '-' (by simp [same])).1
    · rename_i _ rest same
      rw [List.nil_append] at same
      exact absurd rfl (other '+' (by simp [same])).2
    · rfl

/-- A text is its sign and what follows that. -/
theorem exists_signOf (text : List Char) :
    ∃ sign, SignOf sign (splitSign text).1 ∧ text = sign ++ (splitSign text).2 := by
  -- There are three cases, as the first character has it.
  unfold splitSign
  split
  · exact ⟨_, .minus, rfl⟩
  · exact ⟨_, .plus, rfl⟩
  · exact ⟨_, .none, rfl⟩

/-- The first of some digits is a digit, whatever follows them. -/
theorem AreDigits.head? {digits : List Char} (some : AreDigits digits) (rest : List Char) :
    ∀ c ∈ (digits ++ rest).head?, c.isDigit = true := by
  -- There is at least one, so it is the first.
  obtain ⟨filled, inside⟩ := some
  intro c first
  cases digits with
  | nil => exact absurd rfl filled
  | cons d digits =>
    obtain rfl : d = c := by simpa using first
    exact inside d (by simp)

/-- No sign is a digit. -/
theorem ne_sign_of_isDigit {c : Char} (digit : c.isDigit = true) : c ≠ '-' ∧ c ≠ '+' := by
  -- Neither sign passes the test.
  constructor
  all_goals
    rintro rfl
    exact absurd digit (by decide)

/-- Integers are read where a sign or none stands before digits. -/
theorem readInteger?_eq_some_iff {text : List Char} {value : Int} :
    readInteger? text = some value ↔ ∃ sign digits negative, text = sign ++ digits ∧
      SignOf sign negative ∧ AreDigits digits ∧
        value = if negative then -(ofDigits digits : Int) else ofDigits digits := by
  -- The sign is split off first, and what is left must be digits.
  constructor
  · intro read
    obtain ⟨sign, signed, split⟩ := exists_signOf text
    unfold readInteger? at read
    dsimp only at read
    generalize splitSign text = parts at read signed split
    obtain ⟨negative, digits⟩ := parts
    split at read
    · cases read
    · rename_i filled
      simp only [Bool.or_eq_true, List.isEmpty_iff, Bool.not_eq_true', not_or,
        Bool.not_eq_false, List.all_eq_true] at filled
      refine ⟨sign, digits, negative, split, signed, filled, ?_⟩
      split at read
      · rename_i minus
        dsimp only at minus
        rw [minus]
        exact (Option.some.inj read).symm
      · rename_i plus
        dsimp only at plus
        simp only [plus]
        exact (Option.some.inj read).symm
  -- Digits do not start with a sign, so the sign is all that is split off.
  · rintro ⟨sign, digits, negative, rfl, signed, some, rfl⟩
    have parts : splitSign (sign ++ digits) = (negative, digits) :=
      splitSign_append signed fun c first =>
        ne_sign_of_isDigit (some.head? [] c (by simpa using first))
    have empty : digits.isEmpty = false := by simpa using some.1
    have all : digits.all Char.isDigit = true := List.all_eq_true.mpr some.2
    unfold readInteger?
    rw [parts]
    cases negative <;> simp [empty, all]

/-- Exponents are read as the grammar has them. -/
theorem readExponent?_eq_some_iff {text : List Char} {exponent : Int} :
    Numeral.readExponent? text = some exponent ↔ ExponentOf text exponent := by
  -- The first character is the mark, if there is an exponent.
  cases text with
  | nil =>
    constructor
    · intro read
      cases read
      exact .none
    · intro parts
      cases parts
      rfl
  | cons mark rest =>
    constructor
    · intro read
      rw [Numeral.readExponent?] at read
      split at read
      · rename_i marked
        obtain ⟨sign, digits, negative, rfl, signed, some, rfl⟩ := readInteger?_eq_some_iff.mp read
        exact .some mark sign digits negative marked signed some
      · cases read
    · intro parts
      cases parts with
      | some _ sign digits negative marked signed some =>
        rw [Numeral.readExponent?, if_pos marked]
        exact readInteger?_eq_some_iff.mpr ⟨sign, digits, negative, rfl, signed, some, rfl⟩

/-- An exponent does not go on with the digits before it. -/
theorem ExponentOf.head? {tail : List Char} {exponent : Int} (tailed : ExponentOf tail exponent) :
    ∀ c ∈ tail.head?, c.isDigit = false ∧ c ≠ '.' := by
  -- It is empty or starts with its mark.
  cases tailed with
  | none => simp
  | some mark sign digits negative marked =>
    rintro c first
    obtain rfl : mark = c := by simpa using first
    rcases marked with rfl | rfl <;> decide

/-- Digits and fraction are split where the grammar splits them. -/
theorem MantissaOf.split {mantissa whole fraction tail : List Char}
    (mantissa_of : MantissaOf mantissa whole fraction)
    (stop : ∀ c ∈ tail.head?, c.isDigit = false ∧ c ≠ '.') :
    (mantissa ++ tail).takeWhile Char.isDigit = whole ∧
      Numeral.splitFraction ((mantissa ++ tail).dropWhile Char.isDigit) = (fraction, tail) := by
  -- The digits before the point end at it, or at the tail if there is no point.
  have ends : ∀ c ∈ tail.head?, c.isDigit = false := fun c first => (stop c first).1
  cases mantissa_of with
  | whole _ some =>
    obtain ⟨front, back⟩ := takeWhile_append_of_stop some.2 ends
    refine ⟨front, ?_⟩
    rw [back]
    unfold Numeral.splitFraction
    split
    · exact absurd rfl (stop '.' rfl).2
    · rfl
  -- The point ends the digits, and the tail ends the fraction.
  | point _ _ some inside =>
    obtain ⟨front, back⟩ :=
      takeWhile_run Char.isDigit some.2 (by decide : Char.isDigit '.' = false) (fraction ++ tail)
    obtain ⟨middle, rest⟩ := takeWhile_append_of_stop inside ends
    rw [List.append_assoc, List.cons_append]
    exact ⟨front, by rw [back, Numeral.splitFraction, middle, rest]⟩
  | fraction _ some =>
    obtain ⟨middle, rest⟩ := takeWhile_append_of_stop some.2 ends
    have none : Char.isDigit '.' = false := by decide
    simp [none, Numeral.splitFraction, middle, rest]

/-- What is split are the digits and the fraction of the grammar, where there is any digit. -/
theorem exists_mantissaOf {unsigned fraction rest : List Char}
    (splits : Numeral.splitFraction (unsigned.dropWhile Char.isDigit) = (fraction, rest))
    (some : unsigned.takeWhile Char.isDigit ≠ [] ∨ fraction ≠ []) :
    ∃ mantissa, MantissaOf mantissa (unsigned.takeWhile Char.isDigit) fraction ∧
      unsigned = mantissa ++ rest := by
  -- The longest run of digits is taken first, and then perhaps a point with another run.
  have split := List.takeWhile_append_dropWhile (p := Char.isDigit) (l := unsigned)
  have inside : ∀ c ∈ unsigned.takeWhile Char.isDigit, c.isDigit = true :=
    fun c member => List.mem_takeWhile_imp member
  generalize unsigned.takeWhile Char.isDigit = whole at split inside some ⊢
  generalize unsigned.dropWhile Char.isDigit = behind at split splits
  unfold Numeral.splitFraction at splits
  split at splits
  -- Behind the point there are the digits of the fraction.
  · rename_i _ behind
    cases splits
    have digits : ∀ c ∈ behind.takeWhile Char.isDigit, c.isDigit = true :=
      fun c member => List.mem_takeWhile_imp member
    have parts := List.takeWhile_append_dropWhile (p := Char.isDigit) (l := behind)
    by_cases empty : whole = []
    · subst empty
      have filled := some.resolve_left (· rfl)
      exact ⟨_, .fraction _ ⟨filled, digits⟩, by rw [← split, List.cons_append, parts]; rfl⟩
    · exact ⟨_, .point _ _ ⟨empty, inside⟩ digits,
        by rw [← split, List.append_assoc, List.cons_append, parts]⟩
  · cases splits
    exact ⟨whole, .whole _ ⟨some.resolve_right (· rfl), inside⟩, split.symm⟩

/-- The first character of a mantissa is no sign. -/
theorem MantissaOf.head? {mantissa whole fraction : List Char}
    (mantissa_of : MantissaOf mantissa whole fraction) (tail : List Char) :
    ∀ c ∈ (mantissa ++ tail).head?, c ≠ '-' ∧ c ≠ '+' := by
  -- It starts with a digit or with the point.
  intro c first
  cases mantissa_of with
  | whole _ some => exact ne_sign_of_isDigit (some.head? tail c first)
  | point _ _ some inside =>
    rw [List.append_assoc] at first
    exact ne_sign_of_isDigit (some.head? _ c first)
  | fraction _ some =>
    obtain rfl : '.' = c := by simpa using first
    decide

/-- A mantissa has a digit before its point or behind it. -/
theorem MantissaOf.ne_nil {mantissa whole fraction : List Char}
    (mantissa_of : MantissaOf mantissa whole fraction) : whole ≠ [] ∨ fraction ≠ [] := by
  -- Each form asks for digits in one of the two places.
  cases mantissa_of with
  | whole _ some | point _ _ some => exact Or.inl some.1
  | fraction _ some => exact Or.inr some.1

/-- Numerals are read as the grammar has them. -/
theorem Numeral.read?_eq_some_iff {text : List Char} {numeral : Numeral} :
    Numeral.read? text = some numeral ↔ ∃ parts, NumeralOf text parts ∧ parts.numeral = numeral := by
  constructor
  -- The parts that are split off are put together again.
  · intro read
    obtain ⟨sign, signed, split⟩ := exists_signOf text
    unfold Numeral.read? at read
    generalize splitSign text = signParts at read signed split
    obtain ⟨negative, unsigned⟩ := signParts
    dsimp only at read signed split
    cases splits : splitFraction (unsigned.dropWhile Char.isDigit) with
    | mk fraction rest =>
      rw [splits] at read
      dsimp only at read
      split at read
      · cases read
      · rename_i some
        cases exponents : readExponent? rest with
        | none => simp [exponents] at read
        | some exponent =>
          rw [exponents] at read
          cases read
          simp only [Bool.and_eq_true, List.isEmpty_iff, not_and_or] at some
          obtain ⟨mantissa, mantissa_of, whole⟩ := exists_mantissaOf splits some
          refine ⟨⟨negative, _, fraction, exponent⟩, ?_, rfl⟩
          rw [split, whole]
          exact .mk sign mantissa rest _ fraction negative exponent signed (whole ▸ mantissa_of)
            (readExponent?_eq_some_iff.mp exponents)
  -- No part can go on with the part behind it, so each is split off where it ends.
  · rintro ⟨parts, ⟨sign, mantissa, tail, whole, fraction, negative, exponent, signed,
      mantissa_of, tailed⟩, rfl⟩
    obtain ⟨digits, splits⟩ := mantissa_of.split tailed.head?
    have some : (whole.isEmpty && fraction.isEmpty) = false := by
      simpa [List.isEmpty_iff, imp_iff_not_or] using mantissa_of.ne_nil
    unfold Numeral.read?
    rw [splitSign_append signed (mantissa_of.head? tail)]
    dsimp only
    rw [digits, splits]
    dsimp only
    rw [some, if_neg (by decide), readExponent?_eq_some_iff.mpr tailed]
    rfl

/-! Numbers. -/

namespace NumeralParts

/-- All digits together are as much as those of the numeral, if the point is moved. -/
theorem magnitude_eq (parts : NumeralParts) :
    parts.magnitude = parts.numeral.coefficient * 10 ^ parts.numeral.exponent := by
  -- Moving the point by the length of the fraction makes all digits whole.
  have ten : (10 : ℚ) ≠ 0 := by norm_num
  simp only [magnitude, numeral, ofDigits_append, Nat.cast_add, Nat.cast_mul, Nat.cast_pow,
    Nat.cast_ofNat, zpow_sub₀ ten, zpow_natCast]
  field_simp

end NumeralParts

/-- What the grammar takes for digits are digits. -/
theorem MantissaOf.digits {mantissa whole fraction : List Char}
    (mantissa_of : MantissaOf mantissa whole fraction) :
    ∀ c ∈ whole ++ fraction, c.isDigit = true := by
  -- The digits of each part are asked for by its form.
  intro c member
  cases mantissa_of with
  | whole _ some => exact some.2 c (by simpa using member)
  | point _ _ some inside =>
    rcases List.mem_append.mp member with front | back
    · exact some.2 c front
    · exact inside c back
  | fraction _ some => exact some.2 c member

/-- The digits of a numeral are digits. -/
theorem NumeralOf.digits {text : List Char} {parts : NumeralParts} (numeral : NumeralOf text parts) :
    ∀ c ∈ parts.whole ++ parts.fraction, c.isDigit = true := by
  -- They are those of its mantissa.
  obtain ⟨sign, mantissa, tail, whole, fraction, negative, exponent, -, mantissa_of, -⟩ := numeral
  exact mantissa_of.digits

/-- A test that the point fails finds in a mantissa what it finds among the digits. -/
theorem MantissaOf.any_eq {mantissa whole fraction : List Char}
    (mantissa_of : MantissaOf mantissa whole fraction) {test : Char → Bool}
    (point : test '.' = false) : mantissa.any test = (whole ++ fraction).any test := by
  -- Apart from the point, the characters of the mantissa are the digits in their order.
  cases mantissa_of <;> simp [point]

/-! Significant digits. -/

/-- What is left out in front are zeros. -/
theorem exists_leading_zeros (digits : List Char) :
    ∃ count, digits = List.replicate count '0' ++ digits.dropWhile (· == '0') := by
  -- The digits split into the run that is left out and the rest.
  have zero : ∀ c ∈ digits.takeWhile (· == '0'), c = '0' := by
    intro c member
    simpa using List.mem_takeWhile_imp member
  have zeros := List.eq_replicate_of_mem zero
  refine ⟨(digits.takeWhile (· == '0')).length, ?_⟩
  rw [← zeros, List.takeWhile_append_dropWhile]

/-- What is left out at the end are zeros. -/
theorem exists_trailing_zeros (digits : List Char) :
    ∃ count, digits = (digits.reverse.dropWhile (· == '0')).reverse ++ List.replicate count '0' := by
  -- The end is the front of the digits in reverse.
  obtain ⟨count, split⟩ := exists_leading_zeros digits.reverse
  refine ⟨count, ?_⟩
  have turned := congrArg List.reverse split
  rwa [List.reverse_reverse, List.reverse_append, List.reverse_replicate] at turned

/-- The digits are zeros, the significant digits, and zeros. Neither end of the significant digits
is a zero. -/
theorem NumeralParts.exists_significant (parts : NumeralParts) :
    ∃ before after, parts.whole ++ parts.fraction =
        List.replicate before '0' ++ (parts.significant ++ List.replicate after '0') ∧
      parts.significant.head? ≠ some '0' ∧ parts.significant.getLast? ≠ some '0' := by
  -- Zeros are left out first in front, and then at the end of what is left.
  obtain ⟨before, front⟩ := exists_leading_zeros (parts.whole ++ parts.fraction)
  have start := head?_dropWhile (· == '0') (parts.whole ++ parts.fraction)
  have last := head?_dropWhile (· == '0')
    ((parts.whole ++ parts.fraction).dropWhile (· == '0')).reverse
  unfold significant
  generalize (parts.whole ++ parts.fraction).dropWhile (· == '0') = rest at front start last ⊢
  obtain ⟨after, back⟩ := exists_trailing_zeros rest
  refine ⟨before, after, by rw [← back]; exact front, fun zero => ?_, fun zero => ?_⟩
  -- The first digit that is left is also the first without the zeros at the end.
  · have first : '0' ∈ rest.head? := by
      rw [back, List.head?_append, Option.mem_def, Option.mem_def.mp zero]
      rfl
    exact absurd (start '0' first) (by decide)
  · rw [List.getLast?_reverse] at zero
    exact absurd (last '0' zero) (by decide)

/-- A number whose first digit is not zero is as great as its length says. -/
theorem le_ofDigits {digits : List Char} (inside : ∀ c ∈ digits, c.isDigit = true)
    (filled : digits ≠ []) (first : digits.head? ≠ some '0') :
    10 ^ (digits.length - 1) ≤ ofDigits digits := by
  -- The first digit alone is worth that much.
  cases digits with
  | nil => exact absurd rfl filled
  | cons c rest =>
    obtain ⟨value, small, rfl⟩ := exists_digitChar (inside c (by simp))
    have positive : 1 ≤ value := by
      refine Nat.one_le_iff_ne_zero.mpr fun zero => first ?_
      rw [zero]
      rfl
    rw [← List.singleton_append, ofDigits_append, ofDigits_digitChar small, List.length_append]
    simp only [List.length_singleton, Nat.add_sub_cancel_left]
    calc 10 ^ rest.length ≤ value * 10 ^ rest.length := Nat.le_mul_of_pos_left _ positive
      _ ≤ value * 10 ^ rest.length + ofDigits rest := Nat.le_add_right _ _

/-- A number whose last digit is not zero is no multiple of ten. -/
theorem not_ten_dvd_ofDigits {digits : List Char} (inside : ∀ c ∈ digits, c.isDigit = true)
    (filled : digits ≠ []) (last : digits.getLast? ≠ some '0') : ¬ 10 ∣ ofDigits digits := by
  -- The last digit is what is left over when the number is divided by ten.
  rcases List.eq_nil_or_concat digits with empty | ⟨front, c, rfl⟩
  · exact absurd empty filled
  · rw [List.concat_eq_append] at inside last ⊢
    obtain ⟨value, small, rfl⟩ := exists_digitChar (inside c (by simp))
    have positive : value ≠ 0 := by
      rintro rfl
      exact last (by simp [Nat.digitChar])
    rw [ofDigits_concat front small]
    omega

/-- The significant digits are the fewest with which the number can be written, the point moved
where it must be. -/
theorem NumeralParts.length_significant_le_iff {parts : NumeralParts}
    (inside : ∀ c ∈ parts.whole ++ parts.fraction, c.isDigit = true) {count : Nat} :
    parts.significant.length ≤ count ↔ ∃ (coefficient : Nat) (exponent : Int),
      coefficient < 10 ^ count ∧ parts.magnitude = coefficient * 10 ^ exponent := by
  -- The significant digits are one way to write the number, and no other way has fewer.
  have ten : (10 : ℚ) ≠ 0 := by norm_num
  obtain ⟨before, after, split, first, last⟩ := parts.exists_significant
  have digits : ∀ c ∈ parts.significant, c.isDigit = true :=
    fun c member => inside c (by simp [split, member])
  -- Zeros in front count for nothing, and those at the end move the point.
  obtain ⟨exponent, magnitude⟩ : ∃ exponent : Int,
      parts.magnitude = ofDigits parts.significant * 10 ^ exponent := by
    refine ⟨after + parts.numeral.exponent, ?_⟩
    rw [magnitude_eq, numeral, split, ofDigits_append, ofDigits_append, ofDigits_replicate,
      ofDigits_replicate, List.length_replicate, zpow_add₀ ten, zpow_natCast]
    push_cast
    ring
  constructor
  · intro short
    refine ⟨ofDigits parts.significant, exponent, ?_, magnitude⟩
    calc ofDigits parts.significant < 10 ^ parts.significant.length := ofDigits_lt digits
      _ ≤ 10 ^ count := Nat.pow_le_pow_right (by decide) short
  · rintro ⟨coefficient, other, short, same⟩
    rw [magnitude] at same
    by_cases empty : parts.significant = []
    · simp [empty]
    have positive := le_ofDigits digits empty first
    rcases le_or_gt other exponent with above | below
    -- The digits of the other number start with the significant ones.
    · obtain ⟨shift, -, moved⟩ := exists_shift Ratio.ten_pos above
      have product : ofDigits parts.significant * 10 ^ shift = coefficient := by
        have digits := (moved (ofDigits parts.significant)).symm.trans same
        exact_mod_cast mul_right_cancel₀ (zpow_ne_zero other ten) digits
      have less : 10 ^ (parts.significant.length - 1) < 10 ^ count :=
        calc 10 ^ (parts.significant.length - 1) ≤ ofDigits parts.significant := positive
          _ ≤ ofDigits parts.significant * 10 ^ shift := Nat.le_mul_of_pos_right _ (by positivity)
          _ < 10 ^ count := product ▸ short
      have lengths := (Nat.pow_lt_pow_iff_right (by decide)).mp less
      omega
    -- Otherwise the last significant digit would be zero.
    · obtain ⟨shift, exponents, moved⟩ := exists_shift Ratio.ten_pos below.le
      have product : ofDigits parts.significant = coefficient * 10 ^ shift := by
        have digits := same.trans (moved coefficient)
        exact_mod_cast mul_right_cancel₀ (zpow_ne_zero exponent ten) digits
      have some : shift ≠ 0 := by omega
      refine absurd ?_ (not_ten_dvd_ofDigits digits empty last)
      rw [product]
      exact (dvd_pow_self 10 some).mul_left coefficient

end TypedRoutes

import TypedRoutes.Java.Literal
import TypedRoutes.Proofs.Decimal.Write

/-! Defaults of binary formats keep their value: which texts are accepted, and that what is written
for one is the shortest plain decimal of the same number. -/

namespace TypedRoutes.Java

/-- The types of binary numbers, with their formats and the suffixes of their literals. -/
inductive BinaryType : ParamType → BinaryFormat → String → Prop where
  | float : BinaryType .float .single "f"
  | double : BinaryType .double .double "d"

/-- A text that is accepted: a numeral that is zero or is rounded to a finite number other than
zero. -/
def Acceptable (format : BinaryFormat) (raw : String) : Prop :=
  ∃ parts, NumeralOf raw.toList parts ∧ (parts.magnitude = 0 ∨
    ∃ number, format.RoundsTo parts.magnitude number ∧ number.significand ≠ 0)

/-- A plain decimal that stands for the same number as a text. -/
structure KeepsValue (format : BinaryFormat) (raw body : String) (number : Binary)
    (parts written : NumeralParts) : Prop where
  /-- The text is a numeral. -/
  numeral : NumeralOf raw.toList parts
  /-- It is rounded to the number. -/
  rounded : format.RoundsTo parts.magnitude number
  /-- What is written is a plain decimal without an exponent. -/
  plain : PlainNumeralOf body.toList written
  /-- It is rounded to the same number, -/
  same : format.RoundsTo written.magnitude number
  /-- and it has the same sign, also on zero. -/
  sign : written.negative = parts.negative
  /-- The number is zero, and zero is written, only where the text is exactly zero. -/
  zero : number.significand = 0 ∨ written.magnitude = 0 → parts.magnitude = 0
  /-- No numeral with fewer significant digits is rounded to a number other than zero. -/
  fewest : number.significand ≠ 0 → ∀ text other, NumeralOf text other →
    format.RoundsTo other.magnitude number →
    written.significant.length ≤ other.significant.length

/-- Both types have formats with numbers below one and above one half. -/
theorem BinaryType.proper {type : ParamType} {format : BinaryFormat} {suffix : String}
    (binary : BinaryType type format suffix) : format.Proper := by
  cases binary with
  | float => exact BinaryFormat.proper_single
  | double => exact BinaryFormat.proper_double

/-- The literal of a binary type is its decimal with the suffix. -/
theorem BinaryType.literal?_eq {type : ParamType} {format : BinaryFormat} {suffix : String}
    (binary : BinaryType type format suffix) (raw : String) :
    literal? type raw = (binaryLiteral? format raw).map fun digits =>
      String.ofList digits ++ suffix := by
  cases binary <;> rfl

/-- What is written for a number with a sign. -/
def writeBinary (format : BinaryFormat) (negative : Bool) (number : Binary) : List Char :=
  if negative then '-' :: (Decimal.shortest format number).write
  else (Decimal.shortest format number).write

section

variable {format : BinaryFormat} {raw : String} {parts : NumeralParts}

/-- What stands in front of the marks of an exponent is the sign with the mantissa. -/
theorem takeWhile_numeral {sign mantissa tail whole fraction : List Char} {negative : Bool}
    {exponent : Int} (signed : SignOf sign negative)
    (mantissa_of : MantissaOf mantissa whole fraction) (tailed : ExponentOf tail exponent) :
    (sign ++ (mantissa ++ tail)).takeWhile (fun c => c != 'e' && c != 'E') = sign ++ mantissa := by
  -- The marks are looked for in the sign, the mantissa and the tail, and only the tail has one.
  have front : ∀ c ∈ sign, (c != 'e' && c != 'E') = true := by
    cases signed <;> simp
  -- Neither mark is a digit.
  have digits : (whole ++ fraction).any (fun c => !(c != 'e' && c != 'E')) = false := by
    rw [List.any_eq_false]
    rintro c member marked
    have digit := mantissa_of.digits c member
    have mark : c = 'e' ∨ c = 'E' := by simpa [imp_iff_not_or] using marked
    rcases mark with rfl | rfl <;> exact absurd digit (by decide)
  have middle : ∀ c ∈ mantissa, (c != 'e' && c != 'E') = true := by
    rw [← mantissa_of.any_eq (by decide), List.any_eq_false] at digits
    exact fun c member => by simpa using digits c member
  have stop : ∀ c ∈ tail.head?, (c != 'e' && c != 'E') = false := by
    cases tailed with
    | none => simp
    | some mark _ _ _ marked => rcases marked with rfl | rfl <;> simp
  rw [← List.append_assoc]
  exact (takeWhile_append_of_stop (List.forall_mem_append.mpr ⟨front, middle⟩) stop).1

/-- A digit is between one and nine exactly if it is not zero. -/
theorem one_le_and_le_nine_iff {c : Char} (digit : c.isDigit = true) :
    (decide ('1' ≤ c) && decide (c ≤ '9')) = true ↔ c ≠ '0' := by
  -- There are ten digits to look at.
  obtain ⟨value, small, rfl⟩ := exists_digitChar digit
  have each : ∀ value < 10, ((decide ('1' ≤ value.digitChar) && decide (value.digitChar ≤ '9')) =
      true ↔ value.digitChar ≠ '0') := by decide
  exact each value small

/-- A numeral has a digit other than zero in front of its exponent exactly if its coefficient is not
zero. -/
theorem hasNonzeroDigit_iff (spelled : NumeralOf raw.toList parts) :
    hasNonzeroDigit raw = true ↔ parts.numeral.coefficient ≠ 0 := by
  -- The mantissa is what the scan sees of the text, and its digits are those of the coefficient.
  have inside := spelled.digits
  rw [hasNonzeroDigit]
  generalize raw.toList = text at spelled
  obtain ⟨sign, mantissa, tail, whole, fraction, negative, exponent, signed, mantissa_of, tailed⟩ :=
    spelled
  -- The sign and the point are no digits, so only those of the coefficient are found.
  have unsigned : sign.any (fun c => '1' ≤ c && c ≤ '9') = false := by
    cases signed <;> decide
  rw [takeWhile_numeral signed mantissa_of tailed, List.any_append, unsigned, Bool.false_or,
    mantissa_of.any_eq (by decide), List.any_eq_true, NumeralParts.numeral, Ne,
    ofDigits_eq_zero_iff inside]
  push Not
  exact exists_congr fun c => and_congr_right fun member =>
    one_le_and_le_nine_iff (inside c member)

/-- A numeral is lost to zero where its number is zero and its coefficient is not. -/
theorem underflows_iff (spelled : NumeralOf raw.toList parts) (number : Binary) :
    underflows raw (number.significand == 0) = true ↔
      number.significand = 0 ∧ parts.numeral.coefficient ≠ 0 := by
  rw [underflows, Bool.and_eq_true, beq_iff_eq, hasNonzeroDigit_iff spelled]

/-- A numeral has a number where it is rounded to a finite one, and to zero only from zero. -/
theorem readBinary?_eq_some_iff (proper : format.Proper) (spelled : NumeralOf raw.toList parts)
    {number : Binary} :
    readBinary? format raw parts.numeral = some number ↔
      format.RoundsTo parts.magnitude number ∧ (number.significand = 0 → parts.magnitude = 0) := by
  -- Zero is the same before and after the power of ten, so the coefficient tells it.
  have exact_zero : parts.magnitude = 0 ↔ parts.numeral.coefficient = 0 := by
    rw [parts.magnitude_eq, mul_eq_zero_iff_right (zpow_ne_zero _ (by norm_num)), Nat.cast_eq_zero]
  rw [parts.magnitude_eq, ← BinaryFormat.ofDecimal?_eq_some_iff proper, ← parts.magnitude_eq,
    exact_zero]
  -- Beyond the rounding, the reader only looks whether a number was lost to zero.
  unfold readBinary?
  split
  · rename_i none
    simp [none]
  · rename_i found rounded
    rw [rounded]
    split
    · rename_i lost
      rw [underflows_iff spelled] at lost
      simp only [reduceCtorEq, Option.some.injEq, false_iff, not_and]
      rintro rfl kept
      exact lost.2 (kept lost.1)
    · rename_i kept
      rw [underflows_iff spelled, not_and_not_right] at kept
      constructor
      · rintro ⟨rfl⟩
        exact ⟨rfl, kept⟩
      · exact fun both => both.1

/-- A text has a decimal where it is a numeral that has a number. -/
theorem binaryLiteral?_eq_some_iff (proper : format.Proper) {text : List Char} :
    binaryLiteral? format raw = some text ↔ ∃ parts number, NumeralOf raw.toList parts ∧
      format.RoundsTo parts.magnitude number ∧ (number.significand = 0 → parts.magnitude = 0) ∧
        writeBinary format parts.negative number = text := by
  -- The literal is read in two steps, the numeral and its number, and either may refuse the text.
  unfold binaryLiteral?
  constructor
  · intro written
    split at written
    · cases written
    · rename_i numeral read
      obtain ⟨parts, spelled, rfl⟩ := Numeral.read?_eq_some_iff.mp read
      split at written
      · cases written
      · rename_i number found
        obtain ⟨rounds, zero⟩ := (readBinary?_eq_some_iff proper spelled).mp found
        exact ⟨parts, number, spelled, rounds, zero, Option.some.inj written⟩
  · rintro ⟨parts, number, spelled, rounds, zero, rfl⟩
    rw [Numeral.read?_eq_some_iff.mpr ⟨parts, spelled, rfl⟩]
    dsimp only
    rw [(readBinary?_eq_some_iff proper spelled).mpr ⟨rounds, zero⟩]
    rfl

/-- What is written is a plain numeral with the sign, of the shortest decimal. -/
theorem exists_plainNumeralOf_writeBinary (negative : Bool) (number : Binary) :
    ∃ written, PlainNumeralOf (writeBinary format negative number) written ∧
      written.negative = negative ∧
        written.magnitude = (Decimal.shortest format number).value := by
  -- The decimal has no sign of its own, so the sign is put in front of it.
  obtain ⟨whole, fraction, plain, same⟩ := (Decimal.shortest format number).exists_plainOf_write
  refine ⟨⟨negative, whole, fraction, 0⟩, ?_, rfl, by simpa [NumeralParts.magnitude] using same⟩
  cases negative with
  | false => exact .plus _ _ _ plain
  | true => exact .minus _ _ _ plain

end

/-- A default of a binary type is accepted exactly if it is a numeral that is zero or is rounded to
a finite number other than zero. Its literal is the suffix behind a plain decimal that keeps the
number and the sign with as few significant digits as possible, and that has the same literal. -/
theorem literal?_binary {type : ParamType} {format : BinaryFormat} {suffix : String}
    (binary : BinaryType type format suffix) (raw : String) :
    ((∃ literal, literal? type raw = some literal) ↔ Acceptable format raw) ∧
      ∀ literal, literal? type raw = some literal →
        ∃ body number parts written, literal = body ++ suffix ∧
          KeepsValue format raw body number parts written ∧ literal? type body = some literal := by
  -- First the texts that are accepted, then what is kept of one that is.
  have proper := binary.proper
  constructor
  · rw [binary.literal?_eq]
    simp only [Option.map_eq_some_iff]
    constructor
    · rintro ⟨literal, text, found, -⟩
      obtain ⟨parts, number, spelled, rounds, zero, -⟩ := (binaryLiteral?_eq_some_iff proper).mp found
      refine ⟨parts, spelled, ?_⟩
      -- A number that is zero was so before it was rounded.
      by_cases none : number.significand = 0
      · exact Or.inl (zero none)
      · exact Or.inr ⟨number, rounds, none⟩
    · rintro ⟨parts, spelled, either⟩
      obtain ⟨number, rounds, zero⟩ : ∃ number, format.RoundsTo parts.magnitude number ∧
          (number.significand = 0 → parts.magnitude = 0) := by
        rcases either with zero | ⟨number, rounds, filled⟩
        · exact ⟨format.zero, zero ▸ (BinaryFormat.roundsTo_zero_iff proper).mpr rfl, fun _ => zero⟩
        · exact ⟨number, rounds, fun none => absurd none filled⟩
      exact ⟨_, _, (binaryLiteral?_eq_some_iff proper).mpr ⟨parts, number, spelled, rounds, zero, rfl⟩,
        rfl⟩
  · intro literal found
    rw [binary.literal?_eq, Option.map_eq_some_iff] at found
    obtain ⟨text, found, rfl⟩ := found
    obtain ⟨parts, number, spelled, rounds, zero, rfl⟩ := (binaryLiteral?_eq_some_iff proper).mp found
    obtain ⟨written, plain, sign, same⟩ :=
      @exists_plainNumeralOf_writeBinary format parts.negative number
    -- The shortest decimal is rounded to the number it was made for.
    have reads : format.RoundsTo written.magnitude number :=
      same ▸ Decimal.shortest_roundsTo proper rounds.wide rounds.finite
    let body := String.ofList (writeBinary format parts.negative number)
    have chars : body.toList = writeBinary format parts.negative number := String.toList_ofList
    have plainBody : PlainNumeralOf body.toList written := chars ▸ plain
    refine ⟨body, number, parts, written, rfl, ⟨spelled, rounds, plainBody, reads, sign, ?_, ?_⟩, ?_⟩
    -- Zero is rounded to zero.
    · rintro (none | none)
      · exact zero none
      · rw [none, BinaryFormat.roundsTo_zero_iff proper] at reads
        exact zero (reads ▸ rfl)
    · intro filled text other numeral others
      exact Decimal.significant_shortest_le proper rounds.wide rounds.finite filled plain same numeral
        others
    -- What is written has the same sign and the same number.
    · have none : number.significand = 0 → written.magnitude = 0 := by
        intro none
        rw [same, Decimal.shortest, if_pos none, Decimal.value, Nat.cast_zero, zero_mul]
      have again : binaryLiteral? format body = some (writeBinary format parts.negative number) :=
        (binaryLiteral?_eq_some_iff proper).mpr
          ⟨written, number, plainBody.numeralOf, reads, none, by rw [sign]⟩
      rw [binary.literal?_eq, again]
      rfl

/-- A numeral just below the middle between the two smallest numbers of 32 bits. -/
theorem literal?_binary_subnormal :
    BinaryType .float .single "f" ∧
      literal? .float "-2.10194769648722560638E-45" =
        some "-0.000000000000000000000000000000000000000000001f" ∧
      ((∃ literal, literal? .float "-2.10194769648722560638E-45" = some literal) ↔
        Acceptable .single "-2.10194769648722560638E-45") ∧
      ∀ literal, literal? .float "-2.10194769648722560638E-45" = some literal →
        ∃ body number parts written, literal = body ++ "f" ∧
          KeepsValue .single "-2.10194769648722560638E-45" body number parts written ∧
          literal? .float body = some literal :=
  ⟨.float, by decide +kernel, literal?_binary .float _⟩

end TypedRoutes.Java

import TypedRoutes.Proofs.Decimal.Numeral

/-! Decimal integers: the texts that denote one, and the one among them that is canonical. -/

namespace TypedRoutes

/-- A text that denotes an integer: a sign or none before digits, with any zeros in front. -/
inductive IntegerOf : List Char → Int → Prop where
  | mk (sign digits : List Char) (negative : Bool) (signed : SignOf sign negative)
    (some : AreDigits digits) :
    IntegerOf (sign ++ digits) (if negative then -(ofDigits digits : Int) else ofDigits digits)

/-- The decimal of an integer that has no plus sign and no zero in front; zero has no minus sign. -/
inductive CanonicalDecimal : List Char → Int → Prop where
  | zero : CanonicalDecimal ['0'] 0
  | positive (digits : List Char) (some : AreDigits digits) (first : digits.head? ≠ .some '0') :
    CanonicalDecimal digits (ofDigits digits)
  | negative (digits : List Char) (some : AreDigits digits) (first : digits.head? ≠ .some '0') :
    CanonicalDecimal ('-' :: digits) (-(ofDigits digits : Int))

/-- Integers are read exactly as texts denote them. -/
theorem readInteger?_eq_some {text : List Char} {value : Int} :
    readInteger? text = some value ↔ IntegerOf text value := by
  -- The parts of the text are the arguments of the only constructor.
  rw [readInteger?_eq_some_iff]
  constructor
  · rintro ⟨sign, digits, negative, rfl, signed, some, rfl⟩
    exact .mk sign digits negative signed some
  · rintro ⟨sign, digits, negative, signed, some⟩
    exact ⟨sign, digits, negative, rfl, signed, some, rfl⟩

/-- No text denotes two integers. -/
theorem IntegerOf.unique {text : List Char} {value other : Int} (first : IntegerOf text value)
    (second : IntegerOf text other) : value = other :=
  Option.some.inj ((readInteger?_eq_some.mpr first).symm.trans (readInteger?_eq_some.mpr second))

/-- The canonical decimal of an integer denotes it. -/
theorem CanonicalDecimal.integerOf {text : List Char} {value : Int}
    (canonical : CanonicalDecimal text value) : IntegerOf text value := by
  -- Each form of a canonical decimal is a sign or none before digits.
  cases canonical with
  | zero => exact .mk [] ['0'] false .none ⟨by decide, by simp⟩
  | positive _ some => exact .mk [] text false .none some
  | negative digits some => exact .mk ['-'] digits true .minus some

/-- An integer has one canonical decimal, and it is written. -/
theorem canonicalDecimal_iff {text : List Char} {value : Int} :
    CanonicalDecimal text value ↔ text = writeInteger value := by
  have digits (magnitude : Nat) : AreDigits (digitsOf magnitude) :=
    ⟨digitsOf_ne_nil magnitude, fun c member => isDigit_of_mem_digitsOf member⟩
  constructor
  · intro canonical
    cases canonical with
    | zero => rfl
    | positive digits some first => exact (digitsOf_ofDigits some.2 some.1 first).symm
    -- A zero would be written without the sign, but its only digit is a zero in front.
    | negative digits some first =>
      have same := digitsOf_ofDigits some.2 some.1 first
      generalize ofDigits digits = magnitude at same
      subst same
      cases magnitude with
      | zero => exact absurd rfl first
      | succ magnitude => rfl
  -- What is written is zero, or digits that start with another one, with a minus sign or without.
  · rintro rfl
    rcases value with (_ | magnitude) | magnitude
    · exact .zero
    · have written := CanonicalDecimal.positive _ (digits _) (head?_digitsOf magnitude.succ_ne_zero)
      rwa [ofDigits_digitsOf] at written
    · have written := CanonicalDecimal.negative _ (digits _) (head?_digitsOf magnitude.succ_ne_zero)
      rwa [ofDigits_digitsOf] at written

/-- The decimal that is written denotes the integer again. -/
theorem integerOf_writeInteger (value : Int) : IntegerOf (writeInteger value) value :=
  (canonicalDecimal_iff.mpr rfl).integerOf

/-- Different integers are written differently. -/
theorem writeInteger_inj {value other : Int} (same : writeInteger value = writeInteger other) :
    value = other :=
  (integerOf_writeInteger value).unique (same ▸ integerOf_writeInteger other)

end TypedRoutes

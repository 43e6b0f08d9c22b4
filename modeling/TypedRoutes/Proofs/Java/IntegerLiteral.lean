import TypedRoutes.Java.Literal
import TypedRoutes.Proofs.Decimal.Integer

/-! Defaults of integers are exact: which texts are accepted, and that what is written for one is
the canonical decimal of the same integer. -/

namespace TypedRoutes.Java

/-- The types of integers, with their bits and the suffixes of their literals. -/
inductive IntegerType : ParamType → Nat → String → Prop where
  | int : IntegerType .int 32 ""
  | long : IntegerType .long 64 "L"

/-- The integers that so many bits hold, one of them for the sign. -/
structure HeldIn (bits : Nat) (value : Int) : Prop where
  /-- The least integer has no counterpart. -/
  least : -(2 ^ (bits - 1)) ≤ value
  /-- The greatest one is below the power of two. -/
  greatest : value ≤ 2 ^ (bits - 1) - 1

/-- A default that stands for an integer, and the decimal that is written for it. -/
structure KeepsInteger (type : ParamType) (bits : Nat) (suffix raw : String) (value : Int)
    (body : String) : Prop where
  /-- The text denotes the integer. -/
  denotes : IntegerOf raw.toList value
  /-- The integer is in the range of the type. -/
  held : HeldIn bits value
  /-- What is written before the suffix is the canonical decimal of the integer. -/
  canonical : CanonicalDecimal body.toList value
  /-- It is the literal of the text, -/
  written : literal? type raw = some (body ++ suffix)
  /-- and its own literal. -/
  again : literal? type body = some (body ++ suffix)

/-- A text has a decimal where it denotes an integer in range. -/
theorem integerLiteral?_eq_some_iff {bits : Nat} {raw : String} {text : List Char} :
    integerLiteral? bits raw = some text ↔
      ∃ value, IntegerOf raw.toList value ∧ HeldIn bits value ∧ text = writeInteger value := by
  -- The bound of the model is a power of natural numbers, and here one of integers.
  have bound : ((Nat.pow 2 (bits - 1) : Nat) : Int) = 2 ^ (bits - 1) := Nat.cast_pow 2 (bits - 1)
  unfold integerLiteral?
  simp only [bound]
  -- What is read is what the text denotes, and the range is checked behind that.
  constructor
  · intro written
    split at written
    · cases written
    · rename_i value read
      split at written
      · rename_i range
        cases written
        exact ⟨value, readInteger?_eq_some.mp read, ⟨range.1, Int.le_sub_one_of_lt range.2⟩, rfl⟩
      · cases written
  · rintro ⟨value, denotes, held, rfl⟩
    rw [readInteger?_eq_some.mpr denotes]
    exact if_pos ⟨held.least, Int.lt_of_le_sub_one held.greatest⟩

section

variable {type : ParamType} {bits : Nat} {suffix : String} {raw : String}

/-- The literal of a type of integers is the decimal with the suffix. -/
theorem IntegerType.literal?_eq_some_iff (integer : IntegerType type bits suffix)
    {literal : String} :
    literal? type raw = some literal ↔ ∃ value, IntegerOf raw.toList value ∧ HeldIn bits value ∧
      literal = String.ofList (writeInteger value) ++ suffix := by
  -- The suffix of the narrower type is empty, so both types put one behind the digits.
  have mapped : literal? type raw =
      (integerLiteral? bits raw).map fun digits => String.ofList digits ++ suffix := by
    cases integer with
    | int => simp only [literal?, String.append_empty]
    | long => rfl
  rw [mapped, Option.map_eq_some_iff]
  constructor
  · rintro ⟨text, found, rfl⟩
    obtain ⟨value, denotes, held, rfl⟩ := integerLiteral?_eq_some_iff.mp found
    exact ⟨value, denotes, held, rfl⟩
  · rintro ⟨value, denotes, held, rfl⟩
    exact ⟨_, integerLiteral?_eq_some_iff.mpr ⟨value, denotes, held, rfl⟩, rfl⟩

/-- An integer in range is kept by its canonical decimal. -/
theorem IntegerType.keepsInteger (integer : IntegerType type bits suffix) {value : Int}
    (denotes : IntegerOf raw.toList value) (held : HeldIn bits value) :
    KeepsInteger type bits suffix raw value (String.ofList (writeInteger value)) where
  denotes := denotes
  held := held
  canonical := canonicalDecimal_iff.mpr String.toList_ofList
  written := integer.literal?_eq_some_iff.mpr ⟨value, denotes, held, rfl⟩
  again := by
    -- The canonical decimal denotes the integer it is written for.
    have decimal : IntegerOf (String.ofList (writeInteger value)).toList value := by
      rw [String.toList_ofList]
      exact integerOf_writeInteger value
    exact integer.literal?_eq_some_iff.mpr ⟨value, decimal, held, rfl⟩

/-- The integers of a type are held in more bits. -/
theorem HeldIn.mono {narrow wide : Nat} (wider : narrow ≤ wide) {value : Int}
    (held : HeldIn narrow value) : HeldIn wide value := by
  -- The bounds are powers of two, and these grow with the bits.
  have power : (2 : Int) ^ (narrow - 1) ≤ 2 ^ (wide - 1) :=
    pow_le_pow_right₀ (by decide) (by omega)
  obtain ⟨least, greatest⟩ := held
  exact ⟨by omega, by omega⟩

/-- A default of a type of integers is accepted exactly if it denotes an integer in range, and what
is written for it is the canonical decimal of that integer, which is its own literal. Another text
has the same literal exactly if it denotes the same integer. What a narrower type accepts is
accepted here, with the same integer and the same decimal. -/
theorem literal?_integer (integer : IntegerType type bits suffix) (raw : String) :
    ((∃ literal, literal? type raw = some literal) ↔
        ∃ value, IntegerOf raw.toList value ∧ HeldIn bits value) ∧
      (∀ literal, literal? type raw = some literal → ∃ value body, literal = body ++ suffix ∧
        KeepsInteger type bits suffix raw value body) ∧
      (∀ other literal, literal? type raw = some literal → (literal? type other = some literal ↔
        ∃ value, IntegerOf raw.toList value ∧ IntegerOf other.toList value)) ∧
      ∀ narrow fewer short literal, IntegerType narrow fewer short → fewer ≤ bits →
        literal? narrow raw = some literal → ∃ value body, literal = body ++ short ∧
          KeepsInteger narrow fewer short raw value body ∧
            KeepsInteger type bits suffix raw value body := by
  -- The four parts are the acceptance, the kept integer, equal literals, and the wider type.
  refine ⟨⟨?_, ?_⟩, ?_, ?_, ?_⟩
  · rintro ⟨literal, found⟩
    obtain ⟨value, denotes, held, -⟩ := integer.literal?_eq_some_iff.mp found
    exact ⟨value, denotes, held⟩
  · rintro ⟨value, denotes, held⟩
    exact ⟨_, (integer.keepsInteger denotes held).written⟩
  · intro literal found
    obtain ⟨value, denotes, held, rfl⟩ := integer.literal?_eq_some_iff.mp found
    exact ⟨value, _, rfl, integer.keepsInteger denotes held⟩
  · intro other literal found
    obtain ⟨value, denotes, held, rfl⟩ := integer.literal?_eq_some_iff.mp found
    constructor
    -- Equal literals have equal decimals, and those are of one integer.
    · intro same
      obtain ⟨next, others, -, equal⟩ := integer.literal?_eq_some_iff.mp same
      have decimals : writeInteger value = writeInteger next := by
        simpa [String.ext_iff] using equal
      exact ⟨value, denotes, writeInteger_inj decimals ▸ others⟩
    · rintro ⟨next, denoted, others⟩
      obtain rfl := denotes.unique denoted
      exact integer.literal?_eq_some_iff.mpr ⟨value, others, held, rfl⟩
  · intro narrow fewer short literal narrower fewest found
    obtain ⟨value, denotes, held, rfl⟩ := narrower.literal?_eq_some_iff.mp found
    exact ⟨value, _, rfl, narrower.keepsInteger denotes held,
      integer.keepsInteger denotes (held.mono fewest)⟩

end

/-- The least integer of 32 bits, with zeros in front, as a default of 64 bits. -/
theorem literal?_integer_least :
    IntegerType .long 64 "L" ∧ IntegerType .int 32 "" ∧
      literal? .long "-0002147483648" = some "-2147483648L" ∧
      literal? .int "-0002147483648" = some "-2147483648" ∧
      ((∃ literal, literal? .long "-0002147483648" = some literal) ↔
        ∃ value, IntegerOf "-0002147483648".toList value ∧ HeldIn 64 value) ∧
      (∃ value body, "-2147483648L" = body ++ "L" ∧
        KeepsInteger .long 64 "L" "-0002147483648" value body) ∧
      (literal? .long "-2147483648" = some "-2147483648L" ↔
        ∃ value, IntegerOf "-0002147483648".toList value ∧ IntegerOf "-2147483648".toList value) ∧
      ∃ value body, "-2147483648" = body ++ "" ∧
        KeepsInteger .int 32 "" "-0002147483648" value body ∧
          KeepsInteger .long 64 "L" "-0002147483648" value body := by
  have wide : literal? .long "-0002147483648" = some "-2147483648L" := by decide +kernel
  have narrow : literal? .int "-0002147483648" = some "-2147483648" := by decide +kernel
  obtain ⟨accepted, kept, same, shared⟩ := literal?_integer .long "-0002147483648"
  exact ⟨.long, .int, wide, narrow, accepted, kept _ wide, same _ _ wide,
    shared .int 32 "" _ .int (by decide) narrow⟩

end TypedRoutes.Java

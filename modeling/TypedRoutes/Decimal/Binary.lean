import TypedRoutes.Decimal.Numeral
import TypedRoutes.Decimal.Ratio

/-! Binary number formats of limited precision, and the rounding of exact numbers to them. -/

namespace TypedRoutes

/-- A number without a sign: `significand · 2 ^ exponent`. -/
structure Binary where
  significand : Nat
  exponent : Int
  deriving DecidableEq

/-- The exact value. -/
def Binary.ratio (number : Binary) : Ratio :=
  .ofScaled number.significand Nat.two_pos number.exponent

/-- A format, given by the significands and exponents of its numbers. -/
structure BinaryFormat where
  /-- The number of bits of a significand. -/
  precision : Nat
  /-- The exponent of the smallest numbers. -/
  least : Int
  /-- The exponent of the greatest numbers. -/
  greatest : Int
  /-- A number of decimal digits that tells all numbers of the format apart. -/
  digits : Nat

namespace BinaryFormat

/-- Numbers of 32 bits, of which 24 are the significand's. -/
def single : BinaryFormat := ⟨24, -149, 104, 9⟩

/-- Numbers of 64 bits, of which 53 are the significand's. -/
def double : BinaryFormat := ⟨53, -1074, 971, 17⟩

/-- The zero of a format. -/
def zero (format : BinaryFormat) : Binary :=
  ⟨0, format.least⟩

/-- The exponent at which a positive ratio has as many bits as the format allows. -/
def exponentFor (format : BinaryFormat) (ratio : Ratio) : Int :=
  max format.least (ratio.floorLog2 + 1 - format.precision)

/-- The nearest number of the format, ties to even; `none` where the ratio is too great. -/
def round? (format : BinaryFormat) (ratio : Ratio) : Option Binary :=
  if ratio.numerator = 0 then some format.zero
  else
    let exponent := format.exponentFor ratio
    let significand := (ratio.scale Nat.two_pos (-exponent)).roundEven
    -- Rounding up may need one bit more than the format has.
    let number : Binary :=
      if significand = Nat.pow 2 format.precision then
        ⟨Nat.pow 2 (format.precision - 1), exponent + 1⟩
      else ⟨significand, exponent⟩
    if format.greatest < number.exponent then none else some number

/-- The nearest number to `coefficient · 10 ^ exponent`. Numbers far outside the range of the
format are recognised by their count of digits, so that no huge power is computed. -/
def ofDecimal? (format : BinaryFormat) (coefficient : Nat) (exponent : Int) : Option Binary :=
  let magnitude : Int := exponent + decimalLength coefficient
  if coefficient = 0 then some format.zero
  else if format.greatest + format.precision < magnitude then none
  else if magnitude < format.least then some format.zero
  else format.round? (.ofScaled coefficient Ratio.ten_pos exponent)

end BinaryFormat

end TypedRoutes

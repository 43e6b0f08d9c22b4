import TypedRoutes.Decimal.Binary

/-! The shortest decimal that reads back as a given binary number, written without an exponent. -/

namespace TypedRoutes

/-- The number `coefficient · 10 ^ exponent`. -/
structure Decimal where
  coefficient : Nat
  exponent : Int
  deriving DecidableEq

namespace Decimal

/-- Whether rounding to the format gives the number back. -/
def readsAs (decimal : Decimal) (format : BinaryFormat) (number : Binary) : Bool :=
  format.ofDecimal? decimal.coefficient decimal.exponent == some number

/-- The neighbours of a positive number among the decimals with so many digits, the nearer one
first. Of two that are equally near, the greater comes first. -/
def neighbours (number : Binary) (digits : Nat) : Decimal × Decimal :=
  let exponent := number.ratio.floorLog10 + 1 - digits
  let scaled := number.ratio.scale Ratio.ten_pos (-exponent)
  let low : Decimal := ⟨scaled.floor, exponent⟩
  let high : Decimal := ⟨scaled.floor + 1, exponent⟩
  -- What is above the floor decides which of the two is nearer.
  if 2 * scaled.excess < scaled.denominator then (low, high) else (high, low)

/-- Searches longer and longer decimals until one reads back as the positive number, or until
`spare` lengths have been tried; then the last length is taken as it is. -/
def search (format : BinaryFormat) (number : Binary) (digits : Nat) : Nat → Decimal
  | 0 => (neighbours number digits).1
  | spare + 1 =>
    let (near, far) := neighbours number digits
    if near.readsAs format number then near
    else if far.readsAs format number then far
    else search format number (digits + 1) spare

/-- The shortest decimal that reads back as the number. -/
def shortest (format : BinaryFormat) (number : Binary) : Decimal :=
  if number.significand = 0 then ⟨0, 0⟩ else search format number 1 (format.digits - 1)

/-- Digits with a point after the first `whole` of them; without digits before or after the point
there is a zero before it or no point at all. -/
def placePoint (digits : List Char) (whole : Nat) : List Char :=
  let before := digits.take whole
  let after := digits.drop whole
  (if before.isEmpty then ['0'] else before) ++ (if after.isEmpty then [] else '.' :: after)

/-- The decimal without an exponent: no zeros at the end of a fraction and none in front of the
digits before the point, except for a single one. -/
def write (decimal : Decimal) : List Char :=
  if decimal.coefficient = 0 then ['0']
  else
    let digits := digitsOf decimal.coefficient
    match decimal.exponent with
    | .ofNat zeros => digits ++ List.replicate zeros '0'
    | .negSucc places =>
      -- With enough zeros in front there is always a digit before the point.
      let padded := List.replicate (places + 1 - digits.length) '0' ++ digits
      let whole := padded.length - (places + 1)
      let fraction := (padded.drop whole).reverse.dropWhile (· == '0')
      placePoint (padded.take whole ++ fraction.reverse) whole

end Decimal

end TypedRoutes

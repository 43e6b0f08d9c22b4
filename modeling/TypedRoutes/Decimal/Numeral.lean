import TypedRoutes.Decimal.Digits

/-! Decimal numerals with an optional fraction and an optional exponent. -/

namespace TypedRoutes

/-- A signed number `coefficient · 10 ^ exponent`; zero keeps its sign. -/
structure Numeral where
  /-- Whether there is a minus sign. -/
  negative : Bool
  /-- All digits before the exponent, read as one number. -/
  coefficient : Nat
  /-- The power of ten that puts the point where it was written. -/
  exponent : Int
  deriving DecidableEq

namespace Numeral

/-- Reads the exponent that may end a numeral; without one it is zero. -/
def readExponent? : List Char → Option Int
  | [] => some 0
  | mark :: rest => if mark = 'e' ∨ mark = 'E' then readInteger? rest else none

/-- Splits off the fraction that may follow the whole digits. -/
def splitFraction : List Char → List Char × List Char
  | '.' :: rest => (rest.takeWhile Char.isDigit, rest.dropWhile Char.isDigit)
  | rest => ([], rest)

/-- Reads a numeral. Digits may stand on both sides of the point or on one side only. -/
def read? (text : List Char) : Option Numeral :=
  let (negative, unsigned) := splitSign text
  let whole := unsigned.takeWhile Char.isDigit
  let (fraction, rest) := splitFraction (unsigned.dropWhile Char.isDigit)
  if whole.isEmpty && fraction.isEmpty then none
  else
    match readExponent? rest with
    | none => none
    | some exponent =>
      -- Each digit behind the point makes the power of ten smaller by one.
      some ⟨negative, ofDigits (whole ++ fraction), exponent - fraction.length⟩

end Numeral

end TypedRoutes

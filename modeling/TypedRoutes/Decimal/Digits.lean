/-! Decimal digits: reading runs of them as numbers, and writing numbers. -/

namespace TypedRoutes

/-- The number that a run of digits denotes; the run is read from left to right. -/
def ofDigits (digits : List Char) : Nat :=
  digits.foldl (fun value digit => 10 * value + (digit.toNat - '0'.toNat)) 0

/-- The digits of a number, without leading zeros; zero has one digit. -/
def digitsOf (value : Nat) : List Char :=
  Nat.toDigits 10 value

/-- The least number of digits that can hold a number; zero needs none. -/
def decimalLength (value : Nat) : Nat :=
  if value = 0 then 0 else (digitsOf value).length

/-- An integer in canonical form: no plus sign, no leading zeros, no minus on zero. -/
def writeInteger (value : Int) : List Char :=
  match value with
  | .ofNat magnitude => digitsOf magnitude
  | .negSucc magnitude => '-' :: digitsOf (magnitude + 1)

/-- A leading sign, true for minus, and what follows it. -/
def splitSign : List Char → Bool × List Char
  | '-' :: rest => (true, rest)
  | '+' :: rest => (false, rest)
  | text => (false, text)

/-- The integer of an optional sign and one or more ASCII digits. -/
def readInteger? (text : List Char) : Option Int :=
  let (negative, digits) := splitSign text
  if digits.isEmpty || !digits.all Char.isDigit then none
  else if negative then some (-(ofDigits digits : Int))
  else some (ofDigits digits : Int)

end TypedRoutes

import TypedRoutes.Decimal.Digits

/-! Timestamps: a date of the calendar, a time of day, and an offset from universal time. -/

namespace TypedRoutes

/-- A point in time as it is written, `YYYY-MM-DDThh:mm:ss`, an optional fraction, and an offset. -/
structure Timestamp where
  year : Nat
  month : Nat
  day : Nat
  hour : Nat
  minute : Nat
  second : Nat
  /-- The digits after the point. -/
  fraction : List Char
  /-- Sign, hours and minutes of the offset; `none` is the letter `Z`. -/
  offset : Option (Char × Nat × Nat)
  deriving DecidableEq

/-- Whether a year of the proleptic Gregorian calendar has a leap day. -/
def isLeapYear (year : Nat) : Bool :=
  year % 4 == 0 && (year % 100 != 0 || year % 400 == 0)

/-- The number of days of a month, zero for a month that does not exist. -/
def daysInMonth (year month : Nat) : Nat :=
  if month = 2 then if isLeapYear year then 29 else 28
  else if month ∈ [4, 6, 9, 11] then 30
  else if 1 ≤ month ∧ month ≤ 12 then 31
  else 0

namespace Timestamp

/-- The number of two digits. -/
def twoDigits? (tens ones : Char) : Option Nat :=
  if tens.isDigit && ones.isDigit then some (ofDigits [tens, ones]) else none

/-- Plus, minus, or the minus sign of typography. -/
def isSign (c : Char) : Bool :=
  c == '+' || c == '-' || c == '\u2212'

/-- Splits off a point with its one to nine digits; without a point there are no digits. -/
def splitFraction? : List Char → Option (List Char × List Char)
  | '.' :: rest =>
    let digits := rest.takeWhile Char.isDigit
    -- Nanoseconds are the finest unit.
    if 1 ≤ digits.length ∧ digits.length ≤ 9 then some (digits, rest.dropWhile Char.isDigit)
    else none
  | rest => some ([], rest)

/-- Reads the offset, which ends the text. -/
def readOffset? : List Char → Option (Option (Char × Nat × Nat))
  | ['Z'] => some none
  | [sign, h₁, h₂, ':', m₁, m₂] =>
    if isSign sign then do
      let hour ← twoDigits? h₁ h₂
      let minute ← twoDigits? m₁ m₂
      pure (some (sign, hour, minute))
    else none
  | _ => none

/-- Reads the form of a timestamp; its numbers may still be out of range. -/
def read? : List Char → Option Timestamp
  | y₁ :: y₂ :: y₃ :: y₄ :: '-' :: mo₁ :: mo₂ :: '-' :: d₁ :: d₂ :: 'T' ::
      h₁ :: h₂ :: ':' :: mi₁ :: mi₂ :: ':' :: s₁ :: s₂ :: rest => do
    let century ← twoDigits? y₁ y₂
    let year ← twoDigits? y₃ y₄
    let month ← twoDigits? mo₁ mo₂
    let day ← twoDigits? d₁ d₂
    let hour ← twoDigits? h₁ h₂
    let minute ← twoDigits? mi₁ mi₂
    let second ← twoDigits? s₁ s₂
    let (fraction, rest) ← splitFraction? rest
    let offset ← readOffset? rest
    pure ⟨100 * century + year, month, day, hour, minute, second, fraction, offset⟩
  | _ => none

/-- Whether every number is in range. A minute may end with a leap second. -/
def inRange (time : Timestamp) : Bool :=
  -- A month that does not exist has no days, so it needs no test of its own.
  1 ≤ time.day && time.day ≤ daysInMonth time.year time.month
    && time.hour ≤ 23 && time.minute ≤ 59 && time.second ≤ 60
    && match time.offset with
      | none => true
      | some (_, hour, minute) => hour ≤ 23 && minute ≤ 59

/-- Reads a timestamp that exists. -/
def parse? (text : String) : Option Timestamp :=
  (read? text.toList).filter inRange

end Timestamp

end TypedRoutes

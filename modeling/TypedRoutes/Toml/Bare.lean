import TypedRoutes.Decimal.Binary
import TypedRoutes.Timestamp
import TypedRoutes.Toml.Quoted
import TypedRoutes.Toml.Value

/-! Values of TOML that are written without quotes: booleans, numbers, dates and times. -/

namespace TypedRoutes.Toml

/-- Digits without the underscores between them. -/
def digitGroup? (isDigit : Char → Bool) : List Char → Option (List Char)
  | [] => none
  | [c] => if isDigit c then some [c] else none
  | c :: '_' :: rest => if isDigit c then (digitGroup? isDigit rest).map (c :: ·) else none
  | c :: rest => if isDigit c then (digitGroup? isDigit rest).map (c :: ·) else none

/-- The digits of a whole decimal number, which has no leading zeros. -/
def wholeDigits? (text : List Char) : Option (List Char) :=
  match digitGroup? Char.isDigit text with
  -- A single zero is fine, but nothing may follow it.
  | some ('0' :: _ :: _) => none
  | digits => digits

/-- The greatest integer. -/
def greatestInteger : Nat := Nat.pow 2 63 - 1

/-- An integer of a base that a letter names, in digits of that base. -/
def readBased? (base : Nat) (digits : List Char) : Option Int :=
  let isDigit c := match hexValue? c with
    | some value => decide (value < base)
    | none => false
  match digitGroup? isDigit digits with
  | none => none
  | some digits =>
    let value := digits.foldl (fun value c => base * value + (hexValue? c).getD 0) 0
    if value ≤ greatestInteger then some value else none

/-- An integer of 64 bits. -/
def readInteger? : List Char → Option Int
  | '0' :: 'x' :: digits => readBased? 16 digits
  | '0' :: 'o' :: digits => readBased? 8 digits
  | '0' :: 'b' :: digits => readBased? 2 digits
  | text =>
    let (negative, unsigned) := splitSign text
    match wholeDigits? unsigned with
    | none => none
    | some digits =>
      let value := ofDigits digits
      -- The least integer has no positive counterpart.
      if negative then if value ≤ greatestInteger + 1 then some (-(value : Int)) else none
      else if value ≤ greatestInteger then some value
      else none

/-- Whether a text is the exponent of a float, in its digits without underscores. -/
def exponentDigits? : List Char → Option (List Char)
  | [] => none
  | mark :: rest =>
    if mark = 'e' ∨ mark = 'E' then
      let (negative, unsigned) := splitSign rest
      (digitGroup? Char.isDigit unsigned).map fun digits =>
        'e' :: (if negative then '-' :: digits else digits)
    else none

/-- A float without its sign and without underscores. -/
def plainFloat? (unsigned : List Char) : Option (List Char) :=
  let inNumber c := c.isDigit || c == '_'
  match wholeDigits? (unsigned.takeWhile inNumber), unsigned.dropWhile inNumber with
  | some whole, '.' :: rest =>
    match digitGroup? Char.isDigit (rest.takeWhile inNumber), rest.dropWhile inNumber with
    | some fraction, [] => some (whole ++ '.' :: fraction)
    | some fraction, exponent => (exponentDigits? exponent).map (whole ++ '.' :: fraction ++ ·)
    | none, _ => none
  | some whole, exponent => (exponentDigits? exponent).map (whole ++ ·)
  | none, _ => none

/-- Whether a text is a float. A number that is too great must be negative. -/
def isFloat (text : List Char) : Bool :=
  let (negative, unsigned) := splitSign text
  if unsigned = "inf".toList ∨ unsigned = "nan".toList then true
  else
    match (plainFloat? unsigned).bind Numeral.read? with
    | none => false
    | some numeral =>
      negative || (BinaryFormat.double.ofDecimal? numeral.coefficient numeral.exponent).isSome

/-- What follows a date of the calendar. -/
def afterDate? : List Char → Option (List Char)
  | y₁ :: y₂ :: y₃ :: y₄ :: '-' :: m₁ :: m₂ :: '-' :: d₁ :: d₂ :: rest => do
    let century ← Timestamp.twoDigits? y₁ y₂
    let year ← Timestamp.twoDigits? y₃ y₄
    let month ← Timestamp.twoDigits? m₁ m₂
    let day ← Timestamp.twoDigits? d₁ d₂
    if 1 ≤ day ∧ day ≤ daysInMonth (100 * century + year) month then some rest else none
  | _ => none

/-- What follows hours and minutes. -/
def afterMinutes? : List Char → Option (List Char)
  | h₁ :: h₂ :: ':' :: m₁ :: m₂ :: rest => do
    let hour ← Timestamp.twoDigits? h₁ h₂
    let minute ← Timestamp.twoDigits? m₁ m₂
    if hour ≤ 23 ∧ minute ≤ 59 then some rest else none
  | _ => none

/-- What follows a time of day. -/
def afterTime? (text : List Char) : Option (List Char) :=
  match afterMinutes? text with
  | some (':' :: s₁ :: s₂ :: rest) => do
    let second ← Timestamp.twoDigits? s₁ s₂
    if 60 < second then none
    else
      match rest with
      | '.' :: digits =>
        if (digits.takeWhile Char.isDigit).isEmpty then none
        else some (digits.dropWhile Char.isDigit)
      | _ => some rest
  | _ => none

/-- Whether a text is an offset from universal time, or nothing. -/
def isOffset : List Char → Bool
  | [] => true
  | sign :: rest =>
    (rest.isEmpty && (sign == 'Z' || sign == 'z'))
      || ((sign == '+' || sign == '-') && afterMinutes? rest == some [])

/-- Whether a text is a date, a time, or a date and a time with or without an offset. -/
def isMoment (text : List Char) : Bool :=
  match afterDate? text with
  | none => afterTime? text == some []
  | some [] => true
  | some (mark :: time) =>
    (mark == 'T' || mark == 't' || mark == ' ')
      && match afterTime? time with
        | none => false
        | some rest => isOffset rest

/-- Whether a character may belong to a value without quotes. -/
def isBareChar (c : Char) : Bool :=
  c.isAlphanum || c == '+' || c == '-' || c == '_' || c == '.' || c == ':'

/-- Cuts off the characters of a value without quotes. A space between a date and a digit belongs
to the value. -/
def splitBare (text : List Char) : List Char × List Char :=
  let word := text.takeWhile isBareChar
  let rest := text.dropWhile isBareChar
  match rest with
  | ' ' :: digit :: more =>
    -- Only a date may go on with a time behind a space.
    if digit.isDigit ∧ afterDate? word = some [] then
      (word ++ ' ' :: (digit :: more).takeWhile isBareChar, (digit :: more).dropWhile isBareChar)
    else (word, rest)
  | _ => (word, rest)

/-- The value of a word without quotes. -/
def bareValue? (word : List Char) : Option Value :=
  if word = "true".toList then some (.boolean true)
  else if word = "false".toList then some (.boolean false)
  else
    match readInteger? word with
    | some value => some (.integer value)
    | none =>
      if isFloat word then some (.float (String.ofList word))
      else if isMoment word then some (.moment (String.ofList word))
      else none

end TypedRoutes.Toml

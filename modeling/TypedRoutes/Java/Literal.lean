import TypedRoutes.Decimal.Shortest
import TypedRoutes.Java.StringLiteral
import TypedRoutes.Param.Basic
import TypedRoutes.Timestamp

/-! Java expressions for the defaults of parameters. -/

namespace TypedRoutes.Java

/-- Whether a text has a digit other than zero in front of its exponent. -/
def hasNonzeroDigit (raw : String) : Bool :=
  (raw.toList.takeWhile fun c => c != 'e' && c != 'E').any fun c => '1' ≤ c && c ≤ '9'

/-- Whether a numeral that is not zero has become zero. -/
def underflows (raw : String) (zero : Bool) : Bool :=
  zero && hasNonzeroDigit raw

/-- The number of a numeral in a format, given its text. What is too great has none, and neither has
a numeral that is not zero but would become zero. -/
def readBinary? (format : BinaryFormat) (raw : String) (numeral : Numeral) : Option Binary :=
  match format.ofDecimal? numeral.coefficient numeral.exponent with
  | none => none
  -- Zero is told from what has become zero by the digits of the text.
  | some number => if underflows raw (number.significand == 0) then none else some number

/-- The shortest plain decimal for a default of a binary format. -/
def binaryLiteral? (format : BinaryFormat) (raw : String) : Option (List Char) :=
  match Numeral.read? raw.toList with
  | none => none
  | some numeral =>
    match readBinary? format raw numeral with
    | none => none
    | some number =>
      let digits := (Decimal.shortest format number).write
      some (if numeral.negative then '-' :: digits else digits)

/-- The canonical decimal for a default of a signed integer of so many bits. -/
def integerLiteral? (bits : Nat) (raw : String) : Option (List Char) :=
  match readInteger? raw.toList with
  | none => none
  | some value =>
    let bound : Int := Nat.pow 2 (bits - 1)
    -- There is one more negative integer than there are positive ones.
    if -bound ≤ value ∧ value < bound then some (writeInteger value) else none

/-- The text in lower case, ASCII letters only. -/
def lowerCase (text : String) : List Char :=
  text.toList.map Char.toLower

/-- The Java expression for a default of a type, where the text is one. -/
def literal? (type : ParamType) (raw : String) : Option String :=
  match type with
  | .int => (integerLiteral? 32 raw).map String.ofList
  | .long => (integerLiteral? 64 raw).map fun digits => String.ofList digits ++ "L"
  | .float => (binaryLiteral? .single raw).map fun digits => String.ofList digits ++ "f"
  | .double => (binaryLiteral? .double raw).map fun digits => String.ofList digits ++ "d"
  -- Other words than the two are refused, but case does not matter.
  | .boolean =>
    if lowerCase raw = "true".toList then some "true"
    else if lowerCase raw = "false".toList then some "false"
    else none
  | .string => some (quote raw)
  | .timestamp =>
    match Timestamp.parse? raw with
    -- No character of a timestamp needs an escape.
    | some _ => some ("Instant.parse(\"" ++ raw ++ "\")")
    | none => none

end TypedRoutes.Java

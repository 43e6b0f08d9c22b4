/-! String literals of Java. -/

namespace TypedRoutes.Java

/-- The lower-case digit for a number below sixteen. -/
def hexDigit (value : Nat) : Char :=
  if value < 10 then Char.ofNat ('0'.toNat + value) else Char.ofNat ('a'.toNat + (value - 10))

/-- The last four hexadecimal digits of a number. -/
def fourHexDigits (value : Nat) : List Char :=
  [hexDigit (value / 4096 % 16), hexDigit (value / 256 % 16),
    hexDigit (value / 16 % 16), hexDigit (value % 16)]

/-- The control characters of Unicode. -/
def isControl (c : Char) : Bool :=
  c.toNat < 0x20 || (0x7F ≤ c.toNat && c.toNat < 0xA0)

/-- A character as it stands inside a string literal. -/
def escapeChar (c : Char) : List Char :=
  if c = '\\' then ['\\', '\\']
  else if c = '"' then ['\\', '"']
  else if c = '\n' then ['\\', 'n']
  else if c = '\r' then ['\\', 'r']
  else if c = '\t' then ['\\', 't']
  -- The other control characters have no short escape.
  else if isControl c then '\\' :: 'u' :: fourHexDigits c.toNat
  else [c]

/-- A text as it stands inside a string literal. -/
def escape (text : String) : String :=
  String.ofList (text.toList.flatMap escapeChar)

/-- The string literal for a text. -/
def quote (text : String) : String :=
  "\"" ++ escape text ++ "\""

end TypedRoutes.Java

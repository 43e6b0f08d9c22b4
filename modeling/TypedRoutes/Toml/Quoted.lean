/-! Quoted strings of TOML, on one line or on several. -/

namespace TypedRoutes.Toml

/-- A blank within a line. -/
def isSpace (c : Char) : Bool :=
  c == ' ' || c == '\t'

/-- Whether a character may stand in a line of text: no control character but the tab. -/
def isLineChar (c : Char) : Bool :=
  c == '\t' || (0x20 ≤ c.toNat && c.toNat != 0x7F)

/-- What follows a line end at the start of a text. -/
def afterLineEnd? : List Char → Option (List Char)
  | '\n' :: rest => some rest
  | '\r' :: '\n' :: rest => some rest
  | _ => none

/-- A text without the line end at its start. -/
def skipLineEnd (text : List Char) : List Char :=
  (afterLineEnd? text).getD text

/-- The value of a hexadecimal digit. -/
def hexValue? (c : Char) : Option Nat :=
  if c.isDigit then some (c.toNat - '0'.toNat)
  else if 'a' ≤ c ∧ c ≤ 'f' then some (c.toNat - 'a'.toNat + 10)
  else if 'A' ≤ c ∧ c ≤ 'F' then some (c.toNat - 'A'.toNat + 10)
  else none

/-- The number of some hexadecimal digits. -/
def hexNumber? (digits : List Char) : Option Nat :=
  digits.foldlM (fun value digit => (hexValue? digit).map (16 * value + ·)) 0

/-- The character whose code is written in hexadecimal; surrogates are none. -/
def charOfHex? (digits : List Char) : Option Char :=
  match hexNumber? digits with
  | none => none
  | some code => if code.isValidChar then some (Char.ofNat code) else none

/-- The character for the letter after a backslash. -/
def escaped? : Char → Option Char
  | 'b' => some '\x08'
  | 't' => some '\t'
  | 'n' => some '\n'
  | 'f' => some '\x0c'
  | 'r' => some '\r'
  | '"' => some '"'
  | '\\' => some '\\'
  | _ => none

/-- The text of characters that were collected in reverse. -/
def ofReversed (reversed : List Char) : String :=
  String.ofList reversed.reverse

/-- A string in double quotes, from after the first quote on, and what follows it. -/
def readBasic (reversed : List Char) : List Char → Option (String × List Char)
  | '"' :: rest => some (ofReversed reversed, rest)
  | '\\' :: 'u' :: a :: b :: c :: d :: rest => do
    readBasic ((← charOfHex? [a, b, c, d]) :: reversed) rest
  | '\\' :: 'U' :: a :: b :: c :: d :: e :: f :: g :: h :: rest => do
    readBasic ((← charOfHex? [a, b, c, d, e, f, g, h]) :: reversed) rest
  | '\\' :: mark :: rest => do
    readBasic ((← escaped? mark) :: reversed) rest
  | c :: rest => if isLineChar c ∧ c ≠ '\\' then readBasic (c :: reversed) rest else none
  | [] => none

/-- A string in single quotes, from after the first quote on, and what follows it. -/
def readLiteral (reversed : List Char) : List Char → Option (String × List Char)
  | '\'' :: rest => some (ofReversed reversed, rest)
  | c :: rest => if isLineChar c then readLiteral (c :: reversed) rest else none
  | [] => none

/-- The end of a string in triple quotes, from after the first three of them: up to two further
quotes still belong to the string. -/
def closeTriple (quote : Char) (reversed rest : List Char) : String × List Char :=
  let extra := (rest.take 2).takeWhile (· == quote)
  (ofReversed (extra ++ reversed), rest.drop extra.length)

/-- A string in three double quotes, from after the first three on, and what follows it. While
`joining`, blanks and line ends are skipped, as after a backslash at the end of a line. -/
def readBasicLines (joining : Bool) (reversed : List Char) :
    List Char → Option (String × List Char)
  | '"' :: '"' :: '"' :: rest => some (closeTriple '"' reversed rest)
  | '\\' :: 'u' :: a :: b :: c :: d :: rest => do
    readBasicLines false ((← charOfHex? [a, b, c, d]) :: reversed) rest
  | '\\' :: 'U' :: a :: b :: c :: d :: e :: f :: g :: h :: rest => do
    readBasicLines false ((← charOfHex? [a, b, c, d, e, f, g, h]) :: reversed) rest
  | '\\' :: mark :: rest =>
    match escaped? mark with
    | some c => readBasicLines false (c :: reversed) rest
    | none =>
      -- A backslash joins lines if nothing but blanks follows it in its line.
      if (isSpace mark ∨ mark = '\n' ∨ mark = '\r')
          ∧ (afterLineEnd? ((mark :: rest).dropWhile isSpace)).isSome then
        readBasicLines true reversed rest
      else none
  | '\r' :: '\n' :: rest =>
    readBasicLines joining (if joining then reversed else '\n' :: reversed) rest
  | c :: rest =>
    if joining ∧ (isSpace c ∨ c = '\n') then readBasicLines true reversed rest
    else if (isLineChar c ∧ c ≠ '\\') ∨ c = '\n' then readBasicLines false (c :: reversed) rest
    else none
  | [] => none

/-- A string in three single quotes, from after the first three on, and what follows it. -/
def readLiteralLines (reversed : List Char) : List Char → Option (String × List Char)
  | '\'' :: '\'' :: '\'' :: rest => some (closeTriple '\'' reversed rest)
  | '\r' :: '\n' :: rest => readLiteralLines ('\n' :: reversed) rest
  | c :: rest =>
    if isLineChar c ∨ c = '\n' then readLiteralLines (c :: reversed) rest else none
  | [] => none

/-- A quoted string on one line, and what follows it. -/
def readQuoted? : List Char → Option (String × List Char)
  | '"' :: rest => readBasic [] rest
  | '\'' :: rest => readLiteral [] rest
  | _ => none

/-- A quoted string on one line or in triple quotes, and what follows it. -/
def readString? : List Char → Option (String × List Char)
  | '"' :: '"' :: '"' :: rest => readBasicLines false [] (skipLineEnd rest)
  | '\'' :: '\'' :: '\'' :: rest => readLiteralLines [] (skipLineEnd rest)
  | text => readQuoted? text

end TypedRoutes.Toml

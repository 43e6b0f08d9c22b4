/-! Lines of a text, with the character offsets at which they start. -/

namespace TypedRoutes.Report

/-- One line, together with the characters that end it. -/
structure Line where
  /-- Offset of its first character. -/
  start : Nat
  /-- Its characters. -/
  chars : List Char
  deriving DecidableEq

/-- The characters after which a line ends. -/
def isLineEnd (c : Char) : Bool :=
  (0xA ≤ c.toNat && c.toNat ≤ 0xD) || c.toNat == 0x85 || c.toNat == 0x2028 || c.toNat == 0x2029

/-- A line that starts at an offset, given by its characters in reverse. -/
def lineOfReversed (start : Nat) (reversed : List Char) : Line :=
  ⟨start, reversed.reverse⟩

/-- Cuts a text into lines, where `reversed` is the part read so far of the line that starts at
`start`. A carriage return and the line feed after it end a line together. -/
def splitLinesFrom (start : Nat) (reversed : List Char) : List Char → List Line
  | [] => if reversed.isEmpty then [] else [lineOfReversed start reversed]
  | '\r' :: '\n' :: rest =>
    let line := lineOfReversed start ('\n' :: '\r' :: reversed)
    line :: splitLinesFrom (start + line.chars.length) [] rest
  | c :: rest =>
    if isLineEnd c then
      let line := lineOfReversed start (c :: reversed)
      line :: splitLinesFrom (start + line.chars.length) [] rest
    else splitLinesFrom start (c :: reversed) rest

/-- The lines of a text. An empty text is one empty line; a line end at the end of the text starts
no further line. -/
def splitLines (text : String) : List Line :=
  if text.isEmpty then [⟨0, []⟩] else splitLinesFrom 0 [] text.toList

/-- The lines of a text together with its size in characters. -/
structure Page where
  lines : List Line
  size : Nat

/-- The page of a text. -/
def Page.ofText (text : String) : Page :=
  ⟨splitLines text, text.length⟩

/-- The index of the last line that starts at or before an offset of the page. -/
def Page.lineOf? (page : Page) (offset : Nat) : Option Nat :=
  if page.size < offset then none
  else some ((page.lines.takeWhile fun line => line.start ≤ offset).length - 1)

/-- Line and column of an offset, both counted from one. -/
def Page.position? (page : Page) (offset : Nat) : Option (Nat × Nat) :=
  match page.lineOf? offset with
  | none => none
  | some index =>
    match page.lines[index]? with
    | none => none
    | some line => some (index + 1, offset - line.start + 1)

end TypedRoutes.Report

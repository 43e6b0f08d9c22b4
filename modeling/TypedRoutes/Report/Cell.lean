import TypedRoutes.Text.Blank
import TypedRoutes.Text.Width

/-! Coloured text for a terminal, and characters spread over the columns of a line. -/

namespace TypedRoutes.Report

/-- The colours of a report. -/
inductive Colour where
  | red
  | blue
  /-- Frames and line numbers. -/
  | margin
  /-- The bar beside rows that are no lines of the text. -/
  | gutter
  /-- Text without a label. -/
  | plain
  /-- The word that starts a help line. -/
  | help
  deriving DecidableEq

/-- The number of a colour in a terminal's escape sequence. -/
def Colour.code : Colour → String
  | red => "31"
  | blue => "34"
  | margin => "38;5;246"
  | gutter => "38;5;240"
  | plain => "38;5;249"
  | help => "38;5;115"

/-- A text in a colour, after which the terminal is reset. -/
def Colour.paint (colour : Colour) (text : String) : String :=
  "\x1b[" ++ colour.code ++ "m" ++ text ++ "\x1b[0m"

/-- Distance of tab stops. -/
def tabWidth : Nat := 4

/-- A character at a column of its line as it is shown: every blank is a space, and a tab is as
many spaces as reach the next stop. -/
def shownChar (column : Nat) (c : Char) : List Char :=
  if c = '\t' then List.replicate (tabWidth - column % tabWidth) ' '
  else if isBlank c then [' ']
  else [c]

/-- The number of columns that a character at a column of its line takes. -/
def shownWidth (column : Nat) (c : Char) : Nat :=
  if c = '\t' then tabWidth - column % tabWidth
  else if isBlank c then 1
  else displayWidth c

/-- Cells for a place of some width: one text for the first cell and one for each of the others,
each cell in its own colour. -/
def cells (width : Nat) (first : Colour × String) (other : Colour × String) : String :=
  match width with
  | 0 => ""
  | more + 1 =>
    first.1.paint first.2 ++ String.join (List.replicate more (other.1.paint other.2))

/-- Uncoloured spaces. -/
def spaces (width : Nat) : String :=
  String.ofList (List.replicate width ' ')

end TypedRoutes.Report

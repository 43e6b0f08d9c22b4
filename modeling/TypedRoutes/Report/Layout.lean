import TypedRoutes.Report.Cell
import TypedRoutes.Report.Lines
import TypedRoutes.Text.Span
import TypedRoutes.Text.Split

/-! Error reports that show the lines of a text with labelled places. Offsets count characters. -/

namespace TypedRoutes.Report

/-- A place of the text and what is said about it. -/
structure Label where
  /-- The first character and the one after the last. -/
  span : Span
  /-- What is said. -/
  text : String
  /-- The colour of the place and of the line that leads to the text. -/
  colour : Colour
  deriving DecidableEq

/-- What is reported. -/
structure Diagnostic where
  /-- The error in one line. -/
  message : String
  /-- The offset that the heading names. -/
  place : Nat
  /-- The labelled places. -/
  labels : List Label
  /-- A line of advice. -/
  help : Option String
  deriving DecidableEq

namespace Label

/-- The number of characters. -/
def size (label : Label) : Nat :=
  label.span.stop - label.span.start

/-- The character at which the line to the text starts: the middle one. -/
def middle (label : Label) : Nat :=
  (label.span.start + label.span.stop) / 2

/-- Whether a character belongs to the place. -/
def covers (label : Label) (offset : Nat) : Bool :=
  label.span.start ≤ offset && offset < label.span.stop

/-- Whether the place lies on the page. -/
def onPage (label : Label) (page : Page) : Bool :=
  (page.lineOf? label.span.start).isSome
    && (label.span.stop ≤ label.span.start || (page.lineOf? (label.span.stop - 1)).isSome)

/-- Whether the place lies within a line. -/
def within (label : Label) (line : Line) : Bool :=
  line.start ≤ label.span.start && label.span.stop ≤ line.start + line.chars.length

/-- The order in which labels are written: by their middles, the later start first. -/
def precedes (first second : Label) : Bool :=
  first.middle < second.middle
    || (first.middle == second.middle && second.span.start ≤ first.span.start)

/-- The first of the shortest labels that cover a character. -/
def shortest? (labels : List Label) (offset : Nat) : Option Label :=
  (labels.filter (·.covers offset)).foldl (fun best label =>
    -- A later label of the same size does not take the place of an earlier one.
    match best with
    | none => some label
    | some shorter => if label.size < shorter.size then some label else best) none

end Label

/-- One line of the text that is shown with its labels, in the order in which they are written. -/
structure Excerpt where
  line : Line
  labels : List Label

namespace Excerpt

/-- The characters that are shown: those of the line without blanks at its end. -/
def shown (excerpt : Excerpt) : List Char :=
  (excerpt.line.chars.reverse.dropWhile isBlank).reverse

/-- The number of columns of the rows below the line: two more than the labels reach. -/
def columns (excerpt : Excerpt) : Nat :=
  (excerpt.labels.map fun label => label.span.stop - excerpt.line.start).foldl max 0 + 2

/-- The width of a column; past the end of the line it is one. -/
def width (excerpt : Excerpt) (column : Nat) : Nat :=
  match excerpt.shown[column]? with
  | some c => shownWidth column c
  | none => 1

/-- The label whose line starts at a column, the first one among the given. -/
def barAt? (excerpt : Excerpt) (labels : List Label) (column : Nat) : Option Label :=
  labels.find? fun label => label.middle == excerpt.line.start + column

/-- The text of the line, each character in the colour of the shortest label that covers it. -/
def text (excerpt : Excerpt) : String :=
  String.join (excerpt.shown.mapIdx fun column c =>
    let colour := match Label.shortest? excerpt.labels (excerpt.line.start + column) with
      | some label => label.colour
      | none => .plain
    String.join ((shownChar column c).map fun shown => colour.paint (String.singleton shown)))

/-- A row between the line and a label's text: the bars of the labels that are still to come, and
in the first such row also the underlines of all labels. -/
def barRow (excerpt : Excerpt) (underlined : Bool) (pending : List Label) : String :=
  String.join ((List.range excerpt.columns).map fun column =>
    let width := excerpt.width column
    -- Underlines are drawn in the first row only.
    let under :=
      if underlined then Label.shortest? excerpt.labels (excerpt.line.start + column) else none
    match excerpt.barAt? pending column, under with
    | some bar, some _ => cells width (bar.colour, "┬") (bar.colour, "─")
    | some bar, none => cells width (bar.colour, "│") (bar.colour, " ")
    | none, some line => cells width (line.colour, "─") (line.colour, "─")
    | none, none => spaces width)

/-- The row with a label's text, which is the first of the pending labels. -/
def textRow (excerpt : Excerpt) (label : Label) (pending : List Label) : String :=
  String.join ((List.range excerpt.columns).map fun column =>
    let width := excerpt.width column
    let start := label.middle - excerpt.line.start
    -- The line turns to the right at the middle of the place and runs on to the text.
    if column = start then cells width (label.colour, "╰") (label.colour, "─")
    else if start < column then cells width (label.colour, "─") (label.colour, "─")
    else
      match excerpt.barAt? pending column with
      | some bar => cells width (bar.colour, "│") (label.colour, " ")
      | none => spaces width)
  ++ " " ++ label.text

/-- The rows below the line, two for each label. -/
def labelRows (excerpt : Excerpt) (underlined : Bool) : List Label → List String
  | [] => []
  | label :: rest =>
    excerpt.barRow underlined (label :: rest)
      :: excerpt.textRow label (label :: rest)
      :: labelRows excerpt false rest

end Excerpt

/-- A text in a field of some width, moved to the right. -/
def alignRight (width : Nat) (text : String) : String :=
  spaces (width - text.length) ++ text

/-- The start of a row that is no line of the text. -/
def gutter (width : Nat) : String :=
  " " ++ Colour.gutter.paint (spaces (width + 1) ++ "│") ++ " "

/-- The rows for the line of an index, with its labels. -/
def lineRows (width index : Nat) (excerpt : Excerpt) : List String :=
  (" " ++ Colour.margin.paint (alignRight width (toString (index + 1)) ++ " │") ++ " "
    ++ excerpt.text)
  :: (excerpt.labelRows true excerpt.labels).map (gutter width ++ ·)

/-- The rows for consecutive lines from an index on. Lines without labels are left out, with one
empty row for each run of them; `skipped` says that such a row was just written. -/
def linesRows (width index : Nat) (labels : List Label) (skipped : Bool) :
    List Line → List String
  | [] => []
  | line :: rest =>
    let own := (labels.filter (·.within line)).mergeSort Label.precedes
    -- A run of lines without labels leaves a single empty row.
    if own.isEmpty then
      (if skipped then [] else [gutter width]) ++ linesRows width (index + 1) labels true rest
    else
      lineRows width index ⟨line, own⟩ ++ linesRows width (index + 1) labels false rest

/-- The lines from the one with the first labelled character to the one with the last: the index of
the first line and the index after the last line. -/
def shownLines (page : Page) (labels : List Label) : Nat × Nat :=
  let start := (labels.map (·.span.start)).min?.getD 0
  let stop := (labels.map (·.span.stop)).max?.getD 0
  let first := (page.lineOf? start).getD 0
  -- An empty place has no last character, so its start is taken.
  let last := match page.lineOf? (max (stop - 1) start) with
    | some index => index + 1
    | none => page.lines.length
  (first, last)

/-- Line and column of an offset as headings show them. -/
def location (page : Page) (offset : Nat) : String :=
  match page.position? offset with
  | some (line, column) => toString line ++ ":" ++ toString column
  | none => "?:?"

/-- The frame around the lines: heading, lines, help and closing rule. -/
def frame (page : Page) (diagnostic : Diagnostic) (labels : List Label) (fileName : String) :
    List String :=
  let (first, last) := shownLines page labels
  let width := (toString last).length
  let margin := Colour.margin.paint
  let indent := spaces (width + 2)
  [indent ++ margin "╭" ++ margin "─" ++ margin "[" ++ fileName ++ ":"
      ++ location page diagnostic.place ++ margin "]",
    indent ++ margin "│"]
  ++ linesRows width first labels false ((page.lines.drop first).take (last - first))
  ++ (match diagnostic.help with
    | some help => [gutter width, gutter width ++ Colour.help.paint "Help" ++ ": " ++ help]
    | none => [])
  ++ [margin (String.join (List.replicate (width + 2) "─") ++ "╯")]

/-- The report on a text. Places outside the text are not shown, and without any place there is only
the message. -/
def Diagnostic.render (diagnostic : Diagnostic) (text fileName : String) : String :=
  let page := Page.ofText text
  -- A label outside the page would have no line to stand below.
  let labels := diagnostic.labels.filter (·.onPage page)
  let heading := Colour.red.paint "Error:" ++ " " ++ diagnostic.message
  let rows := heading :: if labels.isEmpty then [] else frame page diagnostic labels fileName
  joinLines rows

end TypedRoutes.Report

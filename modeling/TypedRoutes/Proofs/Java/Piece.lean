import TypedRoutes.Proofs.Java.Literal
import TypedRoutes.Proofs.Text.Split

/-! Lines of code as pieces: words, marks and string literals, which Java reads one by one where
each piece ends before the next. -/

namespace TypedRoutes.Java

/-- A piece of a line of code. -/
inductive Piece where
  /-- A name or a word of the language. -/
  | word (text : String)
  /-- A space or a tab. -/
  | blank (c : Char)
  /-- A separator or an operator of one character. -/
  | mark (c : Char)
  /-- The string literal for a value. -/
  | quoted (value : String)

namespace Piece

/-- A piece as it is written. -/
def text : Piece → List Char
  | word text => text.toList
  | blank c => [c]
  | mark c => [c]
  | quoted value => (quote value).toList

/-- A piece behind the translation of escapes. -/
def image : Piece → List Char
  | quoted value => '"' :: translatedBody value ++ ['"']
  | piece => piece.text

/-- A piece as it is read. -/
def lexemes : Piece → List Lexeme
  | word text => [.ofWord text]
  | blank _ => []
  | mark c => [.symbol (String.singleton c)]
  | quoted value => [.string value]

/-- Whether a piece ends the word or the literal before it. -/
def isEnd : Piece → Bool
  | blank _ => true
  | mark _ => true
  | _ => false

/-- Marks that no other symbol starts with. -/
def loneMarks : List Char :=
  ['(', ')', '\x7b', '\x7d', ';', ',', '@']

/-- What may come behind a piece. -/
def Before : Piece → Option Piece → Prop
  | word text, next => isIdentifier text = true ∧ next.any isEnd = true
  | blank c, _ => c ∈ [' ', '\t']
  | mark c, next =>
    c ∈ loneMarks ∨ c = '=' ∧ next = some (.blank ' ') ∨ c = '.' ∧ ∃ name, next = some (.word name)
  | quoted _, next => next.any isEnd = true

end Piece

/-- Pieces of which each may come before the next. -/
def Fits : List Piece → Prop
  | [] => True
  | piece :: rest => piece.Before rest.head? ∧ Fits rest

/-- Pieces side by side. -/
def textOf (pieces : List Piece) : List Char :=
  pieces.flatMap Piece.text

/-- What is read from them. -/
def lexemesOf (pieces : List Piece) : List Lexeme :=
  pieces.flatMap Piece.lexemes

/-- Pieces side by side have their lexemes side by side. -/
theorem lexemesOf_append (first second : List Piece) :
    lexemesOf (first ++ second) = lexemesOf first ++ lexemesOf second :=
  List.flatMap_append

/-- Pieces in lines have the lexemes of the lines, one line after the other. -/
theorem lexemesOf_flatten (lines : List (List Piece)) :
    lexemesOf lines.flatten = (lines.map lexemesOf).flatten := by
  -- The induction is on the lines.
  induction lines with
  | nil => rfl
  | cons line lines ih =>
    rw [List.flatten_cons, lexemesOf_append, ih, List.map_cons, List.flatten_cons]

/-! One piece. -/

/-- Marks are no letters, no digits, no quotes and no line ends. -/
theorem listed_of_mark {c : Char} {next : Option Piece} (before : (Piece.mark c).Before next) :
    c ∈ '=' :: '.' :: Piece.loneMarks := by
  -- The equals sign and the point are marks too, where the right piece follows.
  rcases before with lone | ⟨rfl, -⟩ | ⟨rfl, -⟩
  · simp [lone]
  · decide
  · decide

/-- A piece stays on its line, and escapes are translated in it alone. -/
theorem Piece.translates {piece : Piece} {next : Option Piece} (before : piece.Before next) :
    Translates piece.text piece.image ∧ ∀ c ∈ piece.text, c ∉ ['\n', '\r'] := by
  -- Only a literal may have escapes in it.
  have plain {text : List Char} (tame : Tame text) :
      Translates text text ∧ ∀ c ∈ text, c ∉ ['\n', '\r'] := by
    refine ⟨.plain fun member => tame _ member (by decide), fun c member ending => ?_⟩
    exact tame c member (List.mem_cons_of_mem _ ending)
  cases piece with
  | word text => exact plain (.identifier before.1)
  | blank c =>
    have tame : Tame [' ', '\t'] := by decide
    exact plain (tame.singleton before)
  | mark c =>
    have tame : Tame ('=' :: '.' :: Piece.loneMarks) := by decide
    exact plain (tame.singleton (listed_of_mark before))
  | quoted value =>
    have line := expresses_quote value
    refine ⟨translates_quote value, fun c member ending => ?_⟩
    simp only [List.mem_cons, List.not_mem_nil, or_false] at ending
    rcases ending with rfl | rfl
    · exact line.lineFeed member
    · exact line.carriageReturn member

/-- A piece that ends others starts with a character that no word and no literal goes on with. -/
theorem exists_end {pieces : List Piece} (fits : Fits pieces)
    (ends : pieces.head?.any Piece.isEnd = true) :
    ∃ c rest, pieces.flatMap Piece.image = c :: rest ∧ isWordPart c = false ∧ c ≠ '"' := by
  -- Only a blank or a mark ends others, and the first piece is one of them.
  cases pieces with
  | nil => cases ends
  | cons piece rest =>
    have here := fits.1
    cases piece with
    | word text => cases ends
    | quoted value => cases ends
    | blank c =>
      simp only [Piece.Before, List.mem_cons, List.not_mem_nil, or_false] at here
      refine ⟨c, _, rfl, ?_, ?_⟩ <;> rcases here with rfl | rfl <;> decide
    | mark c =>
      have listed := listed_of_mark here
      simp only [Piece.loneMarks, List.mem_cons, List.not_mem_nil, or_false] at listed
      refine ⟨c, _, rfl, ?_⟩
      rcases listed with rfl | rfl | rfl | rfl | rfl | rfl | rfl | rfl | rfl <;> decide

/-- Pieces that fit are read one by one. -/
theorem reads_pieces {pieces : List Piece} (fits : Fits pieces) (rest : List Char) :
    Reads (pieces.flatMap Piece.image ++ rest) (lexemesOf pieces) rest := by
  -- Each piece is followed by the next one, which ends it.
  induction pieces with
  | nil => exact .done rest
  | cons piece pieces ih =>
    have later := ih fits.2
    have here := fits.1
    show Reads ((piece.image ++ pieces.flatMap Piece.image) ++ rest)
      (piece.lexemes ++ lexemesOf pieces) rest
    rw [List.append_assoc]
    refine Reads.append ?_ later
    -- What follows is left as it is, so it only matters how it begins.
    cases piece with
    | word text =>
      obtain ⟨c, more, shape, stop, -⟩ := exists_end fits.2 here.2
      rw [shape]
      exact reads_word here.1 stop _
    | blank c =>
      simp only [Piece.Before, List.mem_cons, List.not_mem_nil, or_false] at here
      rcases here with rfl | rfl
      · exact .blank _
      · exact .step (rfl : element? '\t' _ = some (none, _)) (.done _)
    | mark c =>
      rcases here with lone | ⟨rfl, next⟩ | ⟨rfl, name, next⟩
      · simp only [Piece.loneMarks, List.mem_cons, List.not_mem_nil, or_false] at lone
        rcases lone with rfl | rfl | rfl | rfl | rfl | rfl | rfl <;> exact .one rfl
      · obtain ⟨others, rfl⟩ := List.head?_eq_some_iff.mp next
        -- With a space behind it, the sign of an assignment is no part of a longer symbol.
        exact .one rfl
      · obtain ⟨others, rfl⟩ := List.head?_eq_some_iff.mp next
        -- A point in front of a name is no part of a numeral.
        have named : isIdentifier name = true := fits.2.1.1
        have point := reads_point named (others.flatMap Piece.image ++ rest)
        simpa [Piece.image, Piece.text, Piece.lexemes] using point
    | quoted value =>
      obtain ⟨c, more, shape, -, stop⟩ := exists_end fits.2 here
      rw [shape]
      have read := reads_string value stop (more ++ rest)
      simpa [Piece.image, Piece.lexemes] using read

/-- Pieces that fit stay on one line, and escapes are translated in each of them. -/
theorem translates_pieces {pieces : List Piece} (fits : Fits pieces) :
    Translates (textOf pieces) (pieces.flatMap Piece.image) ∧
      ∀ c ∈ textOf pieces, c ∉ ['\n', '\r'] := by
  -- The induction is on the pieces; the text of each is translated apart from the next.
  induction pieces with
  | nil => exact ⟨.nil, by simp [textOf]⟩
  | cons piece pieces ih =>
    have first := Piece.translates fits.1
    have later := ih fits.2
    refine ⟨first.1.append later.1, fun c member => ?_⟩
    rcases List.mem_append.mp member with early | late
    · exact first.2 c early
    · exact later.2 c late

/-- A line of pieces that fit is read as their lexemes. -/
theorem expresses_pieces {line : String} {pieces : List Piece} (fits : Fits pieces)
    (shape : line.toList = textOf pieces) : Expresses [] line (lexemesOf pieces) := by
  -- Pieces are on one line, and nothing is asked of what follows them.
  have whole := translates_pieces fits
  rw [← shape] at whole
  exact ⟨fun member => whole.2 _ member (by decide), fun member => whole.2 _ member (by decide),
    pieces.flatMap Piece.image, whole.1, fun rest => reads_pieces fits rest⟩

/-! Pieces that are put together. -/

/-- Pieces that fit in front of whatever fits. -/
structure Leads (front : List Piece) : Prop where
  /-- So they fit in front of anything that does. -/
  before : ∀ rest, Fits rest → Fits (front ++ rest)

/-- Pieces that fit in front of whatever ends a word. -/
structure Closes (front : List Piece) : Prop where
  /-- So they fit in front of anything that does and ends a word. -/
  before : ∀ rest, rest.head?.any Piece.isEnd = true → Fits rest → Fits (front ++ rest)

/-- No pieces fit in front of anything. -/
theorem leads_nil : Leads [] :=
  ⟨fun _ fits => fits⟩

/-- What fits in front of anything may be put side by side. -/
theorem Leads.append {front back : List Piece} (first : Leads front) (second : Leads back) :
    Leads (front ++ back) := by
  -- The second group is what the first one stands in front of.
  constructor
  intro rest fits
  rw [List.append_assoc]
  exact first.before _ (second.before rest fits)

/-- What ends a word and leads on may come behind what needs an end. -/
theorem Closes.append {front back : List Piece} (first : Closes front) (second : Leads back)
    (ends : back.head?.any Piece.isEnd = true) : Leads (front ++ back) := by
  -- The end that the first group needs is the first piece of the second one.
  constructor
  intro rest fits
  rw [List.append_assoc]
  refine first.before _ ?_ (second.before rest fits)
  cases back with
  | nil => cases ends
  | cons piece back => exact ends

/-- In front of pieces that need an end, the whole needs an end. -/
theorem Leads.closes {front back : List Piece} (first : Leads front) (second : Closes back) :
    Closes (front ++ back) := by
  constructor
  intro rest ends fits
  rw [List.append_assoc]
  exact first.before _ (second.before rest ends fits)

/-- Pieces that fit in front of anything fit by themselves. -/
theorem Leads.fits {pieces : List Piece} (leads : Leads pieces) : Fits pieces := by
  -- Nothing at all is one of the things they fit in front of.
  have whole := leads.before [] trivial
  rwa [List.append_nil] at whole

/-- A name needs an end behind it. -/
theorem closes_word {name : String} (named : isIdentifier name = true) :
    Closes [.word name] :=
  ⟨fun _ ends fits => ⟨⟨named, ends⟩, fits⟩⟩

/-- So does a string literal. -/
theorem closes_quoted (value : String) : Closes [.quoted value] :=
  ⟨fun _ ends fits => ⟨ends, fits⟩⟩

/-- Words with a space behind each. -/
def spaced (words : List String) : List Piece :=
  words.flatMap fun word => [.word word, .blank ' ']

/-- Words with a space behind each fit in front of anything. -/
theorem leads_spaced (words : List String) (named : ∀ word ∈ words, isIdentifier word = true) :
    Leads (spaced words) := by
  -- The induction is on the words, each of which is ended by its own space.
  induction words with
  | nil => exact leads_nil
  | cons word words ih =>
    have space : Leads [.blank ' '] := ⟨fun rest fits => ⟨by simp [Piece.Before], fits⟩⟩
    have first := (closes_word (named word (by simp))).append space rfl
    exact first.append (ih fun other member => named other (by simp [member]))

/-- Marks as they are written, with spaces between some of them. -/
def marks (chars : List Char) : List Piece :=
  chars.map fun c => if c = ' ' then .blank c else .mark c

/-- Marks and spaces fit in front of anything. -/
theorem leads_marks (chars : List Char) (known : chars ⊆ ' ' :: Piece.loneMarks) :
    Leads (marks chars) := by
  -- The induction is on the characters.
  induction chars with
  | nil => exact leads_nil
  | cons c chars ih =>
    obtain ⟨first, others⟩ := List.cons_subset.mp known
    have later := ih others
    constructor
    intro rest fits
    -- A space fits in front of anything, and so does a mark that no longer symbol starts with.
    rcases List.mem_cons.mp first with rfl | lone
    · exact ⟨by simp [Piece.Before], later.before rest fits⟩
    · have other : c ≠ ' ' := by
        rintro rfl
        exact absurd lone (by decide)
      rw [marks, List.map_cons, if_neg other]
      exact ⟨Or.inl lone, later.before rest fits⟩

/-- Marks end what stands before them. -/
theorem Closes.marks {front : List Piece} (first : Closes front) (c : Char) (chars : List Char)
    (known : c :: chars ⊆ ' ' :: Piece.loneMarks) :
    Leads (front ++ marks (c :: chars)) := by
  -- The first of the marks is a piece that ends others.
  apply first.append (leads_marks (c :: chars) known)
  show (if c = ' ' then Piece.blank c else .mark c).isEnd = true
  split <;> rfl

/-- An equals sign has a space behind it. -/
theorem leads_equals : Leads (marks ['=', ' ']) :=
  ⟨fun _ fits => ⟨Or.inr (Or.inl ⟨rfl, rfl⟩), (by decide : ' ' ∈ [' ', '\t']), fits⟩⟩

/-- The characters of an indent. -/
def indentPieces (indent : String) : List Piece :=
  indent.toList.map .blank

/-- An indent fits in front of anything. -/
theorem leads_indent {indent : String} (blank : ∀ c ∈ indent.toList, c ∈ [' ', '\t']) :
    Leads (indentPieces indent) := by
  unfold indentPieces
  -- The induction is on the characters, which have to be any list for it.
  generalize indent.toList = chars at blank
  induction chars with
  | nil => exact leads_nil
  | cons c chars ih =>
    have later := ih fun other member => blank other (by simp [member])
    exact ⟨fun rest fits => ⟨blank c (by simp), later.before rest fits⟩⟩

/-- An indent has no lexemes. -/
theorem lexemesOf_indentPieces (indent : String) : lexemesOf (indentPieces indent) = [] := by
  simp [lexemesOf, indentPieces, List.flatMap_map, Piece.lexemes]

/-- Something between the first group and the others, if there are any. -/
theorem intercalate_cons_cons {α : Type} (between group next : List α) (groups : List (List α)) :
    between.intercalate (group :: next :: groups) =
      group ++ (between ++ between.intercalate (next :: groups)) := by
  simp [List.intercalate]

/-- No pieces have no text. -/
@[simp] theorem textOf_nil : textOf [] = [] :=
  rfl

/-- The text of the first piece stands first. -/
@[simp] theorem textOf_cons (piece : Piece) (pieces : List Piece) :
    textOf (piece :: pieces) = piece.text ++ textOf pieces :=
  List.flatMap_cons

/-- Pieces side by side have their texts side by side. -/
@[simp] theorem textOf_append (first second : List Piece) :
    textOf (first ++ second) = textOf first ++ textOf second :=
  List.flatMap_append

/-- Each word is written with its space. -/
@[simp] theorem textOf_spaced (words : List String) :
    textOf (spaced words) = words.flatMap fun word => word.toList ++ [' '] := by
  simp [textOf, spaced, List.flatMap_assoc, Piece.text]

/-- Marks are written as they are. -/
@[simp] theorem textOf_marks (chars : List Char) : textOf (marks chars) = chars := by
  -- Spaces are blanks and the others are marks, but both are written as the character.
  have each (c : Char) : (if c = ' ' then Piece.blank c else .mark c).text = [c] := by
    split <;> rfl
  simp [textOf, marks, List.flatMap_map, each]

/-- An indent is written as it is. -/
@[simp] theorem textOf_indentPieces (indent : String) :
    textOf (indentPieces indent) = indent.toList := by
  simp [textOf, indentPieces, List.flatMap_map, Piece.text]

/-- What items are made of, group by group with something between the groups. -/
theorem flatMap_intercalate {α β : Type} (parts : α → List β) (between : List α)
    (groups : List (List α)) : (between.intercalate groups).flatMap parts =
      (between.flatMap parts).intercalate (groups.map (List.flatMap parts)) := by
  -- The induction is on the groups; with two of them at least, the first is put in front.
  induction groups with
  | nil => rfl
  | cons group groups ih =>
    cases groups with
    | nil => simp [List.intercalate]
    | cons next groups =>
      rw [intercalate_cons_cons, List.flatMap_append, List.flatMap_append, ih]
      exact (intercalate_cons_cons _ _ _ _).symm

/-- Groups with something between them have texts with its text between them. -/
theorem textOf_intercalate (between : List Piece) (groups : List (List Piece)) :
    textOf (between.intercalate groups) = (textOf between).intercalate (groups.map textOf) :=
  flatMap_intercalate Piece.text between groups

/-- Groups with something between them have lexemes with its lexemes between them. -/
theorem lexemesOf_intercalate (between : List Piece) (groups : List (List Piece)) :
    lexemesOf (between.intercalate groups) =
      (lexemesOf between).intercalate (groups.map lexemesOf) :=
  flatMap_intercalate Piece.lexemes between groups

/-- Groups of pieces with others between them. -/
theorem closes_intercalate {between : List Piece} {groups : List (List Piece)}
    (ends : between.head?.any Piece.isEnd = true) (each : ∀ group ∈ groups, Closes group)
    (bridge : ∀ group ∈ groups, ∀ rest, Fits (group ++ rest) → Fits (between ++ (group ++ rest))) :
    Closes (between.intercalate groups) := by
  -- The induction is on the groups, each of which is ended by what is between.
  induction groups with
  | nil => exact ⟨fun rest _ fits => fits⟩
  | cons group groups ih =>
    have first := each group (by simp)
    cases groups with
    | nil => simpa [List.intercalate] using first
    | cons next groups =>
      have later := ih (fun other member => each other (by simp [member]))
        fun other member => bridge other (by simp [member])
      constructor
      intro rest stop fits
      -- Whatever follows, the next group stands behind what is between.
      have begun : ∃ tail, between.intercalate (next :: groups) ++ rest = next ++ tail := by
        cases groups with
        | nil => exact ⟨rest, by simp [List.intercalate]⟩
        | cons third groups => exact ⟨_, by rw [intercalate_cons_cons, List.append_assoc]⟩
      obtain ⟨tail, shape⟩ := begun
      have joined := later.before rest stop fits
      rw [shape] at joined
      rw [intercalate_cons_cons, List.append_assoc, List.append_assoc, shape]
      refine first.before _ ?_ (bridge next (by simp) tail joined)
      cases between with
      | nil => cases ends
      | cons piece between => exact ends

/-- Names with dots between them. -/
def dotted (name : String) : List Piece :=
  [.mark '.'].intercalate ((partsOf '.' name).map fun part => [.word part])

/-- Groups of pieces as a list with commas. -/
def listed (groups : List (List Piece)) : List Piece :=
  [.mark ',', .blank ' '].intercalate groups

/-- A dotted name needs an end behind it, as a single name does. -/
theorem closes_dotted {name : String} (joined : isDottedIdentifier name = true) :
    Closes (dotted name) := by
  have named : ∀ part ∈ partsOf '.' name, isIdentifier part = true := fun part member =>
    isIdentifier_iff.mpr (isDottedIdentifier_iff_parts.mp joined part member)
  apply closes_intercalate rfl
  · exact List.forall_mem_map.mpr fun part member => closes_word (named part member)
  -- Behind a dot there is a name.
  · refine List.forall_mem_map.mpr fun part _ rest fits => ⟨?_, fits⟩
    exact Or.inr (Or.inr ⟨rfl, part, rfl⟩)

/-- A dotted name is written as it is. -/
@[simp] theorem textOf_dotted (name : String) : textOf (dotted name) = name.toList := by
  -- Between the parts there are the dots that the name was cut at.
  have whole := congrArg String.toList (intercalate_partsOf '.' name)
  rw [String.toList_intercalate] at whole
  rw [dotted, textOf_intercalate, List.map_map]
  simpa [textOf, Piece.text, Function.comp_def] using whole

/-- A list is written with a comma and a space between its groups. -/
@[simp] theorem textOf_listed (groups : List (List Piece)) :
    textOf (listed groups) = ", ".toList.intercalate (groups.map textOf) :=
  textOf_intercalate _ groups

/-- A list of groups that need an end needs one itself. -/
theorem closes_listed {groups : List (List Piece)} (each : ∀ group ∈ groups, Closes group) :
    Closes (listed groups) := by
  -- A comma ends what is before it, and there is a space behind it.
  apply closes_intercalate rfl each
  intro group _ rest fits
  exact ⟨Or.inl (by decide), by simp [Piece.Before], fits⟩

end TypedRoutes.Java

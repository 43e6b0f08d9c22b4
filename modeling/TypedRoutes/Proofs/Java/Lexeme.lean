import TypedRoutes.Proofs.Lists
import TypedRoutes.Proofs.Java.StringLiteral
import TypedRoutes.Proofs.Text.Identifier

/-! The second pass of Java over source text: lexemes, each as long as it can be. Text that uses more
of the language than is known here is refused, so what is read is what Java reads. -/

namespace TypedRoutes.Java

/-- The kinds of numerals. -/
inductive NumeralKind where
  | int
  | long
  | float
  | double
  deriving DecidableEq

/-- A lexeme; blanks and comments are none. -/
inductive Lexeme where
  | identifier (name : String)
  | keyword (word : String)
  | boolean (value : Bool)
  | null
  /-- A numeral as it is written, with its suffix. -/
  | numeral (kind : NumeralKind) (text : String)
  /-- A string literal, given by its value. -/
  | string (value : String)
  /-- A separator or an operator. -/
  | symbol (text : String)
  deriving DecidableEq

/-- The reserved words of the language. -/
def reservedWords : List String :=
  ["abstract", "continue", "for", "new", "switch", "assert", "default", "if", "package",
    "synchronized", "boolean", "do", "goto", "private", "this", "break", "double", "implements",
    "protected", "throw", "byte", "else", "import", "public", "throws", "case", "enum",
    "instanceof", "return", "transient", "catch", "extends", "int", "short", "try", "char", "final",
    "interface", "static", "void", "class", "finally", "long", "strictfp", "volatile", "const",
    "float", "native", "super", "while", "_"]

/-- The lexeme of a word. -/
def Lexeme.ofWord (word : String) : Lexeme :=
  if word = "true" then .boolean true
  else if word = "false" then .boolean false
  else if word = "null" then .null
  else if word ∈ reservedWords then .keyword word
  else .identifier word

/-- The characters of ASCII that may start a word. -/
def isWordStart (c : Char) : Bool :=
  c.isAlpha || c == '_' || c == '$'

/-- The characters of ASCII that may go on with a word. -/
def isWordPart (c : Char) : Bool :=
  isWordStart c || c.isDigit

/-- The characters that a numeral may run into. -/
def isNumeralPart (c : Char) : Bool :=
  isWordPart c || c == '.'

/-- Decimal digits without a zero in front, which would make the numeral octal. -/
def isWhole (text : List Char) : Bool :=
  text.all Char.isDigit && !text.isEmpty && (text.length == 1 || text.head? != some '0')

/-- Decimal digits, of which the first stands before the point if there is one. -/
def isDecimal (text : List Char) : Bool :=
  text.all (fun c => c.isDigit || c == '.') && text.head?.any Char.isDigit && text.count '.' ≤ 1

/-- The kind of a numeral, which its suffix tells. Exponents, underscores and other bases are
refused. -/
def numeralKind? (text : List Char) : Option NumeralKind :=
  let body := text.dropLast
  match text.getLast? with
  | none => none
  | some last =>
    if last = 'l' ∨ last = 'L' then if isWhole body then some .long else none
    else if last = 'f' ∨ last = 'F' then if isDecimal body then some .float else none
    else if last = 'd' ∨ last = 'D' then if isDecimal body then some .double else none
    else if isWhole text then some .int
    else if isDecimal text ∧ '.' ∈ text then some .double
    else none

/-- Separators and operators; the longer ones come first. -/
def symbols : List String :=
  [">>>=", "<<=", ">>=", ">>>", "...", "->", "::", "++", "--", "&&", "||", "==", "!=", "<=", ">=",
    "+=", "-=", "*=", "/=", "&=", "|=", "^=", "%=", "<<", ">>", "(", ")", "\x7b", "\x7d", "[", "]",
    ";", ",", ".", "@", "=", ">", "<", "!", "~", "?", ":", "+", "-", "*", "/", "&", "|", "^", "%"]

/-- The first symbol that a text starts with is the longest, since none comes behind a part of
itself. -/
theorem symbols_longest :
    symbols.Pairwise fun early late => early.toList.isPrefixOf late.toList = false := by
  decide

/-- Reads a symbol. A point before a digit would start a numeral, which is refused. -/
def symbol? (text : List Char) : Option (Lexeme × List Char) :=
  match symbols.find? fun symbol => symbol.toList.isPrefixOf text with
  | none => none
  | some symbol =>
    let rest := text.drop symbol.length
    if symbol = "." ∧ rest.head?.any Char.isDigit then none else some (.symbol symbol, rest)

/-- The symbol that is read is the longest one that the text starts with. -/
theorem length_le_of_symbol? {text rest : List Char} {symbol : String}
    (read : symbol? text = some (.symbol symbol, rest)) {other : String} (known : other ∈ symbols)
    (starts : other.toList <+: text) : other.length ≤ symbol.length := by
  -- The symbols are searched in order, in front of the found one and behind it.
  unfold symbol? at read
  split at read
  · cases read
  · rename_i found first
    dsimp only at read
    split at read
    · cases read
    · cases read
      obtain ⟨begun, early, late, order, before⟩ := List.find?_eq_some_iff_append.mp first
      rw [order] at known
      have sorted := symbols_longest
      rw [order, List.pairwise_append, List.pairwise_cons] at sorted
      rcases List.mem_append.mp known with earlier | later
      -- An earlier symbol would have been found.
      · have missed := before other earlier
        rw [List.isPrefixOf_iff_prefix.mpr starts] at missed
        cases missed
      · rcases List.mem_cons.mp later with rfl | later
        · exact Nat.le_refl _
        -- Of two symbols at the front of a text the shorter is a part of the longer.
        · have apart := sorted.2.1.1 other later
          rw [← Bool.not_eq_true, List.isPrefixOf_iff_prefix] at apart
          refine Nat.le_of_not_lt fun longer => ?_
          have front := List.isPrefixOf_iff_prefix.mp begun
          have lengths : symbol.toList.length ≤ other.toList.length := by
            rw [String.length_toList, String.length_toList]
            omega
          exact apart (List.prefix_of_prefix_length_le front starts lengths)

/-- Reads a string literal behind its opening quote. Text blocks are refused. -/
def string? (text : List Char) : Option (Lexeme × List Char) :=
  if ['"', '"'].isPrefixOf text then none
  else (stringBody? text).map fun (value, rest) => (.string (String.ofList value), rest)

/-- What follows a comment that ends with a star and a slash. -/
def afterComment? : List Char → Option (List Char)
  | [] => none
  | c :: rest => if c = '*' ∧ rest.head? = some '/' then some rest.tail else afterComment? rest

/-- Reads a character with all that belongs to it: a lexeme, or a blank or a comment. -/
def element? (c : Char) (rest : List Char) : Option (Option Lexeme × List Char) :=
  if isWordStart c then
    some (some (.ofWord (String.ofList (c :: rest.takeWhile isWordPart))), rest.dropWhile isWordPart)
  else if c.isDigit then
    let text := c :: rest.takeWhile isNumeralPart
    (numeralKind? text).map fun kind =>
      (some (.numeral kind (String.ofList text)), rest.dropWhile isNumeralPart)
  else if c ∈ [' ', '\t', '\x0c', '\n', '\r'] then some (none, rest)
  else if c = '"' then (string? rest).map fun (lexeme, left) => (some lexeme, left)
  else if c = '/' ∧ rest.head? = some '/' then
    some (none, rest.dropWhile fun d => d != '\n' && d != '\r')
  else if c = '/' ∧ rest.head? = some '*' then
    (afterComment? rest.tail).map fun left => (none, left)
  else (symbol? (c :: rest)).map fun (lexeme, left) => (some lexeme, left)

/-- Reading a text gives some lexemes and leaves a rest, which it has looked at. -/
inductive Reads : List Char → List Lexeme → List Char → Prop where
  /-- Nothing is read. -/
  | done (rest : List Char) : Reads rest [] rest
  /-- One element is read, and then others. -/
  | step {c : Char} {rest left last : List Char} {found : Option Lexeme} {lexemes : List Lexeme}
    (element : element? c rest = some (found, left)) (behind : Reads left lexemes last) :
    Reads (c :: rest) (found.toList ++ lexemes) last

/-- Java reads a text as some lexemes: Unicode escapes are translated, and all that is left is
read. -/
def ReadAs (text : String) (lexemes : List Lexeme) : Prop :=
  ∃ image, translate? 0 text.toList = some image ∧ Reads image lexemes []

namespace Reads

/-- What is left by one reading may be read by another. -/
theorem append {text middle rest : List Char} {first second : List Lexeme}
    (begun : Reads text first middle) (ended : Reads middle second rest) :
    Reads text (first ++ second) rest := by
  -- The first reading is passed element by element.
  induction begun with
  | done => exact ended
  | step element _ ih =>
    rw [List.append_assoc]
    exact .step element (ih ended)

/-- A text has only one reading. -/
theorem unique {text : List Char} {first second : List Lexeme} (read : Reads text first [])
    (again : Reads text second []) : first = second := by
  -- The next element is the same in both.
  generalize ended : ([] : List Char) = rest at read
  induction read generalizing second with
  | done =>
    subst ended
    cases again
    rfl
  | step element _ ih =>
    cases again with
    | step other behind =>
      rw [element, Option.some.injEq, Prod.mk.injEq] at other
      obtain ⟨rfl, rfl⟩ := other
      rw [ih behind ended]

/-- Java reads a text in one way only. -/
theorem unique_readAs {text : String} {first second : List Lexeme} (read : ReadAs text first)
    (again : ReadAs text second) : first = second := by
  -- There is one translation, and it has one reading.
  obtain ⟨image, translated, lexed⟩ := read
  obtain ⟨other, same, relexed⟩ := again
  rw [translated, Option.some.injEq] at same
  subst same
  exact lexed.unique relexed

/-- A blank is no lexeme. -/
theorem blank (rest : List Char) : Reads (' ' :: rest) [] rest :=
  .step (rfl : element? ' ' rest = some (none, rest)) (.done rest)

/-- An element that is a lexeme is read as this lexeme. -/
theorem one {c : Char} {rest left : List Char} {lexeme : Lexeme}
    (element : element? c rest = some (some lexeme, left)) : Reads (c :: rest) [lexeme] left :=
  .step element (.done left)

end Reads

/-! One lemma for each kind of lexeme. -/

/-- A character of a kind is none of some others, if none of them is of this kind. -/
theorem not_mem_of_apart {kind : Char → Bool} {others : List Char}
    (apart : others.any kind = false) {c : Char} (belongs : kind c = true) : c ∉ others := by
  intro member
  have found : others.any kind = true := List.any_eq_true.mpr ⟨c, member, belongs⟩
  rw [apart] at found
  cases found

/-- What may stand in an identifier may stand in a word. -/
theorem isWordPart_of_isIdentifierPart {c : Char} (part : isIdentifierPart c = true) :
    isWordPart c = true := by
  simp only [isIdentifierPart, Char.isAlphanum, Bool.or_eq_true] at part
  rcases part with (alpha | digit) | underscore
  · simp [isWordPart, isWordStart, alpha]
  · simp [isWordPart, digit]
  · simp [isWordPart, isWordStart, underscore]

/-- An identifier is a word. -/
theorem exists_word {word : String} (named : isIdentifier word = true) :
    ∃ first others, word.toList = first :: others ∧ isWordStart first = true ∧
      ∀ c ∈ others, isWordPart c = true := by
  -- Letters and underscores start words as they start identifiers.
  have parts : ∀ c ∈ word.toList, isWordPart c = true :=
    fun c member => isWordPart_of_isIdentifierPart (isIdentifierPart_of_mem named member)
  unfold isIdentifier at named
  cases shape : word.toList with
  | nil => simp [shape] at named
  | cons first others =>
    rw [shape] at parts
    rw [shape, Bool.and_eq_true, isIdentifierStart] at named
    refine ⟨first, others, rfl, ?_, fun c member => parts c (List.mem_cons_of_mem first member)⟩
    rw [isWordStart, named.1, Bool.true_or]

/-- An identifier is read as a word where the next character does not belong to it. -/
theorem reads_word {word : String} (named : isIdentifier word = true) {next : Char}
    (stop : isWordPart next = false) (rest : List Char) :
    Reads (word.toList ++ next :: rest) [.ofWord word] (next :: rest) := by
  -- The word is taken up to the next character, which stops it.
  obtain ⟨first, others, shape, start, parts⟩ := exists_word named
  obtain ⟨taken, left⟩ := takeWhile_run isWordPart parts stop rest
  rw [shape, List.cons_append]
  apply Reads.one
  rw [element?, if_pos start, taken, left, ← shape, String.ofList_toList]

/-- A digit starts no word. -/
theorem isWordStart_of_isDigit {c : Char} (digit : c.isDigit = true) : isWordStart c = false := by
  -- The codes of digits are below those of letters, and no digit is one of the two marks.
  obtain ⟨low, high⟩ := isDigit_iff.mp digit
  simp only [Char.le_def, UInt32.le_iff_toNat_le] at low high
  have other : c ≠ '_' ∧ c ≠ '$' := by
    constructor
    · rintro rfl
      revert high
      decide
    · rintro rfl
      revert low
      decide
  have alpha : c.isAlpha = false := by
    rw [← Bool.not_eq_true, isAlpha_iff]
    simp only [Char.le_def, UInt32.le_iff_toNat_le]
    have codes : '9'.val.toNat = 57 ∧ 'A'.val.toNat = 65 ∧ 'a'.val.toNat = 97 := by decide
    omega
  simp [isWordStart, alpha, other]

/-- A numeral is read where it does not run into what follows. -/
theorem reads_numeral {text : List Char} {kind : NumeralKind} (known : numeralKind? text = some kind)
    (inside : ∀ c ∈ text, isNumeralPart c = true) (begun : text.head?.any Char.isDigit = true)
    {next : Char} (stop : isNumeralPart next = false) (rest : List Char) :
    Reads (text ++ next :: rest) [.numeral kind (String.ofList text)] (next :: rest) := by
  -- The first digit decides what is read, and the numeral is taken up to the next character.
  cases text with
  | nil => simp at begun
  | cons c text =>
    have digit : c.isDigit = true := by simpa using begun
    have others : ∀ d ∈ text, isNumeralPart d = true := fun d member => inside d (by simp [member])
    obtain ⟨taken, left⟩ := takeWhile_run isNumeralPart others stop rest
    apply Reads.one
    simp [element?, isWordStart_of_isDigit digit, digit, taken, left, known]

/-- A minus sign before a digit stands alone. -/
theorem reads_minus {c : Char} (digit : c.isDigit = true) (rest : List Char) :
    Reads ('-' :: c :: rest) [.symbol "-"] (c :: rest) := by
  -- None of the longer symbols that start with the sign goes on with a digit.
  have others : '>' ≠ c ∧ '-' ≠ c ∧ '=' ≠ c := by
    refine ⟨?_, ?_, ?_⟩ <;> rintro rfl <;> revert digit <;> decide
  apply Reads.one
  simp [element?, isWordStart, symbol?, symbols, List.isPrefixOf, others]
  rfl

/-- A point before a word stands alone. -/
theorem reads_point {word : String} (named : isIdentifier word = true) (rest : List Char) :
    Reads ('.' :: (word.toList ++ rest)) [.symbol "."] (word.toList ++ rest) := by
  -- None of the longer symbols that start with a point goes on with a letter.
  obtain ⟨first, others, shape, start, -⟩ := exists_word named
  have other : '.' ≠ first := by
    rintro rfl
    exact absurd start (by decide)
  -- A word does not start with a digit, so the point starts no numeral.
  have digit : first.isDigit = false := by
    rw [← Bool.not_eq_true]
    intro digit
    rw [isWordStart_of_isDigit digit] at start
    cases start
  rw [shape]
  apply Reads.one
  simp [element?, isWordStart, symbol?, symbols, List.isPrefixOf, other]
  exact ⟨digit, rfl⟩

/-- Text without characters of a special meaning is not changed by escapes. -/
theorem flatMap_translatedEscape {text : List Char}
    (plain : ∀ c ∈ text, c ∉ ['\\', '"', '\n', '\r', '\t']) :
    text.flatMap translatedEscape = text := by
  -- The induction is on the text, each character of which stands for itself.
  induction text with
  | nil => rfl
  | cons c text ih =>
    have other := plain c (by simp)
    simp only [List.mem_cons, List.not_mem_nil, or_false, not_or] at other
    rw [List.flatMap_cons, ih fun d member => plain d (by simp [member])]
    simp [translatedEscape, other]

/-- A string literal is read as its value, if no third quote makes a text block of it. -/
theorem reads_string (value : String) {next : Char} (stop : next ≠ '"') (rest : List Char) :
    Reads ('"' :: translatedBody value ++ '"' :: next :: rest) [.string value] (next :: rest) := by
  -- The first two characters behind the quote are never quotes.
  have opened : ['"', '"'].isPrefixOf (translatedBody value ++ '"' :: next :: rest) = false := by
    cases shape : value.toList with
    | nil => simp [translatedBody, shape, List.isPrefixOf, Ne.symm stop]
    | cons c others =>
      rw [translatedBody, shape, List.flatMap_cons]
      have written := escapes_escapeChar c
      generalize escapeChar c = raw, translatedEscape c = image at written
      -- An escaped character starts with a backslash, and another one is no quote.
      cases written with
      | short mark meant => simp [List.isPrefixOf]
      | code small plain | char plain =>
        have other : '"' ≠ c := fun same => plain (by simp [← same])
        simp [List.isPrefixOf, other]
  have read := stringBody?_flatMap value.toList (next :: rest)
  apply Reads.one
  rw [translatedBody] at opened ⊢
  simp [element?, isWordStart, string?, opened, read]

end TypedRoutes.Java

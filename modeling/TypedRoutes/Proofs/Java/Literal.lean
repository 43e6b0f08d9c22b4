import TypedRoutes.Java.Literal
import TypedRoutes.Proofs.Decimal.Digits
import TypedRoutes.Proofs.Java.Lexeme
import TypedRoutes.Proofs.Timestamp

/-! Java reads the expression for a default as the default: a number of the right kind, a truth
value, or a string that is the text of the template. -/

namespace TypedRoutes.Java

/-- Text without backslashes and line ends. -/
def Tame (text : List Char) : Prop :=
  ∀ c ∈ text, c ∉ ['\\', '\n', '\r']

instance (text : List Char) : Decidable (Tame text) :=
  List.decidableBAll (fun c => c ∉ ['\\', '\n', '\r']) text

/-- Java reads a text as some lexemes where the given characters come next, and the text stays on
its line. -/
structure Expresses (next : List Char) (text : String) (lexemes : List Lexeme) : Prop where
  /-- There is no line feed. -/
  lineFeed : '\n' ∉ text.toList
  /-- There is no carriage return. -/
  carriageReturn : '\r' ∉ text.toList
  /-- The lexemes are read from the translated text. -/
  read : ∃ image, Translates text.toList image ∧
    ∀ rest, Reads (image ++ (next ++ rest)) lexemes (next ++ rest)

/-- A numeral of a kind, perhaps with a minus sign. -/
def IsNumber (kind : NumeralKind) (lexemes : List Lexeme) : Prop :=
  ∃ text, lexemes = [.numeral kind text] ∨ lexemes = [.symbol "-", .numeral kind text]

/-- The lexemes of a default of a type. -/
def IsDefault (type : ParamType) (raw : String) (lexemes : List Lexeme) : Prop :=
  match type with
  | .int => IsNumber .int lexemes
  | .long => IsNumber .long lexemes
  | .float => IsNumber .float lexemes
  | .double => IsNumber .double lexemes
  | .boolean => lexemes = [.boolean true] ∨ lexemes = [.boolean false]
  | .string => lexemes = [.string raw]
  | .timestamp => lexemes = [.identifier "Instant", .symbol ".", .identifier "parse", .symbol "(",
      .string raw, .symbol ")"]

namespace Tame

/-- Tame texts, one after the other, are tame. -/
theorem append {first second : List Char} (begun : Tame first) (ended : Tame second) :
    Tame (first ++ second) := by
  intro c member
  rcases List.mem_append.mp member with early | late
  · exact begun c early
  · exact ended c late

/-- Each character of a tame text is tame by itself. -/
theorem singleton {text : List Char} (tame : Tame text) {c : Char} (member : c ∈ text) :
    Tame [c] := by
  intro other single
  rw [List.mem_singleton.mp single]
  exact tame c member

/-- Nothing in an identifier is special. -/
theorem identifier {word : String} (named : isIdentifier word = true) : Tame word.toList :=
  fun _ member => not_mem_of_apart (by decide) (isIdentifierPart_of_mem named member)

/-- Tame text is read as it is. -/
theorem expresses {text : String} (tame : Tame text.toList) {next : List Char}
    {lexemes : List Lexeme}
    (read : ∀ rest, Reads (text.toList ++ (next ++ rest)) lexemes (next ++ rest)) :
    Expresses next text lexemes :=
  -- With no backslash the text is its own image under the translation.
  ⟨fun member => tame _ member (by decide), fun member => tame _ member (by decide),
    text.toList, .plain fun member => tame _ member (by decide), read⟩

end Tame

/-! Numbers. -/

/-- A text that is a numeral of a kind, all of it. -/
structure Numeric (text : List Char) (kind : NumeralKind) : Prop where
  /-- The text is a numeral. -/
  known : numeralKind? text = some kind
  /-- The numeral does not end before the text. -/
  inside : ∀ c ∈ text, isNumeralPart c = true
  /-- The text starts with a digit. -/
  begun : text.head?.any Char.isDigit = true

/-- What a numeral may run into is not special. -/
theorem Numeric.tame {text : List Char} {kind : NumeralKind} (numeric : Numeric text kind) :
    Tame text :=
  fun c member => not_mem_of_apart (by decide) (numeric.inside c member)

/-- Numerals are read, with a sign or without. -/
theorem Numeric.expresses {text body : List Char} {kind : NumeralKind} (numeric : Numeric body kind)
    (signed : text = body ∨ text = '-' :: body) :
    ∃ lexemes, Expresses [','] (String.ofList text) lexemes ∧ IsNumber kind lexemes := by
  -- A comma comes next, and no numeral runs on into one.
  have number (rest : List Char) : Reads (body ++ ',' :: rest)
      [.numeral kind (String.ofList body)] (',' :: rest) :=
    reads_numeral numeric.known numeric.inside numeric.begun (by decide) rest
  rcases signed with rfl | rfl
  · refine ⟨_, Tame.expresses (by simpa using numeric.tame) (by simpa using number), ?_⟩
    exact ⟨_, Or.inl rfl⟩
  -- The sign is a lexeme of its own, since a digit follows it.
  · have sign (rest : List Char) : Reads ('-' :: (body ++ ',' :: rest))
        [.symbol "-", .numeral kind (String.ofList body)] (',' :: rest) := by
      cases body with
      | nil => exact absurd numeric.begun (by decide)
      | cons digit body =>
        exact (reads_minus (by simpa using numeric.begun) _).append (number rest)
    have tame : Tame (['-'] ++ body) := .append (by decide) numeric.tame
    refine ⟨_, Tame.expresses (by simpa using tame) (by simpa using sign), ?_⟩
    exact ⟨_, Or.inr rfl⟩

/-- The digits of a number are a whole numeral. -/
theorem isWhole_digitsOf (value : Nat) : isWhole (digitsOf value) = true := by
  -- Zero is a numeral of its own; no other number starts with the digit zero.
  have digits : (digitsOf value).all Char.isDigit = true :=
    List.all_eq_true.mpr fun c member => isDigit_of_mem_digitsOf member
  have filled : digitsOf value ≠ [] := digitsOf_ne_nil value
  by_cases zero : value = 0
  · subst zero
    decide
  · simp [isWhole, digits, filled, head?_digitsOf zero]

/-- There is no point among digits. -/
theorem count_point {digits : List Char} (inside : ∀ c ∈ digits, c.isDigit = true) :
    digits.count '.' = 0 := by
  rw [List.count_eq_zero]
  intro member
  exact absurd (inside '.' member) (by decide)

/-- Digits are a decimal numeral. -/
theorem isDecimal_digits {digits : List Char} (filled : digits ≠ [])
    (inside : ∀ c ∈ digits, c.isDigit = true) : isDecimal digits = true := by
  -- The three parts of the check: the first character, all characters, and the number of points.
  have first : digits.head?.any Char.isDigit = true := by
    rw [List.head?_eq_some_head filled]
    exact inside _ (List.head_mem filled)
  have all : digits.all (fun c => c.isDigit || c == '.') = true := by
    rw [List.all_eq_true]
    intro c member
    rw [inside c member, Bool.true_or]
  rw [isDecimal, all, first, count_point inside]
  rfl

/-- Digits with a point behind them and digits behind the point are a decimal numeral. -/
theorem isDecimal_point {front back : List Char} (filled : front ≠ [])
    (before : ∀ c ∈ front, c.isDigit = true) (after : ∀ c ∈ back, c.isDigit = true) :
    isDecimal (front ++ '.' :: back) = true := by
  -- The same three parts, where the one point is the one in the middle.
  have first : (front ++ '.' :: back).head?.any Char.isDigit = true := by
    rw [List.head?_append, List.head?_eq_some_head filled]
    exact before _ (List.head_mem filled)
  have all : (front ++ '.' :: back).all (fun c => c.isDigit || c == '.') = true := by
    rw [List.all_eq_true]
    intro c member
    rcases List.mem_append.mp member with early | late
    · rw [before c early, Bool.true_or]
    · rcases List.mem_cons.mp late with rfl | late
      · rfl
      · rw [after c late, Bool.true_or]
  have points : (front ++ '.' :: back).count '.' = 1 := by
    rw [List.count_append, List.count_cons_self, count_point before, count_point after]
  rw [isDecimal, all, first, points]
  rfl

/-- Digits with a point put among them are a decimal numeral. -/
theorem isDecimal_placePoint {digits : List Char} (inside : ∀ c ∈ digits, c.isDigit = true)
    (whole : Nat) : isDecimal (Decimal.placePoint digits whole) = true := by
  have before : ∀ c ∈ digits.take whole, c.isDigit = true :=
    fun c member => inside c (List.mem_of_mem_take member)
  have after : ∀ c ∈ digits.drop whole, c.isDigit = true :=
    fun c member => inside c (List.mem_of_mem_drop member)
  -- A zero fills the place before the point, and without digits behind it there is no point.
  unfold Decimal.placePoint
  cases front : digits.take whole with
  | nil =>
    cases back : digits.drop whole with
    | nil => decide
    | cons d behind =>
      have zero : ∀ c ∈ ['0'], c.isDigit = true := by simp
      exact isDecimal_point (by simp) zero (back ▸ after)
  | cons c rest =>
    have filled : c :: rest ≠ [] := by simp
    rw [front] at before
    cases back : digits.drop whole with
    | nil => simpa using isDecimal_digits filled before
    | cons d behind => exact isDecimal_point filled before (back ▸ after)

/-- Every decimal is written as a decimal numeral. -/
theorem isDecimal_write (decimal : Decimal) : isDecimal decimal.write = true := by
  -- The cases are those of the notation: zero, a whole number, and digits behind a point.
  have written : ∀ c ∈ digitsOf decimal.coefficient, c.isDigit = true :=
    fun c member => isDigit_of_mem_digitsOf member
  have padded := isDigit_of_mem_padded written
  have filled : digitsOf decimal.coefficient ≠ [] := digitsOf_ne_nil _
  unfold Decimal.write
  split
  · decide
  · split
    · rename_i zeros _
      exact isDecimal_digits (by simp [filled]) (by simpa using padded 0 zeros)
    -- The digits are padded and trimmed, but no other character comes in.
    · rename_i places _
      have digits := padded (places + 1 - (digitsOf decimal.coefficient).length) 0
      rw [List.replicate_zero, List.append_nil] at digits
      apply isDecimal_placePoint
      intro c member
      rcases List.mem_append.mp member with early | late
      · exact digits c (List.mem_of_mem_take early)
      · have trimmed := (List.dropWhile_sublist _).subset (List.mem_reverse.mp late)
        exact digits c (List.mem_of_mem_drop (List.mem_reverse.mp trimmed))

/-- A numeral with a suffix starts like the numeral without it, and runs on as far. -/
theorem numeric_suffix {text : List Char} {suffix : Char} {kind : NumeralKind}
    (decimal : isDecimal text = true) (part : isNumeralPart suffix = true)
    (known : numeralKind? (text ++ [suffix]) = some kind) : Numeric (text ++ [suffix]) kind := by
  -- The suffix is no digit, but a numeral may run into it.
  simp only [isDecimal, Bool.and_eq_true, List.all_eq_true] at decimal
  obtain ⟨⟨characters, first⟩, -⟩ := decimal
  refine ⟨known, ?_, ?_⟩
  · intro c member
    rcases List.mem_append.mp member with early | late
    · have either := characters c early
      simp only [Bool.or_eq_true, beq_iff_eq] at either
      rcases either with digit | rfl
      · simp [isNumeralPart, isWordPart, digit]
      · decide
    · rwa [List.mem_singleton.mp late]
  · cases text with
    | nil => exact absurd first (by decide)
    | cons c text => simpa using first

/-- The digits of a number are a numeral without a suffix. -/
theorem numeric_int (value : Nat) : Numeric (digitsOf value) .int := by
  have filled : digitsOf value ≠ [] := digitsOf_ne_nil value
  have digits : ∀ c ∈ digitsOf value, c.isDigit = true :=
    fun c member => isDigit_of_mem_digitsOf member
  refine ⟨?_, fun c member => ?_, ?_⟩
  -- The last character is a digit, so it is no suffix.
  · have last := digits _ (List.getLast_mem filled)
    unfold numeralKind?
    rw [List.getLast?_eq_some_getLast filled]
    generalize (digitsOf value).getLast filled = c at last
    have other : c ∉ ['l', 'L', 'f', 'F', 'd', 'D'] := not_mem_of_apart (by decide) last
    simp only [List.mem_cons, List.not_mem_nil, or_false, not_or] at other
    simp [other, isWhole_digitsOf]
  · simp [isNumeralPart, isWordPart, digits c member]
  · cases shape : digitsOf value with
    | nil => exact absurd shape filled
    | cons c rest => simpa using digits c (by simp [shape])

/-- Digits with an `L` behind them are a numeral of a long. -/
theorem numeric_long (value : Nat) : Numeric (digitsOf value ++ ['L']) .long := by
  have decimal : isDecimal (digitsOf value) = true :=
    isDecimal_digits (digitsOf_ne_nil value) fun c member => isDigit_of_mem_digitsOf member
  exact numeric_suffix decimal (by decide) (by simp [numeralKind?, isWhole_digitsOf])

/-- A written decimal with an `f` behind it is a numeral of a float. -/
theorem numeric_float (decimal : Decimal) : Numeric (decimal.write ++ ['f']) .float :=
  numeric_suffix (isDecimal_write decimal) (by decide) (by simp [numeralKind?, isDecimal_write])

/-- A written decimal with a `d` behind it is a numeral of a double. -/
theorem numeric_double (decimal : Decimal) : Numeric (decimal.write ++ ['d']) .double :=
  numeric_suffix (isDecimal_write decimal) (by decide) (by simp [numeralKind?, isDecimal_write])

/-- A canonical integer is written in digits, perhaps with a sign. -/
theorem writeInteger_cases (value : Int) :
    ∃ magnitude, writeInteger value = digitsOf magnitude ∨
      writeInteger value = '-' :: digitsOf magnitude := by
  cases value with
  | ofNat magnitude => exact ⟨magnitude, Or.inl rfl⟩
  | negSucc magnitude => exact ⟨magnitude + 1, Or.inr rfl⟩

/-- The literal of an integer is digits, perhaps with a minus sign. -/
theorem signed_of_integerLiteral? {bits : Nat} {raw : String} {text : List Char}
    (written : integerLiteral? bits raw = some text) :
    ∃ magnitude, text = digitsOf magnitude ∨ text = '-' :: digitsOf magnitude := by
  -- The value that is written has been checked to be in range, and only its writing counts here.
  unfold integerLiteral? at written
  split at written
  · cases written
  · rename_i value _
    dsimp only at written
    split at written
    · cases written
      exact writeInteger_cases value
    · cases written

/-- The literal of a floating-point number is a written decimal, perhaps with a minus sign. -/
theorem signed_of_binaryLiteral? {format : BinaryFormat} {raw : String} {text : List Char}
    (written : binaryLiteral? format raw = some text) :
    ∃ decimal : Decimal, text = decimal.write ∨ text = '-' :: decimal.write := by
  -- The decimal is the shortest one for the number; its sign is that of the default.
  unfold binaryLiteral? at written
  split at written
  · cases written
  · rename_i numeral _
    split at written
    · cases written
    · rename_i number _
      cases written
      refine ⟨Decimal.shortest format number, ?_⟩
      cases numeral.negative
      · exact Or.inl rfl
      · exact Or.inr rfl

/-- A suffix stands behind the digits and the sign. -/
theorem signed_append {text body : List Char} (signed : text = body ∨ text = '-' :: body)
    (suffix : List Char) :
    text ++ suffix = body ++ suffix ∨ text ++ suffix = '-' :: (body ++ suffix) := by
  rcases signed with rfl | rfl
  · exact Or.inl rfl
  · exact Or.inr rfl

/-! Strings. -/

/-- A quoted text is read as a string literal. -/
theorem expresses_quote (text : String) : Expresses [','] (quote text) [.string text] := by
  -- The escaped text is sealed, so no line end is left in it for the lexer to see.
  have closed : Sealed (escape text).toList := by
    rw [escape, String.toList_ofList]
    exact .flatMap (fun c => (escapes_escapeChar c).sealed_raw) _
  refine ⟨?_, ?_, _, translates_quote text, fun rest => ?_⟩
  · simpa [quote] using closed.lineFeed
  · simpa [quote] using closed.carriageReturn
  · simpa using reads_string text (by decide : ',' ≠ '"') rest

/-- A timestamp needs no escapes inside a string literal. -/
theorem expresses_instant {raw : String} {time : Timestamp}
    (parsed : Timestamp.parse? raw = some time) :
    Expresses [','] ("Instant.parse(\"" ++ raw ++ "\")") [.identifier "Instant", .symbol ".",
      .identifier "parse", .symbol "(", .string raw, .symbol ")"] := by
  -- The characters of a timestamp are digits and a few marks, none of which needs an escape.
  have plain : ∀ c ∈ raw.toList, c ∉ ['\\', '"', '\n', '\r', '\t'] := by
    intro c member
    rcases Timestamp.marks_of_parse? parsed c member with digit | mark
    · exact not_mem_of_apart (by decide) digit
    · simp only [List.mem_cons, List.not_mem_nil, or_false] at mark
      rcases mark with rfl | rfl | rfl | rfl | rfl | rfl | rfl <;> decide
  have fewer : ['\\', '\n', '\r'] ⊆ ['\\', '"', '\n', '\r', '\t'] := by decide
  have tame : Tame raw.toList := fun c member special => plain c member (fewer special)
  have body : translatedBody raw = raw.toList := flatMap_translatedEscape plain
  have opening : Tame "Instant.parse(\"".toList := by decide
  have closing : Tame "\")".toList := by decide
  apply Tame.expresses
  · rw [String.toList_append, String.toList_append]
    exact (opening.append tame).append closing
  · intro rest
    -- The lexemes are read one after the other, each up to the character behind it.
    have receiver := reads_word (by decide : isIdentifier "Instant" = true)
      (by decide : isWordPart '.' = false)
    have named : isIdentifier "parse" = true := by decide
    have method := reads_word named (by decide : isWordPart '(' = false)
    have argument := reads_string raw (by decide : ')' ≠ '"') (',' :: rest)
    have bracket : Reads (')' :: ',' :: rest) [.symbol ")"] (',' :: rest) := .one rfl
    have read := (receiver _).append ((reads_point named _).append ((method _).append
      ((Reads.one rfl).append (argument.append bracket))))
    have words : Lexeme.ofWord "Instant" = .identifier "Instant" ∧
        Lexeme.ofWord "parse" = .identifier "parse" := by decide
    simpa [body, words] using read

/-- Every default that has an expression is read from it. -/
theorem expresses_literal {type : ParamType} {raw literal : String}
    (written : literal? type raw = some literal) :
    ∃ lexemes, Expresses [','] literal lexemes ∧ IsDefault type raw lexemes := by
  -- There is one case for each type: numerals with their suffixes, words, strings and instants.
  have suffixed (text : List Char) (suffix : String) :
      String.ofList text ++ suffix = String.ofList (text ++ suffix.toList) := by
    simp
  cases type with
  | int =>
    obtain ⟨text, digits, rfl⟩ := Option.map_eq_some_iff.mp written
    obtain ⟨magnitude, signed⟩ := signed_of_integerLiteral? digits
    exact (numeric_int magnitude).expresses signed
  | long =>
    obtain ⟨text, digits, rfl⟩ := Option.map_eq_some_iff.mp written
    obtain ⟨magnitude, signed⟩ := signed_of_integerLiteral? digits
    rw [suffixed]
    exact (numeric_long magnitude).expresses (signed_append signed _)
  | float =>
    obtain ⟨text, digits, rfl⟩ := Option.map_eq_some_iff.mp written
    obtain ⟨decimal, signed⟩ := signed_of_binaryLiteral? digits
    rw [suffixed]
    exact (numeric_float decimal).expresses (signed_append signed _)
  | double =>
    obtain ⟨text, digits, rfl⟩ := Option.map_eq_some_iff.mp written
    obtain ⟨decimal, signed⟩ := signed_of_binaryLiteral? digits
    rw [suffixed]
    exact (numeric_double decimal).expresses (signed_append signed _)
  | boolean =>
    have word {word : String} (named : isIdentifier word = true) :
        Expresses [','] word [.ofWord word] :=
      (Tame.identifier named).expresses (reads_word named (by decide))
    simp only [literal?] at written
    split at written
    · cases written
      exact ⟨_, word (by decide), Or.inl rfl⟩
    · split at written
      · cases written
        exact ⟨_, word (by decide), Or.inr rfl⟩
      · cases written
  | string =>
    cases written
    exact ⟨_, expresses_quote raw, rfl⟩
  | timestamp =>
    simp only [literal?] at written
    split at written
    · rename_i time parsed
      cases written
      exact ⟨_, expresses_instant parsed, rfl⟩
    · cases written

end TypedRoutes.Java

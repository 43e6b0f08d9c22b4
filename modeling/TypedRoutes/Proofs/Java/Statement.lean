import TypedRoutes.Java.Statement
import TypedRoutes.Proofs.Java.Literal
import TypedRoutes.Proofs.Lists
import TypedRoutes.Proofs.Param.Resolve

/-! Java reads the statement of a parameter as one statement that carries the parameter: no name and
no default breaks out of its place. -/

namespace TypedRoutes.Java

/-- The method that reads a parameter from its source. -/
def method : Source → Lexeme
  | .path => .identifier "getPathParam"
  | .query => .identifier "getQueryParam"

/-- The lexemes of a default as an argument, with the comma behind it. -/
def IsArgument (param : Param) (lexemes : List Lexeme) : Prop :=
  match param.default with
  | none => lexemes = []
  | some raw => ∃ value, IsDefault param.type raw value ∧ lexemes = value ++ [.symbol ","]

/-- The lexemes of the statement for a parameter, given those of the argument for its default. -/
def statementLexemes (options : CodeNames) (param : Param) (argument : List Lexeme) : List Lexeme :=
  [.identifier (typeNames param.type).boxed, .identifier param.name, .symbol "=",
    .ofWord options.accessor, .symbol ".", method param.source, .symbol "(", .string param.name,
    .symbol ","] ++ argument ++
  [.identifier (typeNames param.type).parser, .symbol ".", .identifier "create", .symbol "(",
    .symbol ")", .symbol ")", .symbol ";"]

/-- A lexeme that is a value by itself. -/
inductive IsConstant : Lexeme → Prop where
  | numeral (kind : NumeralKind) (text : String) : IsConstant (.numeral kind text)
  | boolean (value : Bool) : IsConstant (.boolean value)
  | string (value : String) : IsConstant (.string value)

/-- An argument is a call for timestamps, and a value with or without a sign otherwise. -/
theorem IsArgument.cases {param : Param} {argument : List Lexeme}
    (given : IsArgument param argument) :
    param.default = none ∧ argument = [] ∨
      (param.type ≠ .timestamp ∧ ∃ sign value, (sign = [] ∨ sign = [.symbol "-"]) ∧
        IsConstant value ∧ argument = sign ++ [value, .symbol ","]) ∨
      (param.type = .timestamp ∧ ∃ raw, param.default = some raw ∧
        argument = [.identifier "Instant", .symbol ".", .identifier "parse", .symbol "(",
          .string raw, .symbol ")", .symbol ","]) := by
  -- Without a default there is no argument; otherwise the type tells the lexemes of the value.
  unfold IsArgument at given
  cases default : param.default with
  | none =>
    simp only [default] at given
    exact Or.inl ⟨rfl, given⟩
  | some raw =>
    simp only [default] at given
    obtain ⟨value, kind, rfl⟩ := given
    right
    -- The four types of numbers only differ in the kind of numeral.
    have number {numeral : NumeralKind} (digits : IsNumber numeral value) :
        ∃ sign constant, (sign = [] ∨ sign = [.symbol "-"]) ∧ IsConstant constant ∧
          value ++ [.symbol ","] = sign ++ [constant, .symbol ","] := by
      obtain ⟨text, rfl | rfl⟩ := digits
      · exact ⟨[], _, Or.inl rfl, .numeral numeral text, rfl⟩
      · exact ⟨[.symbol "-"], _, Or.inr rfl, .numeral numeral text, rfl⟩
    cases type : param.type with
    | int | long | float | double =>
      rw [type] at kind
      exact Or.inl ⟨by decide, number kind⟩
    | boolean =>
      rw [type] at kind
      rcases kind with rfl | rfl
      · exact Or.inl ⟨by decide, [], _, Or.inl rfl, .boolean true, rfl⟩
      · exact Or.inl ⟨by decide, [], _, Or.inl rfl, .boolean false, rfl⟩
    | string =>
      rw [type] at kind
      obtain rfl : value = [.string raw] := kind
      exact Or.inl ⟨by decide, [], _, Or.inl rfl, .string raw, rfl⟩
    | timestamp =>
      rw [type] at kind
      obtain rfl : value = [.identifier "Instant", .symbol ".", .identifier "parse",
          .symbol "(", .string raw, .symbol ")"] := kind
      exact Or.inr ⟨rfl, raw, rfl, rfl⟩

/-- A text is the statement for a parameter: one line, which Java reads as it should. -/
structure Carries (options : CodeNames) (param : Param) (statement : String) : Prop where
  /-- There is no line feed. -/
  lineFeed : '\n' ∉ statement.toList
  /-- There is no carriage return. -/
  carriageReturn : '\r' ∉ statement.toList
  /-- The lexemes are those of the statement. -/
  read : ∃ argument, IsArgument param argument ∧
    ReadAs statement (statementLexemes options param argument)

/-- Parameters that are read in the same way. -/
structure Alike (param other : Param) : Prop where
  /-- The sources are the same. -/
  source : param.source = other.source
  /-- The names are the same. -/
  name : param.name = other.name
  /-- The types are the same. -/
  type : param.type = other.type
  /-- Both have a default or none has. -/
  optional : param.default.isSome = other.default.isSome
  /-- Defaults that are copied are the same. -/
  default : param.type ∈ [ParamType.string, .timestamp] → param.default = other.default

namespace Expresses

/-- Texts side by side, where the first needs nothing to follow it. -/
theorem append {next : List Char} {first second : String} {begun ended : List Lexeme}
    (front : Expresses [] first begun) (back : Expresses next second ended) :
    Expresses next (first ++ second) (begun ++ ended) := by
  -- What is behind the first text is the image of the second one.
  obtain ⟨image, translated, read⟩ := front.read
  obtain ⟨other, behind, more⟩ := back.read
  refine ⟨?_, ?_, image ++ other, ?_, fun rest => ?_⟩
  · simpa using ⟨front.lineFeed, back.lineFeed⟩
  · simpa using ⟨front.carriageReturn, back.carriageReturn⟩
  · rw [String.toList_append]
    exact translated.append behind
  · rw [List.append_assoc]
    exact (read _).append (more rest)

/-- An expression with the comma behind it. -/
theorem comma {text : String} {lexemes : List Lexeme} (expression : Expresses [','] text lexemes) :
    Expresses [] (text ++ ", ") (lexemes ++ [.symbol ","]) := by
  -- The expression needs a comma to follow, and here it has one.
  obtain ⟨image, translated, read⟩ := expression.read
  have mark : Translates ", ".toList [',', ' '] := .plain (by decide)
  refine ⟨?_, ?_, image ++ [',', ' '], ?_, fun rest => ?_⟩
  · simpa using expression.lineFeed
  · simpa using expression.carriageReturn
  · rw [String.toList_append]
    exact translated.append mark
  · have symbol : Reads (',' :: ' ' :: rest) [.symbol ","] rest :=
      (Reads.one rfl).append (.blank rest)
    simpa using (read (' ' :: rest)).append symbol

end Expresses

/-- A name that is free is no reserved word. -/
theorem ofWord_of_not_isKeyword {word : String} (free : isKeyword word = false) :
    Lexeme.ofWord word = .identifier word := by
  -- The words that are read otherwise are all keywords.
  have reserved : ∀ other ∈ "true" :: "false" :: "null" :: reservedWords,
      isKeyword other = true := by decide
  have other : word ∉ "true" :: "false" :: "null" :: reservedWords := by
    intro member
    rw [reserved word member] at free
    cases free
  simp only [List.mem_cons, not_or] at other
  simp [Lexeme.ofWord, other]

/-- The declaration of a variable. -/
theorem expresses_declaration {boxed name : String} (typed : isIdentifier boxed = true)
    (named : isIdentifier name = true) :
    Expresses [] (boxed ++ " " ++ name ++ " = ") [.ofWord boxed, .ofWord name, .symbol "="] := by
  -- Nothing in it is escaped, so it is read as it is written.
  have tame : Tame (boxed ++ " " ++ name ++ " = ").toList := by
    simp only [String.toList_append]
    exact (((Tame.identifier typed).append (by decide)).append (.identifier named)).append (by decide)
  apply tame.expresses
  intro rest
  -- Type, name and sign are read one after the other, with the spaces between them.
  have first := reads_word typed (by decide : isWordPart ' ' = false)
  have second := reads_word named (by decide : isWordPart ' ' = false)
  have equals : Reads ('=' :: ' ' :: rest) [.symbol "="] (' ' :: rest) := .one rfl
  have read := (first _).append ((Reads.blank _).append ((second _).append
    ((Reads.blank _).append (equals.append (.blank rest)))))
  simpa using read

/-- The call of a method, with a name as its first argument. -/
theorem expresses_call {accessor getter name : String} (received : isIdentifier accessor = true)
    (called : isIdentifier getter = true) (named : isIdentifier name = true) :
    Expresses [] (accessor ++ "." ++ getter ++ "(\"" ++ name ++ "\", ") [.ofWord accessor,
      .symbol ".", .ofWord getter, .symbol "(", .string name, .symbol ","] := by
  -- The receiver, the method and the name are words, and the marks between them end each.
  have tame : Tame (accessor ++ "." ++ getter ++ "(\"" ++ name ++ "\", ").toList := by
    simp only [String.toList_append]
    exact (((((Tame.identifier received).append (by decide)).append (.identifier called)).append
      (by decide)).append (.identifier named)).append (by decide)
  apply tame.expresses
  intro rest
  -- There is nothing to escape in the name.
  have body : translatedBody name = name.toList := flatMap_translatedEscape fun c member =>
    not_mem_of_apart (by decide) (isIdentifierPart_of_mem named member)
  have first := reads_word received (by decide : isWordPart '.' = false)
  have second := reads_word called (by decide : isWordPart '(' = false)
  have bracket (rest : List Char) : Reads ('(' :: rest) [.symbol "("] rest := .one rfl
  have argument := reads_string name (by decide : ',' ≠ '"') (' ' :: rest)
  have comma : Reads (',' :: ' ' :: rest) [.symbol ","] (' ' :: rest) := .one rfl
  have read := (first _).append ((reads_point called _).append ((second _).append
    ((bracket _).append (argument.append (comma.append (.blank rest))))))
  rw [body] at read
  simpa using read

/-- The last part of a statement: a new object of a class, and the end of the call. -/
theorem expresses_closing {parser : String} (named : isIdentifier parser = true) :
    Expresses [] (parser ++ ".create());") [.ofWord parser, .symbol ".", .identifier "create",
      .symbol "(", .symbol ")", .symbol ")", .symbol ";"] := by
  -- The name of the class and three pairs of marks.
  have tame : Tame (parser ++ ".create());").toList := by
    rw [String.toList_append]
    exact (Tame.identifier named).append (by decide)
  apply tame.expresses
  intro rest
  have created : isIdentifier "create" = true := by decide
  have identifier : Lexeme.ofWord "create" = .identifier "create" := by decide
  have word := reads_word named (by decide : isWordPart '.' = false)
  have method := reads_word created (by decide : isWordPart '(' = false)
  have call : Reads ('(' :: ')' :: ')' :: ';' :: rest)
      [.symbol "(", .symbol ")", .symbol ")", .symbol ";"] rest :=
    (Reads.one rfl).append ((Reads.one rfl).append ((Reads.one rfl).append (.one rfl)))
  have read := (word _).append ((reads_point created _).append ((method _).append call))
  rw [identifier] at read
  simpa using read

/-- The argument for a default is read as the default with its comma, or as nothing. -/
theorem expresses_argument {param : Param} {argument : String}
    (written : defaultArgument param = .ok argument) :
    ∃ lexemes, Expresses [] argument lexemes ∧ IsArgument param lexemes := by
  -- A default that is not copied is an expression, and a comma stands behind it.
  unfold defaultArgument at written
  unfold IsArgument
  cases shape : param.default with
  | none =>
    rw [shape] at written
    cases written
    exact ⟨[], Tame.expresses (by decide) fun rest => .done rest, rfl⟩
  | some raw =>
    simp only [shape, literalOf] at written
    split at written
    · rename_i literal found
      cases written
      obtain ⟨lexemes, expression, value⟩ := expresses_literal found
      exact ⟨_, expression.comma, lexemes, value, rfl⟩
    · cases written

/-- The spellings of a type are identifiers, and none is reserved. -/
theorem isIdentifier_typeNames (type : ParamType) :
    (isIdentifier (typeNames type).boxed = true ∧ isIdentifier (typeNames type).parser = true) ∧
      Lexeme.ofWord (typeNames type).boxed = .identifier (typeNames type).boxed ∧
      Lexeme.ofWord (typeNames type).parser = .identifier (typeNames type).parser := by
  -- The seven types are looked at one by one.
  cases type <;> decide

/-- The methods that read parameters are names, and they are read as such. -/
theorem isIdentifier_getter (source : Source) :
    isIdentifier (getter source) = true ∧ Lexeme.ofWord (getter source) = method source := by
  cases source <;> decide

/-- Every type has a row in the table, so no look-up fails. -/
theorem lookUpNames_eq (param : Param) : lookUpNames param = .ok (typeNames param.type) := by
  -- The table is searched for each of the types.
  obtain ⟨name, source, type, default⟩ := param
  cases type <;> rfl

/-- A statement is written where the name is free and the default has an argument. -/
theorem exists_argument_of_statementOf {options : CodeNames} {param : Param} {statement : String}
    (written : statementOf options param = .ok statement) :
    options.reserves param.name = false ∧ ∃ argument, defaultArgument param = .ok argument ∧
      statement = (typeNames param.type).boxed ++ " " ++ param.name ++ " = " ++ options.accessor ++
        "." ++ getter param.source ++ "(\"" ++ param.name ++ "\", " ++ argument ++
        (typeNames param.type).parser ++ ".create());" := by
  -- The name is refused first, and then nothing but the default can fail.
  unfold statementOf at written
  split at written
  · cases written
  · rename_i free
    simp only [readStatement, lookUpNames_eq, bind, Except.bind] at written
    split at written
    · cases written
    · rename_i argument found
      exact ⟨by simpa using free, argument, found, (Except.ok.inj written).symm⟩

/-- The statement of a parameter with a proper name is read, whatever follows it. -/
theorem expresses_statementOf {options : CodeNames} {param : Param} {statement : String}
    (received : isIdentifier options.accessor = true) (named : isIdentifier param.name = true)
    (written : statementOf options param = .ok statement) :
    ∃ argument, IsArgument param argument ∧
      Expresses [] statement (statementLexemes options param argument) := by
  obtain ⟨free, argument, found, rfl⟩ := exists_argument_of_statementOf written
  obtain ⟨lexemes, given, default⟩ := expresses_argument found
  obtain ⟨⟨typed, parsed⟩, boxed, parser⟩ := isIdentifier_typeNames param.type
  obtain ⟨called, getter⟩ := isIdentifier_getter param.source
  -- A name that is not reserved by the options is no keyword.
  simp only [CodeNames.reserves, Bool.or_eq_false_iff] at free
  have name := ofWord_of_not_isKeyword free.1.1.1
  -- The statement is the declaration, the call, the argument and the end, side by side.
  have whole := (expresses_declaration typed named).append
    ((expresses_call received called named).append (given.append (expresses_closing parsed)))
  rw [boxed, name, getter, parser] at whole
  simp only [← String.append_assoc] at whole
  exact ⟨lexemes, default, by simpa [statementLexemes] using whole⟩

/-- The statement of a parameter with a proper name carries the parameter. -/
theorem carries_of_statementOf {options : CodeNames} {param : Param} {statement : String}
    (received : isIdentifier options.accessor = true) (named : isIdentifier param.name = true)
    (written : statementOf options param = .ok statement) : Carries options param statement := by
  -- The end of the text may follow the statement as well.
  obtain ⟨argument, default, whole⟩ := expresses_statementOf received named written
  obtain ⟨image, translated, read⟩ := whole.read
  have ended := read []
  rw [List.append_nil, List.append_nil] at ended
  exact ⟨whole.lineFeed, whole.carriageReturn, argument, default, image, translated.translate?_eq,
    ended⟩

/-! A statement tells its parameter. -/

/-- No two types have the same spelling. -/
theorem boxed_injective : Function.Injective fun type => (typeNames type).boxed := by
  -- Seven spellings are listed without a repetition.
  intro type other same
  have listed (type : ParamType) : type ∈ ParamType.all := by cases type <;> decide
  have distinct : (ParamType.all.map fun type => (typeNames type).boxed).Nodup := by decide
  exact List.inj_on_of_nodup_map distinct (listed type) (listed other) same

/-- Each source has a method of its own. -/
theorem method_injective : Function.Injective method := by
  -- The two methods have different names.
  intro source other same
  cases source <;> cases other
  case path.path | query.query => rfl
  all_goals exact absurd same (by decide)

/-- A default that is copied can be read from its lexemes. -/
theorem IsDefault.raw_eq {type : ParamType} {raw other : String} {lexemes : List Lexeme}
    (copied : type ∈ [ParamType.string, .timestamp]) (written : IsDefault type raw lexemes)
    (same : IsDefault type other lexemes) : raw = other := by
  -- Both types have the default as a string literal among their lexemes.
  simp only [List.mem_cons, List.not_mem_nil, or_false] at copied
  rcases copied with rfl | rfl
  · simpa using written.symm.trans same
  · simpa using written.symm.trans same

/-- Arguments with the same lexemes belong to defaults of one kind, and where the default is copied
to equal defaults. -/
theorem IsArgument.alike {param other : Param} {lexemes : List Lexeme}
    (argument : IsArgument param lexemes) (same : IsArgument other lexemes)
    (type : param.type = other.type) :
    param.default.isSome = other.default.isSome ∧
      (param.type ∈ [ParamType.string, .timestamp] → param.default = other.default) := by
  -- The lexemes end with a comma exactly where there is a default.
  unfold IsArgument at argument same
  cases default : param.default with
  | none =>
    cases default' : other.default with
    | none => simp
    | some raw =>
      simp only [default] at argument
      simp [default', argument] at same
  | some raw =>
    simp only [default] at argument
    obtain ⟨value, written, rfl⟩ := argument
    cases default' : other.default with
    | none => simp [default'] at same
    | some raw' =>
      simp only [default'] at same
      obtain ⟨value', written', equal⟩ := same
      have values : value = value' := List.append_cancel_right equal
      subst values
      rw [← type] at written'
      exact ⟨rfl, fun copied => congrArg some (written.raw_eq copied written')⟩

/-- What Java reads tells the source, the name and the type. -/
theorem Carries.alike {options : CodeNames} {param other : Param} {statement : String}
    (carries : Carries options param statement) (too : Carries options other statement) :
    Alike param other := by
  -- The text is read in one way only, so both parameters have the same lexemes.
  obtain ⟨argument, default, read⟩ := carries.read
  obtain ⟨argument', default', read'⟩ := too.read
  have same := Reads.unique_readAs read read'
  simp only [statementLexemes, List.cons_append, List.nil_append, List.cons.injEq,
    Lexeme.identifier.injEq, true_and] at same
  obtain ⟨boxed, name, getter, -, tail⟩ := same
  have type : param.type = other.type := boxed_injective boxed
  -- The ends of both are the same, and so is what is left of them.
  rw [type] at tail
  have arguments : argument = argument' := List.append_cancel_right tail
  subst arguments
  obtain ⟨optional, copied⟩ := default.alike default' type
  exact ⟨method_injective getter, name, type, optional, copied⟩

/-- Lists of parameters with the same statements are alike. -/
theorem alike_of_carries {options : CodeNames} {params others : List Param}
    {statements : List String} (carries : List.Forall₂ (Carries options) params statements)
    (too : List.Forall₂ (Carries options) others statements) :
    List.Forall₂ Alike params others := by
  -- The induction is on the parameters with their statements.
  induction carries generalizing others with
  | nil =>
    cases too
    exact .nil
  | cons first _ ih =>
    cases too with
    | cons other rest => exact .cons (first.alike other) (ih rest)

/-- Code is written for parameters if a statement is written for each. -/
theorem codeFor_eq_ok_iff {names : CodeNames} {params : ParamList} {code : Code} :
    codeFor names params = .ok code ↔
      params.all.mapM (statementOf names) = .ok code.statements ∧
      code.recordDeclaration = recordDeclaration names.record params := by
  -- The record is put together beside the statements, and it cannot fail.
  obtain ⟨declaration, statements⟩ := code
  cases written : params.all.mapM (statementOf names) with
  | error fault => simp [codeFor, written, bind, Except.bind]
  | ok results =>
    simp [codeFor, written, bind, Except.bind, pure, Except.pure, and_comm, eq_comm]

/-- The statements for the parameters of a template carry them, one by one. -/
theorem carries_of_codeFor {options : CodeNames} {template : String} {params : ParamList}
    {code : Code} (received : isIdentifier options.accessor = true)
    (parsed : parseParams template = .ok params) (written : codeFor options params = .ok code) :
    List.Forall₂ (Carries options) params.all code.statements := by
  have each := forall₂_of_mapM (codeFor_eq_ok_iff.mp written).1
  have named : ∀ param ∈ params.all, isIdentifier param.name = true :=
    fun _ member => isIdentifier_of_parseParams parsed member
  have both := (List.forall₂_and_left _ _).mpr ⟨named, each⟩
  exact both.imp fun param statement ⟨proper, own⟩ => carries_of_statementOf received proper own

/-- Each statement for a parameter of a template is one line that Java reads as the declaration of a
variable of its type and name, set to what the method for its source gives for the name, the default
and the parser of the type. So equal statements come from parameters that are alike. -/
theorem codeFor_carries {options : CodeNames} {template other : String}
    {params others : ParamList} {code otherCode : Code}
    (received : isIdentifier options.accessor = true) (parsed : parseParams template = .ok params)
    (written : codeFor options params = .ok code) (parsedOther : parseParams other = .ok others)
    (writtenOther : codeFor options others = .ok otherCode) :
    List.Forall₂ (Carries options) params.all code.statements ∧
      (code.statements = otherCode.statements → List.Forall₂ Alike params.all others.all) := by
  have carries := carries_of_codeFor received parsed written
  have too := carries_of_codeFor received parsedOther writtenOther
  refine ⟨carries, fun same => ?_⟩
  rw [← same] at too
  exact alike_of_carries carries too

/-- A number as it is written, and a text that would end a literal. -/
def quotingParams (number : String) : ParamList :=
  ⟨[⟨"id", .path, .int, some number⟩], [⟨"q", .query, .string, some "\"\\u0022"⟩]⟩

/-- The code for both, whether the number has a sign or a zero in front. -/
def quotingCode : Code :=
  ⟨"record Params(int id, String q) \x7b\x7d",
    ["Integer id = rp.getPathParam(\"id\", 7, IntegerParser.create());",
      "String q = rp.getQueryParam(\"q\", \"\\\"\\\\u0022\", StringParser.create());"]⟩

/-- Two parameters with quotes in their defaults, and another spelling of the number. -/
theorem codeFor_carries_quoting :
    parseParams "/a/\x7bint:id=07\x7d?q=\x7bstring=\"\\u0022\x7d" = .ok (quotingParams "07") ∧
      parseParams "/\x7bint:id=+7\x7d?q=\x7bstring=\"\\u0022\x7d" = .ok (quotingParams "+7") ∧
      codeFor {} (quotingParams "07") = .ok quotingCode ∧
      codeFor {} (quotingParams "+7") = .ok quotingCode ∧
      List.Forall₂ (Carries {}) (quotingParams "07").all quotingCode.statements ∧
      List.Forall₂ Alike (quotingParams "07").all (quotingParams "+7").all := by
  have received : isIdentifier ({} : CodeNames).accessor = true := by decide
  have parsed : parseParams "/a/\x7bint:id=07\x7d?q=\x7bstring=\"\\u0022\x7d" =
      .ok (quotingParams "07") := by rfl
  have parsedOther : parseParams "/\x7bint:id=+7\x7d?q=\x7bstring=\"\\u0022\x7d" =
      .ok (quotingParams "+7") := by rfl
  have written : codeFor {} (quotingParams "07") = .ok quotingCode := by rfl
  have writtenOther : codeFor {} (quotingParams "+7") = .ok quotingCode := by rfl
  have both := codeFor_carries received parsed written parsedOther writtenOther
  exact ⟨parsed, parsedOther, written, writtenOther, both.1, both.2 rfl⟩

/-- The parameters are those of a tree. -/
theorem exists_quoting_tree : ∃ tree : TemplateTree, tree.resolve = .ok (quotingParams "07") := by
  have parsed : parseParams "/a/\x7bint:id=07\x7d?q=\x7bstring=\"\\u0022\x7d" =
      .ok (quotingParams "07") := by rfl
  obtain ⟨tree, -, resolved⟩ := parseParams_eq_ok_iff.mp parsed
  exact ⟨tree, resolved⟩

end TypedRoutes.Java

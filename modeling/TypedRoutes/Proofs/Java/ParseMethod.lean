import TypedRoutes.Proofs.Java.Scope
import TypedRoutes.Proofs.Param.Declares

/-! No name is captured in a parse method: its variables differ, each use of one stands behind its
declaration, and none hides a class on which the method calls another. -/

namespace TypedRoutes.Java

/-! The text of the method. -/

/-- A text in which an indent and the name of a record are pasted. The indent is blank and the name
is one word, whatever they are; what stands between them is read by Java. -/
inductive Pasted (indent record : String) : String → List Lexeme → Prop where
  | done : Pasted indent record "" []
  | indented {text : String} {lexemes : List Lexeme} (behind : Pasted indent record text lexemes) :
    Pasted indent record (indent ++ text) lexemes
  | named {text : String} {lexemes : List Lexeme} (behind : Pasted indent record text lexemes) :
    Pasted indent record (record ++ text) (.identifier record :: lexemes)
  | lineFeed {text : String} {lexemes : List Lexeme} (behind : Pasted indent record text lexemes) :
    Pasted indent record ("\n" ++ text) lexemes
  | code {front text : String} {begun lexemes : List Lexeme} (read : Expresses [] front begun)
    (behind : Pasted indent record text lexemes) :
    Pasted indent record (front ++ text) (begun ++ lexemes)

namespace Pasted

variable {indent record : String}

/-- Texts with something pasted in them may stand side by side. -/
theorem append {first second : String} {begun ended : List Lexeme}
    (front : Pasted indent record first begun) (back : Pasted indent record second ended) :
    Pasted indent record (first ++ second) (begun ++ ended) := by
  -- The second text takes the place of the empty one at the end of the first.
  induction front with
  | done => simpa using back
  | indented _ ih => simpa [String.append_assoc] using ih.indented
  | named _ ih => simpa [String.append_assoc] using ih.named
  | lineFeed _ ih => simpa only [String.append_assoc] using ih.lineFeed
  | code read _ ih => simpa [String.append_assoc] using ih.code read

/-- Code in which nothing is pasted. -/
theorem of_expresses {text : String} {lexemes : List Lexeme} (read : Expresses [] text lexemes) :
    Pasted indent record text lexemes := by
  simpa using Pasted.code read (.done : Pasted indent record "" [])

/-- Lines with their ends. -/
theorem joinLines {lines : List String} {lexemes : List (List Lexeme)}
    (each : List.Forall₂ (Pasted indent record) lines lexemes) :
    Pasted indent record (joinLines lines) lexemes.flatten := by
  -- Between two lines there is nothing but the line feed, which is blank.
  induction each with
  | nil => exact .done
  | @cons line found lines others first _ ih =>
    have text : TypedRoutes.joinLines (line :: lines) =
        line ++ ("\n" ++ TypedRoutes.joinLines lines) := by
      simp [String.ext_iff, joinLines_cons]
    rw [text]
    exact first.append ih.lineFeed

end Pasted

/-- The lexemes of the parse method, line by line. -/
def methodCode (handler : Handler) (params : ParamList) (arguments : List (List Lexeme)) :
    List (List Lexeme) :=
  openingCode handler ++ (List.zipWith (statementLexemes handler.codeNames) params.all arguments ++
    [returnCode handler params, [.symbol "\x7d"]])

/-- The line that returns the parameters, behind the name of the record. -/
theorem expresses_nameList {params : ParamList}
    (legal : ∀ param ∈ params.all, IsLegalName param.name) :
    Expresses [] ("(" ++ params.nameList ++ ");") (.symbol "(" :: ([.symbol ","].intercalate
      (params.all.map fun param => [.identifier param.name]) ++ [.symbol ")", .symbol ";"])) := by
  -- The names are pieces with commas between them, and the brackets stand around them.
  have names : Closes (listed (params.all.map fun param => [.word param.name])) :=
    closes_listed (List.forall_mem_map.mpr fun param member =>
      closes_word (isLegalName_iff.mp (legal param member)).1)
  have made : Made ("(" ++ params.nameList ++ ");") (marks ['('] ++
      listed (params.all.map fun param => [.word param.name]) ++ marks [')', ';']) := by
    refine ⟨((leads_marks ['('] (by decide)).closes names).marks ')' [';'] (by decide), ?_⟩
    simp [ParamList.nameList, Piece.text, String.toList_intercalate, Function.comp_def]
  have read := made.expresses
  rw [lexemesOf_append, lexemesOf_append, lexemesOf_listed_names legal] at read
  simpa [lexemesOf, marks, Piece.lexemes] using read

section

variable {handler : Handler} {options : UnitOptions}

/-- The lines in front of the statements. -/
theorem pasted_openingLines :
    List.Forall₂ (Pasted options.indent handler.recordName) (openingLines handler options)
      (openingCode handler ++ [[]]) := by
  -- What is read in the two lines stands around the name of the record and the indents.
  have context := closes_word (by decide : isIdentifier unitContext = true)
  have method := closes_word (by decide : isIdentifier "parse" = true)
  have create := closes_dotted (by decide : isDottedIdentifier "RequestParser.create" = true)
  have modifier : Expresses [] "static " [.keyword "static"] :=
    Made.expresses ⟨leads_spaced ["static"] (by decide), by simp⟩
  have head : Expresses [] (" parse(RoutingContext " ++ unitContext ++ ") \x7b")
      [.identifier "parse", .symbol "(", .identifier "RoutingContext", .identifier unitContext,
        .symbol ")", .symbol "\x7b"] := by
    have opened := ((leads_marks [' '] (by decide)).closes method).marks '(' [] (by decide)
    have typed := opened.append (leads_spaced ["RoutingContext"] (by decide))
    exact Made.expresses ⟨(typed.closes context).marks ')' [' ', '\x7b'] (by decide),
      by simp [Piece.text, unitContext]⟩
  have reader : Expresses [] ("RequestParser " ++ unitAccessor ++ " = RequestParser.create(" ++
      unitContext ++ ");") [.identifier "RequestParser", .identifier unitAccessor, .symbol "=",
        .identifier "RequestParser", .symbol ".", .identifier "create", .symbol "(",
        .identifier unitContext, .symbol ")", .symbol ";"] := by
    have declared := (leads_spaced ["RequestParser", unitAccessor] (by decide)).append leads_equals
    have opened := (declared.closes create).marks '(' [] (by decide)
    exact Made.expresses ⟨(opened.closes context).marks ')' [';'] (by decide),
      by simp [Piece.text]⟩
  have first : Pasted options.indent handler.recordName _ _ :=
    ((Pasted.of_expresses head).named.code modifier).indented
  have second : Pasted options.indent handler.recordName _ _ :=
    (Pasted.of_expresses reader).indented.indented
  simp only [← String.append_assoc] at first second
  exact .cons first (.cons second (.cons .done .nil))

/-- The lines behind the statements. -/
theorem pasted_closingLines {params : ParamList}
    (legal : ∀ param ∈ params.all, IsLegalName param.name) :
    List.Forall₂ (Pasted options.indent handler.recordName)
      ["", returnLine handler params options, options.indent ++ "\x7d"]
      [[], returnCode handler params, [.symbol "\x7d"]] := by
  -- The record is named in the line of the return, and nothing is pasted into the bracket.
  have result : Expresses [] "return new " [.keyword "return", .keyword "new"] :=
    Made.expresses ⟨leads_spaced ["return", "new"] (by decide), by simp⟩
  have bracket : Expresses [] "\x7d" [.symbol "\x7d"] :=
    Made.expresses ⟨leads_marks ['\x7d'] (by decide), by simp⟩
  have names := expresses_nameList legal
  have first : Pasted options.indent handler.recordName _ _ :=
    ((Pasted.of_expresses names).named.code result).indented.indented
  have second : Pasted options.indent handler.recordName _ _ :=
    (Pasted.of_expresses bracket).indented
  simp only [← String.append_assoc, ParamList.nameList] at first
  exact .cons .done (.cons first (.cons second .nil))

/-- The lines of the method in groups. -/
theorem parseMethod_eq (params : ParamList) (code : Code) :
    parseMethod options.indent handler.recordName params code =
      openingLines handler options ++ code.statements.map (options.indent ++ options.indent ++ ·) ++
        ["", returnLine handler params options, options.indent ++ "\x7d"] :=
  rfl

/-- The text of the method is code around what is pasted. -/
theorem pasted_parseMethod {params : ParamList} {code : Code} {arguments : List (List Lexeme)}
    (legal : ∀ param ∈ params.all, IsLegalName param.name)
    (read : List.Forall₂ (Expresses []) code.statements
      (List.zipWith (statementLexemes handler.codeNames) params.all arguments)) :
    Pasted options.indent handler.recordName
      (joinLines (parseMethod options.indent handler.recordName params code))
      (methodCode handler params arguments).flatten := by
  -- A statement is code behind two indents.
  have statements : List.Forall₂ (Pasted options.indent handler.recordName)
      (code.statements.map (options.indent ++ options.indent ++ ·))
      (List.zipWith (statementLexemes handler.codeNames) params.all arguments) := by
    rw [List.forall₂_map_left_iff]
    refine read.imp fun statement lexemes found => ?_
    simpa only [String.append_assoc] using (Pasted.of_expresses found).indented.indented
  have whole := Pasted.joinLines (List.rel_append (List.rel_append pasted_openingLines statements)
    (pasted_closingLines legal))
  rw [parseMethod_eq]
  simpa [methodCode] using whole

end

/-! What its names do. -/

/-- The classes on which the statement for a parameter calls methods. -/
def calledClasses (param : Param) : List String :=
  (if param.type = .timestamp ∧ param.default ≠ none then ["Instant"] else []) ++
    [(typeNames param.type).parser]

/-- What the names in the statement for a parameter do. -/
def statementMentions (param : Param) : List Mention :=
  .declares param.name :: .calls unitAccessor :: (calledClasses param).map .calls

/-- What the names in the method do. -/
def methodMentions (params : ParamList) : List Mention :=
  [.declares unitContext, .declares unitAccessor, .calls "RequestParser", .reads unitContext] ++
    (params.all.flatMap statementMentions ++ params.all.map fun param => .reads param.name)

/-- In an argument only the class of timestamps is mentioned. -/
theorem mentions_argument {param : Param} {argument : List Lexeme}
    (given : IsArgument param argument) (back : List Lexeme) : mentions none (argument ++ back) =
      (if param.type = .timestamp ∧ param.default ≠ none then [.calls "Instant"] else []) ++
        mentions none back := by
  -- Only the call for a timestamp has names in it.
  rcases given.cases with ⟨absent, rfl⟩ | ⟨other, sign, value, signed, constant, rfl⟩ |
    ⟨stamped, raw, default, rfl⟩
  · simp [absent]
  · rcases signed with rfl | rfl <;> cases constant <;> simp [other, mentions, mentions_behind]
  · simp [stamped, default, mentions, mention?, isNamed, mentions_behind]

/-- A statement declares its variable, and calls the reader of requests and classes. -/
theorem mentions_statement {handler : Handler} {param : Param} {argument : List Lexeme}
    (given : IsArgument param argument) :
    mentions none (statementLexemes handler.codeNames param argument) =
      statementMentions param := by
  -- The comma behind the name that is asked for separates the argument from what is called with it.
  let call : List Lexeme := [.identifier (typeNames param.type).boxed, .identifier param.name,
    .symbol "=", .identifier unitAccessor, .symbol ".", method param.source, .symbol "(",
    .string param.name]
  let parser : List Lexeme := [.identifier (typeNames param.type).parser, .symbol ".",
    .identifier "create", .symbol "(", .symbol ")", .symbol ")", .symbol ";"]
  have shape : statementLexemes handler.codeNames param argument =
      call ++ .symbol "," :: (argument ++ parser) := by
    rw [statementLexemes, ofWord_accessor, List.append_assoc]
    rfl
  have begun : mentions none (call ++ [.symbol ","]) =
      [.declares param.name, .calls unitAccessor] := by
    cases source : param.source <;> simp [call, mentions, mention?, isNamed, method, source]
  have ended : mentions none parser = [.calls (typeNames param.type).parser] := by
    simp [parser, mentions, mention?, isNamed]
  rw [shape, mentions_append _ _ (by decide), mentions_argument given, begun, ended,
    statementMentions, calledClasses]
  split <;> rfl

/-- So do the statements, one after the other. -/
theorem mentions_statements {handler : Handler} {params : List Param}
    {arguments : List (List Lexeme)} (given : List.Forall₂ IsArgument params arguments) :
    (List.zipWith (statementLexemes handler.codeNames) params arguments).flatMap (mentions none) =
      params.flatMap statementMentions := by
  -- The induction is on the parameters with their arguments.
  induction given with
  | nil => rfl
  | cons first _ ih =>
    rw [List.zipWith_cons_cons, List.flatMap_cons, List.flatMap_cons, ih, mentions_statement first]

/-- Names with commas between them, and the end of a call. -/
def argumentNames (names : List String) : List Lexeme :=
  [.symbol ","].intercalate (names.map fun name => [.identifier name]) ++ [.symbol ")", .symbol ";"]

/-- There is a comma behind every name but the last. -/
theorem argumentNames_cons_cons (name next : String) (names : List String) :
    argumentNames (name :: next :: names) =
      [.identifier name] ++ .symbol "," :: argumentNames (next :: names) := by
  simp [argumentNames]

/-- Names between commas are read. -/
theorem mentions_argumentNames (names : List String) :
    mentions none (argumentNames names) = names.map .reads := by
  -- The last name stands in front of the bracket, and all others in front of a comma.
  induction names with
  | nil => rfl
  | cons name names ih =>
    cases names with
    | nil => simp [argumentNames, List.intercalate, mentions, mention?, isNamed]
    | cons next names =>
      rw [argumentNames_cons_cons, mentions_append _ _ (by decide), ih]
      simp [mentions, mention?, isNamed]

/-- The line that returns the parameters ends with their names. -/
theorem returnCode_eq (handler : Handler) (params : ParamList) : returnCode handler params =
    [.keyword "return", .keyword "new", .identifier handler.recordName] ++
      .symbol "(" :: argumentNames (params.all.map Param.name) := by
  -- Only the grouping differs.
  rw [returnCode, argumentNames, List.map_map]
  rfl

/-- The lines of the method stand between those of the class and that of the record. -/
theorem codeLines_eq {handler : Handler} {path : String} {params : ParamList}
    {options : UnitOptions} {arguments : List (List Lexeme)} (filled : params.all ≠ []) :
    codeLines handler path params options arguments = classCode handler path options ++
      (methodCode handler params arguments ++ [recordCode handler params, [.symbol "\x7d"]]) := by
  simp [codeLines, methodCode, filled]

/-- What the names in the method do does not depend on what the defaults are. -/
theorem mentions_methodCode {handler : Handler} {params : ParamList}
    {arguments : List (List Lexeme)} (filled : params.all ≠ [])
    (given : List.Forall₂ IsArgument params.all arguments) :
    mentions none (methodCode handler params arguments).flatten = methodMentions params := by
  -- Each line ends with a separator, so the lines are looked at one by one.
  have ended : ∀ line ∈ methodCode handler params arguments, EndsApart line := by
    intro line member
    have whole : line ∈ codeLines handler "" params {} arguments := by
      rw [codeLines_eq filled]
      exact List.mem_append_right _ (List.mem_append_left _ member)
    exact endsApart_of_mem_codeLines whole
  have opening : (openingCode handler).flatMap (mentions none) =
      [.declares unitContext, .declares unitAccessor, .calls "RequestParser",
        .reads unitContext] := by
    simp [openingCode, mentions, mention?, isNamed]
  have result : mentions none (returnCode handler params) =
      params.all.map fun param => .reads param.name := by
    rw [returnCode_eq, mentions_append _ _ (by decide), mentions_argumentNames, List.map_map]
    rfl
  rw [mentions_flatten ended, methodCode, List.flatMap_append, List.flatMap_append, opening,
    mentions_statements given, methodMentions]
  simp [result, mentions]

/-! The method is one block. -/

/-- An argument opens no block and closes none. -/
theorem not_isBlockMark_of_mem_argument {param : Param} {argument : List Lexeme}
    (given : IsArgument param argument) : ∀ lexeme ∈ argument, isBlockMark lexeme = false := by
  -- A sign, a value and a call have no braces.
  rcases given.cases with ⟨-, rfl⟩ | ⟨-, sign, value, signed, constant, rfl⟩ | ⟨-, raw, -, rfl⟩
  · exact List.forall_mem_nil _
  · rcases signed with rfl | rfl <;> cases constant <;> simp [isBlockMark]
  · simp [isBlockMark]

/-- Nor does a statement. -/
theorem not_isBlockMark_of_mem_statement {handler : Handler} {param : Param}
    {argument : List Lexeme} (given : IsArgument param argument) :
    ∀ lexeme ∈ statementLexemes handler.codeNames param argument, isBlockMark lexeme = false := by
  -- Around the argument there are fixed marks, none of them a brace.
  rw [statementLexemes, ofWord_accessor]
  refine List.forall_mem_append.mpr ⟨List.forall_mem_append.mpr ⟨?_,
    not_isBlockMark_of_mem_argument given⟩, by simp [isBlockMark]⟩
  cases source : param.source <;> simp [isBlockMark, method]

/-- Nor do the statements, one after the other. -/
theorem not_isBlockMark_of_mem_statements {handler : Handler} {params : List Param}
    {arguments : List (List Lexeme)} (given : List.Forall₂ IsArgument params arguments) :
    ∀ lexeme ∈ (List.zipWith (statementLexemes handler.codeNames) params arguments).flatten,
      isBlockMark lexeme = false := by
  -- The induction is on the parameters with their arguments.
  induction given with
  | nil => exact List.forall_mem_nil _
  | cons first _ ih =>
    rw [List.zipWith_cons_cons, List.flatten_cons]
    exact List.forall_mem_append.mpr ⟨not_isBlockMark_of_mem_statement first, ih⟩

/-- Nor do names between commas. -/
theorem not_isBlockMark_of_mem_argumentNames (names : List String) :
    ∀ lexeme ∈ argumentNames names, isBlockMark lexeme = false := by
  -- The induction is on the names, as they are written with commas.
  induction names with
  | nil => simp [argumentNames, List.intercalate, isBlockMark]
  | cons name names ih =>
    cases names with
    | nil => simp [argumentNames, List.intercalate, isBlockMark]
    | cons next names =>
      rw [argumentNames_cons_cons]
      exact List.forall_mem_append.mpr ⟨by simp [isBlockMark],
        List.forall_mem_cons.mpr ⟨by decide, ih⟩⟩

/-- The only block of the method is its body. -/
theorem isOneBlock_methodCode {handler : Handler} {params : ParamList}
    {arguments : List (List Lexeme)} (given : List.Forall₂ IsArgument params.all arguments) :
    IsOneBlock (methodCode handler params arguments).flatten := by
  -- The braces are at the end of the first line and in the last one.
  let head : List Lexeme := [.keyword "static", .identifier handler.recordName,
    .identifier "parse", .symbol "(", .identifier "RoutingContext", .identifier unitContext,
    .symbol ")"]
  let reader : List Lexeme := [.identifier "RequestParser", .identifier unitAccessor, .symbol "=",
    .identifier "RequestParser", .symbol ".", .identifier "create", .symbol "(",
    .identifier unitContext, .symbol ")", .symbol ";"]
  let statements := (List.zipWith (statementLexemes handler.codeNames) params.all arguments).flatten
  refine ⟨head, reader ++ (statements ++ returnCode handler params), ?_, ?_⟩
  · simp [methodCode, openingCode, head, reader, statements]
  · have result : ∀ lexeme ∈ returnCode handler params, isBlockMark lexeme = false := by
      rw [returnCode_eq]
      exact List.forall_mem_append.mpr ⟨by simp [isBlockMark],
        List.forall_mem_cons.mpr ⟨by decide, not_isBlockMark_of_mem_argumentNames _⟩⟩
    refine List.forall_mem_append.mpr ⟨by simp [head, isBlockMark], List.forall_mem_append.mpr
      ⟨by simp [reader, isBlockMark], List.forall_mem_append.mpr
        ⟨not_isBlockMark_of_mem_statements given, result⟩⟩⟩

/-! No name is captured. -/

/-- What the names in the parse method of a file do, where none is captured. -/
structure NoCapture (params : ParamList) (found : List Mention) : Prop where
  /-- The variables are the context, the reader of requests, and one for each parameter. -/
  declared : declaredIn found = localVariables params
  /-- No two of them have the same name. -/
  distinct : (declaredIn found).Nodup
  /-- Where the name of a variable is used, its declaration stands before, and there is no other. -/
  bound : ∀ before use after name, found = before ++ use :: after → use.used? = some name →
    name ∈ localVariables params → .declares name ∈ before ∧ .declares name ∉ after
  /-- Nothing but variables is read. -/
  reads : ∀ name, .reads name ∈ found → name ∈ localVariables params
  /-- Methods are called on the reader of requests, and on classes. -/
  calls : ∀ name, .calls name ∈ found ↔ name = unitAccessor ∨ name = "RequestParser" ∨
    ∃ param ∈ params.all, name ∈ calledClasses param
  /-- No variable has the name of one of the classes. -/
  classes : ∀ name, .calls name ∈ found → name ≠ unitAccessor → name ∉ localVariables params

/-- The classes on which methods are called are known to be called. -/
theorem isCalledClass_of_mem_calledClasses {param : Param} {name : String}
    (member : name ∈ calledClasses param) : isCalledClass name = true := by
  -- The classes are that of timestamps and the parser of the type.
  have parsers (type : ParamType) : isCalledClass (typeNames type).parser = true := by
    cases type <;> decide
  rcases List.mem_append.mp member with stamped | parser
  · split at stamped
    · rw [List.mem_singleton.mp stamped]
      decide
    · cases stamped
  · rw [List.mem_singleton.mp parser]
    exact parsers param.type

/-- A statement declares the variable of its parameter. -/
theorem declaredIn_statementMentions (param : Param) :
    declaredIn (statementMentions param) = [param.name] := by
  simp [declaredIn, statementMentions, Mention.declared?]

/-- So do the statements, one after the other. -/
theorem declaredIn_statements (params : List Param) :
    declaredIn (params.flatMap statementMentions) = params.map Param.name := by
  rw [declaredIn, List.filterMap_flatMap, List.map_eq_flatMap]
  exact congrArg params.flatMap (funext declaredIn_statementMentions)

/-- The method declares its fixed variables, and one for each parameter. -/
theorem declaredIn_methodMentions (params : ParamList) : declaredIn (methodMentions params) =
    unitContext :: unitAccessor :: params.all.map Param.name := by
  -- The statements declare the parameters, and what is returned declares nothing.
  have statements := declaredIn_statements params.all
  have reads : declaredIn (params.all.map fun param => .reads param.name) = [] := by
    simp [declaredIn, List.filterMap_map, Function.comp_def, Mention.declared?]
  rw [declaredIn] at statements reads
  rw [declaredIn, methodMentions, List.filterMap_append, List.filterMap_append, statements, reads]
  simp [Mention.declared?]

section

variable {params : ParamList}

/-- The method calls one class by itself, and its statements call the others. -/
theorem calls_mem_methodMentions {name : String} : .calls name ∈ methodMentions params ↔
    name = "RequestParser" ∨ ∃ param ∈ params.all,
      (name = unitAccessor ∨ name ∈ calledClasses param) := by
  -- The opening calls the first one, and each statement the reader of requests and its classes.
  simp [methodMentions, statementMentions]

/-- What is read is the context, and at the end each parameter. -/
theorem reads_mem_methodMentions {name : String} : .reads name ∈ methodMentions params ↔
    name = unitContext ∨ ∃ param ∈ params.all, param.name = name := by
  simp [methodMentions, statementMentions]

/-- With parameters the variables are two fixed ones and the parameters. -/
theorem localVariables_of_ne_nil (filled : params.all ≠ []) :
    localVariables params = unitContext :: unitAccessor :: params.all.map Param.name :=
  if_neg filled

/-- No variable is called like a class on which a method may be called. -/
theorem not_mem_localVariables (free : ∀ param ∈ params.all, isCalledClass param.name = false)
    {name : String} (called : isCalledClass name = true) : name ∉ localVariables params := by
  -- Neither the fixed variables nor the parameters are called like such a class.
  have fixed : isCalledClass unitContext = false ∧ isCalledClass unitAccessor = false := by decide
  intro member
  have open_name : isCalledClass name = false := by
    unfold localVariables at member
    split at member
    · cases member
    · simp only [List.mem_cons, List.mem_map] at member
      obtain rfl | rfl | ⟨param, inside, rfl⟩ := member
      · exact fixed.1
      · exact fixed.2
      · exact free param inside
  rw [called] at open_name
  cases open_name

/-- Each name is used where its declaration is known. -/
theorem scoped_methodMentions (free : ∀ param ∈ params.all, isCalledClass param.name = false) :
    Scoped (localVariables params) [] (methodMentions params) := by
  -- The method is its opening, the statements and what is returned, one behind the other.
  have apart {name : String} (called : isCalledClass name = true) {known : List String} :
      name ∈ localVariables params → name ∈ known :=
    fun member => absurd member (not_mem_localVariables free called)
  have opening : Scoped (localVariables params) [] [.declares unitContext, .declares unitAccessor,
      .calls "RequestParser", .reads unitContext] :=
    .declares (.declares (.uses rfl (apart (by decide)) (.uses rfl (fun _ => by simp) .done)))
  -- A statement only needs the reader of requests, besides its own variable.
  have statement (param : Param) :
      Scoped (localVariables params) [unitAccessor] (statementMentions param) := by
    refine .declares (.uses rfl (fun _ => by simp) (.of_uses ?_))
    refine List.forall_mem_map.mpr fun name member => ⟨name, rfl, ?_⟩
    exact apart (isCalledClass_of_mem_calledClasses member)
  have result : Scoped (localVariables params) (params.all.map Param.name)
      (params.all.map fun param => .reads param.name) :=
    .of_uses (List.forall_mem_map.mpr fun param member =>
      ⟨param.name, rfl, fun _ => List.mem_map_of_mem member⟩)
  refine opening.append (.append (.flatMap fun param _ => statement param) result ?_) ?_
  · rw [declaredIn_statements]
    exact List.subset_append_left _ _
  · simp [declaredIn, Mention.declared?]

/-- In the method of a file no name is captured, if the parameters have free names that differ. -/
theorem noCapture_methodMentions (filled : params.all ≠ [])
    (distinct : (params.all.map Param.name).Nodup)
    (free : ∀ param ∈ params.all, isCalledClass param.name = false)
    (other : ∀ param ∈ params.all, param.name ≠ unitContext ∧ param.name ≠ unitAccessor) :
    NoCapture params (methodMentions params) := by
  have declared : declaredIn (methodMentions params) = localVariables params := by
    rw [declaredIn_methodMentions, localVariables_of_ne_nil filled]
  -- The parameters differ among themselves, and from both fixed variables.
  have differ : (declaredIn (methodMentions params)).Nodup := by
    have first : unitContext ∉ unitAccessor :: params.all.map Param.name := by
      rw [List.mem_cons, not_or]
      refine ⟨by decide, fun member => ?_⟩
      obtain ⟨param, inside, same⟩ := List.mem_map.mp member
      exact (other param inside).1 same
    have second : unitAccessor ∉ params.all.map Param.name := by
      intro member
      obtain ⟨param, inside, same⟩ := List.mem_map.mp member
      exact (other param inside).2 same
    rw [declaredIn_methodMentions]
    exact List.nodup_cons.mpr ⟨first, List.nodup_cons.mpr ⟨second, distinct⟩⟩
  have calls (name : String) : .calls name ∈ methodMentions params ↔ name = unitAccessor ∨
      name = "RequestParser" ∨ ∃ param ∈ params.all, name ∈ calledClasses param := by
    obtain ⟨some_param, inside⟩ := List.exists_mem_of_ne_nil _ filled
    rw [calls_mem_methodMentions]
    constructor
    · rintro (parser | ⟨param, member, accessor | called⟩)
      · exact Or.inr (Or.inl parser)
      · exact Or.inl accessor
      · exact Or.inr (Or.inr ⟨param, member, called⟩)
    · rintro (accessor | parser | ⟨param, member, called⟩)
      · exact Or.inr ⟨some_param, inside, Or.inl accessor⟩
      · exact Or.inl parser
      · exact Or.inr ⟨param, member, Or.inr called⟩
  refine ⟨declared, differ, ?_, ?_, calls, ?_⟩
  -- Nothing is known in front of the method, so the declaration stands in it; it is the only one.
  · intro before use after name split used inside
    have earlier := ((scoped_methodMentions free).declared_before split used inside).resolve_left
      List.not_mem_nil
    rw [split] at differ
    exact ⟨earlier, not_declared_behind differ earlier⟩
  · intro name member
    rw [localVariables_of_ne_nil filled, List.mem_cons, List.mem_cons, List.mem_map]
    exact (reads_mem_methodMentions.mp member).imp_right Or.inr
  -- A class on which a method is called is none of the variables.
  · intro name member another
    refine not_mem_localVariables free ?_
    obtain same | rfl | ⟨param, inside, called⟩ := (calls name).mp member
    · exact absurd same another
    · decide
    · exact isCalledClass_of_mem_calledClasses called

end

/-! The method in a file. -/

/-- The parse method of a file: where it stands, what is read there, and what its names do. -/
structure ParsesIn (handler : Handler) (path : String) (params : ParamList) (options : UnitOptions)
    (source : String) (code : Code) (method : List Lexeme) : Prop where
  /-- Its statements are the code for the parameters. -/
  coded : codeFor handler.codeNames params = .ok code
  /-- It stands between the lines of the class and that of the record. -/
  lines : source = joinLines (leadLines handler params options ++
    (classLines handler path options ++
      (parseMethod options.indent handler.recordName params code ++
        ["", recordLine handler params options, "\x7d"])))
  /-- Its text is code in which only the indent and the name of the record are pasted. -/
  text : Pasted options.indent handler.recordName
    (joinLines (parseMethod options.indent handler.recordName params code)) method
  /-- Apart from the defaults the code is known. -/
  shape : ∃ arguments, List.Forall₂ IsArgument params.all arguments ∧
    method = (methodCode handler params arguments).flatten
  /-- It is one block. -/
  block : IsOneBlock method
  /-- None of its names is captured. -/
  names : NoCapture params (mentions none method)
  /-- Java reads it in the whole file, if the names of the handler and the package are names. -/
  read : handler.Proper → isDottedIdentifier options.runtimePackage = true →
    (∀ c ∈ options.indent.toList, c ∈ [' ', '\t']) →
    ReadAs source ((if handler.package = "" then [] else headerLexemes "package" handler.package) ++
      (importList options.runtimePackage params.all).flatMap (headerLexemes "import") ++
      ((classCode handler path options).flatten ++
        (method ++ (recordCode handler params ++ [.symbol "\x7d"]))))

/-- The names of parameters with code are free: they differ from the fixed variables, and are not
called like a class on which a method is called. -/
theorem free_of_codeFor {handler : Handler} {params : ParamList} {code : Code}
    (coded : codeFor handler.codeNames params = .ok code) {param : Param}
    (member : param ∈ params.all) :
    isCalledClass param.name = false ∧ param.name ≠ unitContext ∧ param.name ≠ unitAccessor := by
  -- Each of the three is one of the tests that a written name has passed.
  have free := reserves_of_codeFor coded member
  simp only [CodeNames.reserves, Handler.codeNames, Bool.or_eq_false_iff] at free
  obtain ⟨⟨⟨-, called⟩, accessor⟩, reserved⟩ := free
  exact ⟨called, by simpa using reserved, by simpa using accessor⟩

/-- A file without parameters has no parse method. In any other no name of the parse method is
captured: its variables differ, each is used behind its declaration only, and none hides a class on
which a method is called. -/
theorem unitSource_no_capture {handler : Handler} {path source : String} {tree : TemplateTree}
    {params : ParamList} {options : UnitOptions} (resolved : tree.resolve = .ok params)
    (written : unitSource handler path params options = .ok source) :
    (params.all = [] → source = joinLines (leadLines handler params options ++
      (classLines handler path options ++ ["\x7d"]))) ∧
    (params.all ≠ [] → ∃ code method,
      ParsesIn handler path params options source code method) := by
  obtain ⟨code, coded, rfl⟩ := unitSource_eq_ok_iff.mp written
  constructor
  · intro empty
    rw [unitLines_eq path coded, if_pos empty]
  -- The text is known line by line, and so is what its names do.
  · intro filled
    have declares := TemplateTree.resolve_eq_ok_iff_declares.mp resolved
    have named : ∀ param ∈ params.all, isIdentifier param.name = true :=
      fun param member => isIdentifier_iff.mpr (declares.proper param member)
    have legal : ∀ param ∈ params.all, IsLegalName param.name :=
      fun param member => isLegalName_of_isIdentifier coded member (named param member)
    obtain ⟨arguments, given, read⟩ := exists_arguments_of_codeFor named coded
    refine ⟨code, (methodCode handler params arguments).flatten, ?_⟩
    constructor
    case coded => exact coded
    case lines =>
      rw [unitLines_eq path coded, if_neg filled]
      simp [parseMethod_eq, closingLines]
    case text => exact pasted_parseMethod legal read
    case shape => exact ⟨arguments, given, rfl⟩
    case block => exact isOneBlock_methodCode given
    case names =>
      rw [mentions_methodCode filled given]
      exact noCapture_methodMentions filled declares.distinct
        (fun _ member => (free_of_codeFor coded member).1)
        (fun _ member => (free_of_codeFor coded member).2)
    case read =>
      intro proper runtime blank
      have file : ReadAs (joinLines (unitLines handler path params options code)) _ :=
        readAs_unitLines proper
          (fun name member => isDottedIdentifier_of_mem_importList runtime member) blank named coded
          read
      rw [unitLexemes_eq proper legal, codeLines_eq filled] at file
      simpa using file

/-- Parameters that are called like a type, and like the record. -/
def namesakeParams : ParamList :=
  ⟨[⟨"Integer", .path, .int, none⟩],
    [⟨"Users_GetUser_Params", .query, .timestamp, some "2020-02-29T00:00:60Z"⟩]⟩

/-- The code for both. -/
def namesakeCode : Code :=
  ⟨"record Users_GetUser_Params(int Integer, Instant Users_GetUser_Params) \x7b\x7d",
    ["Integer Integer = rp.getPathParam(\"Integer\", IntegerParser.create());",
      "Instant Users_GetUser_Params = rp.getQueryParam(\"Users_GetUser_Params\", " ++
        "Instant.parse(\"2020-02-29T00:00:60Z\"), InstantParser.create());"]⟩

/-- Variables may be called like a type of the language and like the record. -/
theorem unitSource_no_capture_namesakes :
    ∃ tree : TemplateTree, tree.resolve = .ok namesakeParams ∧
    ∃ source, unitSource usersHandler "/:Integer" namesakeParams {} = .ok source ∧
      ∃ code method, ParsesIn usersHandler "/:Integer" namesakeParams {} source code method := by
  -- Both names pass all tests, so the code is written, and the theorem speaks of it.
  have parsed : parseParams ("/\x7bint:Integer\x7d?" ++
      "Users_GetUser_Params=\x7btimestamp=2020-02-29T00:00:60Z\x7d") = .ok namesakeParams := by rfl
  have coded : codeFor usersHandler.codeNames namesakeParams = .ok namesakeCode := by rfl
  have filled : namesakeParams.all ≠ [] := by decide
  obtain ⟨tree, -, resolved⟩ := parseParams_eq_ok_iff.mp parsed
  have written : unitSource usersHandler "/:Integer" namesakeParams {} =
      .ok (joinLines (unitLines usersHandler "/:Integer" namesakeParams {} namesakeCode)) :=
    unitSource_eq_ok_iff.mpr ⟨namesakeCode, coded, rfl⟩
  exact ⟨tree, resolved, _, written, (unitSource_no_capture resolved written).2 filled⟩

end TypedRoutes.Java

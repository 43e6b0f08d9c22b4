import TypedRoutes.Proofs.Java.Piece
import TypedRoutes.Proofs.Java.Unit

/-! Java reads a whole generated file: each line is read as the names and marks that it is made of,
and the statements as those of their parameters. -/

namespace TypedRoutes.Java

/-! The lines of a file as pieces. -/

/-- The line of a package or of an import. -/
def headerPieces (keyword name : String) : List Piece :=
  spaced [keyword] ++ dotted name ++ marks [';']

/-- The lines of the package and the imports. -/
def leadPieces (handler : Handler) (params : ParamList) (options : UnitOptions) :
    List (List Piece) :=
  (if handler.package.isEmpty then [] else [headerPieces "package" handler.package, []]) ++
    (importList options.runtimePackage params.all).map (headerPieces "import")

/-- The lines up to the constant for the path. -/
def classPieces (handler : Handler) (path : String) (options : UnitOptions) : List (List Piece) :=
  [[],
    marks ['@'] ++ [.word "Generated"] ++ marks ['('] ++ spaced ["value"] ++ marks ['=', ' '] ++
      [.quoted options.generator] ++ marks [')'],
    spaced ["final", "class", handler.generatedClass] ++ marks ['\x7b'],
    [],
    indentPieces options.indent ++ spaced ["private"] ++ [.word handler.generatedClass] ++
      marks ['(', ')', ' ', '\x7b', '\x7d'],
    [],
    indentPieces options.indent ++ spaced ["static", "final", "String", "PATH"] ++
      marks ['=', ' '] ++ [.quoted path] ++ marks [';'],
    []]

/-- The lines before the first statement. -/
def openingPieces (handler : Handler) (options : UnitOptions) : List (List Piece) :=
  [indentPieces options.indent ++ spaced ["static", handler.recordName] ++ [.word "parse"] ++
      marks ['('] ++ spaced ["RoutingContext"] ++ [.word unitContext] ++ marks [')', ' ', '\x7b'],
    indentPieces options.indent ++ indentPieces options.indent ++
      spaced ["RequestParser", unitAccessor] ++ marks ['=', ' '] ++ dotted "RequestParser.create" ++
      marks ['('] ++ [.word unitContext] ++ marks [')', ';'],
    []]

/-- The lines behind the last statement. -/
def closingPieces (handler : Handler) (params : ParamList) (options : UnitOptions) :
    List (List Piece) :=
  [[],
    indentPieces options.indent ++ indentPieces options.indent ++ spaced ["return", "new"] ++
      [.word handler.recordName] ++ marks ['('] ++
      listed (params.all.map fun param => [.word param.name]) ++ marks [')', ';'],
    indentPieces options.indent ++ marks ['\x7d'],
    [],
    indentPieces options.indent ++ spaced ["record"] ++ [.word handler.recordName] ++ marks ['('] ++
      listed (params.all.map fun param =>
        spaced [(typeNames param.type).field] ++ [.word param.name]) ++
      marks [')', ' ', '\x7b', '\x7d'],
    marks ['\x7d']]

/-- What Java reads in a file, given the lexemes of the defaults. -/
def unitLexemes (handler : Handler) (path : String) (params : ParamList) (options : UnitOptions)
    (arguments : List (List Lexeme)) : List Lexeme :=
  lexemesOf ((leadPieces handler params options).flatten ++
    (classPieces handler path options).flatten) ++
    if params.all = [] then lexemesOf (marks ['\x7d'])
    else lexemesOf (openingPieces handler options).flatten ++
      (List.zipWith (statementLexemes handler.codeNames) params.all arguments).flatten ++
      lexemesOf (closingPieces handler params options).flatten

/-! Each line is read. -/

/-- A line that is made of pieces which fit. -/
structure Made (line : String) (pieces : List Piece) : Prop where
  /-- The pieces are read one by one. -/
  leads : Leads pieces
  /-- The line is nothing else. -/
  shape : line.toList = textOf pieces

/-- A line that is made of pieces is read as their lexemes. -/
theorem Made.expresses {line : String} {pieces : List Piece} (made : Made line pieces) :
    Expresses [] line (lexemesOf pieces) :=
  expresses_pieces made.leads.fits made.shape

/-- An empty line is made of nothing. -/
theorem made_empty : Made "" [] :=
  ⟨leads_nil, rfl⟩

/-- The line of a package or of an import is made of a word, a dotted name and a semicolon. -/
theorem made_header {keyword name : String} (word : isIdentifier keyword = true)
    (joined : isDottedIdentifier name = true) :
    Made (keyword ++ " " ++ name ++ ";") (headerPieces keyword name) := by
  -- The dotted name needs an end, which the semicolon is.
  refine ⟨?_, by simp [headerPieces]⟩
  have front : Leads (spaced [keyword]) := leads_spaced [keyword] (by simpa using word)
  exact (front.closes (closes_dotted joined)).marks ';' [] (by decide)

/-- The names of generated types are identifiers. -/
theorem Handler.Proper.isIdentifier {handler : Handler} (proper : handler.Proper) :
    isIdentifier handler.generatedClass = true ∧ isIdentifier handler.recordName = true := by
  -- They are put together from identifiers, of which the underscore is one.
  have method := isIdentifier_upperFirst proper.method
  have base : TypedRoutes.isIdentifier handler.baseName = true :=
    isIdentifier_append (isIdentifier_append proper.className (by decide)) method
  exact ⟨isIdentifier_append base (by decide), isIdentifier_append base (by decide)⟩

section

variable {handler : Handler} {params : ParamList} {options : UnitOptions}

/-- The lines above the class are made of their pieces. -/
theorem made_leadLines
    (package : handler.package = "" ∨ isDottedIdentifier handler.package = true)
    (imports : ∀ name ∈ importList options.runtimePackage params.all,
      isDottedIdentifier name = true) :
    List.Forall₂ Made (leadLines handler params options) (leadPieces handler params options) := by
  -- The package may be missing; the imports are all of one kind.
  have keywords : isIdentifier "package" = true ∧ isIdentifier "import" = true := by decide
  refine List.rel_append ?_ ?_
  · by_cases bare : handler.package.isEmpty
    · simp only [bare, if_true]
      exact .nil
    · simp only [bare]
      have joined := package.resolve_left fun same => bare (by simp [same])
      exact .cons (made_header keywords.1 joined) (.cons made_empty .nil)
  · rw [List.forall₂_map_left_iff, List.forall₂_map_right_iff, List.forall₂_same]
    exact fun name member => made_header keywords.2 (imports name member)

/-- So are the lines of the class up to the path. -/
theorem made_classLines (path : String) (named : isIdentifier handler.generatedClass = true)
    (blank : ∀ c ∈ options.indent.toList, c ∈ [' ', '\t']) :
    List.Forall₂ Made (classLines handler path options) (classPieces handler path options) := by
  have indented := leads_indent blank
  have annotation := closes_word (by decide : isIdentifier "Generated" = true)
  have modified : ∀ word ∈ ["final", "class", handler.generatedClass],
      isIdentifier word = true := by
    simpa using ⟨by decide, by decide, named⟩
  -- Of the eight lines four are empty, and the others are an annotation, the head of the class, its
  -- constructor and the constant.
  refine .cons made_empty (.cons ⟨?_, by simp [Piece.text]⟩ (.cons ⟨?_, by simp⟩ (.cons made_empty
    (.cons ⟨?_, by simp [Piece.text]⟩ (.cons made_empty (.cons ⟨?_, by simp [Piece.text]⟩
      (.cons made_empty .nil)))))))
  · have opened := ((leads_marks ['@'] (by decide)).closes annotation).marks '(' [] (by decide)
    have valued := (opened.append (leads_spaced ["value"] (by decide))).append leads_equals
    exact (valued.closes (closes_quoted _)).marks ')' [] (by decide)
  · exact (leads_spaced _ modified).append (leads_marks ['\x7b'] (by decide))
  · have constructor := (indented.append (leads_spaced ["private"] (by decide))).closes
      (closes_word named)
    exact constructor.marks '(' [')', ' ', '\x7b', '\x7d'] (by decide)
  · have constant := (indented.append (leads_spaced ["static", "final", "String", "PATH"]
      (by decide))).append leads_equals
    exact (constant.closes (closes_quoted path)).marks ';' [] (by decide)

/-- So are the lines that open the parse method. -/
theorem made_openingLines (named : isIdentifier handler.recordName = true)
    (blank : ∀ c ∈ options.indent.toList, c ∈ [' ', '\t']) :
    List.Forall₂ Made (openingLines handler options) (openingPieces handler options) := by
  have indented := leads_indent blank
  have context := closes_word (by decide : isIdentifier unitContext = true)
  have method := closes_word (by decide : isIdentifier "parse" = true)
  have create := closes_dotted (by decide : isDottedIdentifier "RequestParser.create" = true)
  have results : ∀ word ∈ ["static", handler.recordName], isIdentifier word = true := by
    simpa using ⟨by decide, named⟩
  -- The head of the method, the reader of requests, and an empty line.
  refine .cons ⟨?_, by simp [Piece.text, unitContext]⟩ (.cons ⟨?_, by simp [Piece.text]⟩
    (.cons made_empty .nil))
  · have opened := ((indented.append (leads_spaced _ results)).closes method).marks '(' []
      (by decide)
    have typed := opened.append (leads_spaced ["RoutingContext"] (by decide))
    exact (typed.closes context).marks ')' [' ', '\x7b'] (by decide)
  · have declared := ((indented.append indented).append
      (leads_spaced ["RequestParser", unitAccessor] (by decide))).append leads_equals
    have called := declared.closes create
    have opened := called.marks '(' [] (by decide)
    exact (opened.closes context).marks ')' [';'] (by decide)

/-- So are the lines behind the statements. -/
theorem made_closingLines (named : isIdentifier handler.recordName = true)
    (names : ∀ param ∈ params.all, isIdentifier param.name = true)
    (blank : ∀ c ∈ options.indent.toList, c ∈ [' ', '\t']) :
    List.Forall₂ Made (closingLines handler params options)
      (closingPieces handler params options) := by
  have indented := leads_indent blank
  have record := closes_word named
  have arguments : Closes (listed (params.all.map fun param => [.word param.name])) :=
    closes_listed (List.forall_mem_map.mpr fun param member => closes_word (names param member))
  have components : Closes (listed (params.all.map fun param =>
      spaced [(typeNames param.type).field] ++ [.word param.name])) := by
    refine closes_listed (List.forall_mem_map.mpr fun param member => ?_)
    have typed : isIdentifier (typeNames param.type).field = true := by cases param.type <;> decide
    exact (leads_spaced _ (by simpa using typed)).closes (closes_word (names param member))
  -- The lines with lists are the return and the record.
  refine .cons made_empty (.cons ⟨?_, ?_⟩ (.cons ⟨?_, by simp⟩ (.cons made_empty
    (.cons ⟨?_, ?_⟩ (.cons ⟨leads_marks ['\x7d'] (by decide), by simp⟩ .nil)))))
  · have begun := ((indented.append indented).append (leads_spaced ["return", "new"]
      (by decide))).closes record
    have opened := begun.marks '(' [] (by decide)
    exact (opened.closes arguments).marks ')' [';'] (by decide)
  · simp [returnLine, Piece.text, String.toList_intercalate, Function.comp_def]
  · exact indented.append (leads_marks ['\x7d'] (by decide))
  · have begun := (indented.append (leads_spaced ["record"] (by decide))).closes record
    have opened := begun.marks '(' [] (by decide)
    exact (opened.closes components).marks ')' [' ', '\x7b', '\x7d'] (by decide)
  · simp [recordLine, Piece.text, String.toList_intercalate, Function.comp_def]

end

/-! The whole file is read. -/

/-- Lines that are read one by one are read together. -/
theorem readAs_joinLines {lines : List String} {lexemes : List (List Lexeme)}
    (each : List.Forall₂ (Expresses []) lines lexemes) :
    ReadAs (joinLines lines) lexemes.flatten := by
  -- Both passes of Java go on from line to line, so they are put together side by side.
  have whole : ∃ image, Translates (joinLines lines).toList image ∧
      Reads image lexemes.flatten [] := by
    induction each with
    | nil => exact ⟨[], .nil, .done []⟩
    | cons line _ ih =>
      obtain ⟨image, translated, read⟩ := line.read
      obtain ⟨others, behind, more⟩ := ih
      -- The end of a line is a blank between its lexemes and those of the next.
      have feed : Translates ['\n'] ['\n'] := .char (by decide)
      have blank : Reads ('\n' :: others) [] others :=
        .step (rfl : element? '\n' others = some (none, others)) (.done others)
      refine ⟨image ++ ('\n' :: others), ?_, ?_⟩
      · rw [joinLines_cons]
        exact translated.append (feed.append behind)
      · exact (read ('\n' :: others)).append (blank.append more)
  obtain ⟨image, translated, read⟩ := whole
  exact ⟨image, translated.translate?_eq, read⟩

/-- Lines that are made of pieces are each read as their lexemes. -/
theorem expresses_of_made {lines : List String} {pieces : List (List Piece)}
    (made : List.Forall₂ Made lines pieces) :
    List.Forall₂ (Expresses []) lines (pieces.map lexemesOf) := by
  rw [List.forall₂_map_right_iff]
  exact made.imp fun _ _ => Made.expresses

/-- Every statement is read. -/
theorem exists_arguments {names : CodeNames} {params : List Param} {statements : List String}
    (received : isIdentifier names.accessor = true)
    (written : List.Forall₂ (fun param statement => isIdentifier param.name = true ∧
      statementOf names param = .ok statement) params statements) :
    ∃ arguments, List.Forall₂ IsArgument params arguments ∧ List.Forall₂ (Expresses []) statements
      (List.zipWith (statementLexemes names) params arguments) := by
  -- The lexemes of the defaults are collected statement by statement.
  induction written with
  | nil => exact ⟨[], .nil, .nil⟩
  | cons first _ ih =>
    obtain ⟨argument, given, read⟩ := expresses_statementOf received first.1 first.2
    obtain ⟨arguments, others, more⟩ := ih
    exact ⟨argument :: arguments, .cons given others, .cons read more⟩

/-- The statements of a file for parameters with proper names are read. -/
theorem exists_arguments_of_codeFor {handler : Handler} {params : ParamList} {code : Code}
    (names : ∀ param ∈ params.all, isIdentifier param.name = true)
    (coded : codeFor handler.codeNames params = .ok code) :
    ∃ arguments, List.Forall₂ IsArgument params.all arguments ∧
      List.Forall₂ (Expresses []) code.statements
        (List.zipWith (statementLexemes handler.codeNames) params.all arguments) :=
  exists_arguments (by decide : isIdentifier unitAccessor = true)
    ((List.forall₂_and_left _ _).mpr ⟨names, forall₂_of_mapM (codeFor_eq_ok_iff.mp coded).1⟩)

/-- Lines are read behind indents as they are without them. -/
theorem expresses_indented {indent : String} (blank : ∀ c ∈ indent.toList, c ∈ [' ', '\t'])
    {lines : List String} {lexemes : List (List Lexeme)}
    (each : List.Forall₂ (Expresses []) lines lexemes) :
    List.Forall₂ (Expresses []) (lines.map (indent ++ indent ++ ·)) lexemes := by
  -- Two indents are pieces without lexemes, and a line may stand behind them.
  have indented := leads_indent blank
  have front : Expresses [] (indent ++ indent) [] := by
    have shape : (indent ++ indent).toList =
        textOf (indentPieces indent ++ indentPieces indent) := by
      simp
    have pieces := expresses_pieces (indented.append indented).fits shape
    rwa [lexemesOf_append, lexemesOf_indentPieces] at pieces
  rw [List.forall₂_map_left_iff]
  exact each.imp fun _ _ read => front.append read

/-- The lines of a file are read with its statements. -/
theorem readAs_unitLines {handler : Handler} {path : String} {params : ParamList}
    {options : UnitOptions} {code : Code} {arguments : List (List Lexeme)} (proper : handler.Proper)
    (imports : ∀ name ∈ importList options.runtimePackage params.all,
      isDottedIdentifier name = true)
    (blank : ∀ c ∈ options.indent.toList, c ∈ [' ', '\t'])
    (names : ∀ param ∈ params.all, isIdentifier param.name = true)
    (coded : codeFor handler.codeNames params = .ok code)
    (read : List.Forall₂ (Expresses []) code.statements
      (List.zipWith (statementLexemes handler.codeNames) params.all arguments)) :
    ReadAs (joinLines (unitLines handler path params options code))
      (unitLexemes handler path params options arguments) := by
  obtain ⟨generated, recorded⟩ := proper.isIdentifier
  -- The package, the imports and the head of the class are there in every file.
  have front := List.rel_append (expresses_of_made (made_leadLines proper.package imports))
    (expresses_of_made (made_classLines path generated blank))
  rw [unitLines_eq path coded, unitLexemes, ← List.append_assoc, ← List.flatten_append,
    lexemesOf_flatten, List.map_append]
  by_cases empty : params.all = []
  · rw [if_pos empty, if_pos empty]
    have last : Made "\x7d" (marks ['\x7d']) := ⟨leads_marks _ (by decide), rfl⟩
    have whole := readAs_joinLines (List.rel_append front (expresses_of_made (.cons last .nil)))
    simpa using whole
  -- The statements stand between the lines that open the method and those that close it.
  · rw [if_neg empty, if_neg empty]
    have opening := expresses_of_made (made_openingLines recorded blank)
    have closing := expresses_of_made (made_closingLines recorded names blank)
    have whole := readAs_joinLines (List.rel_append front
      (List.rel_append opening (List.rel_append (expresses_indented blank read) closing)))
    simpa only [List.flatten_append, ← lexemesOf_flatten, List.append_assoc] using whole

/-- A file for parameters with proper names is read as its names, marks and statements. -/
theorem readAs_of_isIdentifier {handler : Handler} {path source : String} {params : ParamList}
    {options : UnitOptions} (proper : handler.Proper)
    (imports : ∀ name ∈ importList options.runtimePackage params.all,
      isDottedIdentifier name = true)
    (blank : ∀ c ∈ options.indent.toList, c ∈ [' ', '\t'])
    (names : ∀ param ∈ params.all, isIdentifier param.name = true)
    (written : unitSource handler path params options = .ok source) :
    ∃ arguments, List.Forall₂ IsArgument params.all arguments ∧
      ReadAs source (unitLexemes handler path params options arguments) := by
  -- The arguments of the statements are found first, and the lines are read with them.
  obtain ⟨code, coded, rfl⟩ := unitSource_eq_ok_iff.mp written
  obtain ⟨arguments, given, read⟩ := exists_arguments_of_codeFor names coded
  exact ⟨arguments, given, readAs_unitLines proper imports blank names coded read⟩

/-- A file is read as its names, marks and statements. -/
theorem readAs_unitSource {handler : Handler} {path template source : String} {params : ParamList}
    {options : UnitOptions} (proper : handler.Proper)
    (imports : ∀ name ∈ importList options.runtimePackage params.all,
      isDottedIdentifier name = true)
    (blank : ∀ c ∈ options.indent.toList, c ∈ [' ', '\t'])
    (parsed : parseParams template = .ok params)
    (written : unitSource handler path params options = .ok source) :
    ∃ arguments, List.Forall₂ IsArgument params.all arguments ∧
      ReadAs source (unitLexemes handler path params options arguments) :=
  readAs_of_isIdentifier proper imports blank
    (fun _ member => isIdentifier_of_parseParams parsed member) written

end TypedRoutes.Java

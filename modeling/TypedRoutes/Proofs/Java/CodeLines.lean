import TypedRoutes.Proofs.Java.Names

/-! What Java reads in a file, line by line: the package, the imports, and the code behind them. -/

namespace TypedRoutes.Java

/-- The lexemes of the line of a package or of an import. -/
def headerLexemes (keyword name : String) : List Lexeme :=
  .keyword keyword ::
    ([.symbol "."].intercalate ((partsOf '.' name).map fun part => [.ofWord part]) ++ [.symbol ";"])

/-- The lexemes of the class up to the constant for the path, line by line. -/
def classCode (handler : Handler) (path : String) (options : UnitOptions) : List (List Lexeme) :=
  [[.symbol "@", .identifier "Generated", .symbol "(", .identifier "value", .symbol "=",
      .string options.generator, .symbol ")"],
    [.keyword "final", .keyword "class", .identifier handler.generatedClass, .symbol "\x7b"],
    [.keyword "private", .identifier handler.generatedClass, .symbol "(", .symbol ")",
      .symbol "\x7b", .symbol "\x7d"],
    [.keyword "static", .keyword "final", .identifier "String", .identifier "PATH", .symbol "=",
      .string path, .symbol ";"]]

/-- The lexemes of the parse method before the first statement. -/
def openingCode (handler : Handler) : List (List Lexeme) :=
  [[.keyword "static", .identifier handler.recordName, .identifier "parse", .symbol "(",
      .identifier "RoutingContext", .identifier unitContext, .symbol ")", .symbol "\x7b"],
    [.identifier "RequestParser", .identifier unitAccessor, .symbol "=",
      .identifier "RequestParser", .symbol ".", .identifier "create", .symbol "(",
      .identifier unitContext, .symbol ")", .symbol ";"]]

/-- The lexemes of the line that returns the parameters. -/
def returnCode (handler : Handler) (params : ParamList) : List Lexeme :=
  let names : List (List Lexeme) := params.all.map fun param => [.identifier param.name]
  [.keyword "return", .keyword "new", .identifier handler.recordName] ++
    .symbol "(" :: ([.symbol ","].intercalate names ++ [.symbol ")", .symbol ";"])

/-- The lexemes of the line that declares the record. -/
def recordCode (handler : Handler) (params : ParamList) : List Lexeme :=
  let components : List (List Lexeme) := params.all.map fun param =>
    [.ofWord (typeNames param.type).field, .identifier param.name]
  [.identifier "record", .identifier handler.recordName] ++
    .symbol "(" :: ([.symbol ","].intercalate components ++
      [.symbol ")", .symbol "\x7b", .symbol "\x7d"])

/-- The lexemes of the code behind the imports, line by line. -/
def codeLines (handler : Handler) (path : String) (params : ParamList) (options : UnitOptions)
    (arguments : List (List Lexeme)) : List (List Lexeme) :=
  classCode handler path options ++
    if params.all = [] then [[.symbol "\x7d"]]
    else openingCode handler ++
      (List.zipWith (statementLexemes handler.codeNames) params.all arguments ++
        [returnCode handler params, [.symbol "\x7d"], recordCode handler params,
          [.symbol "\x7d"]])

/-! Each line is read from its pieces. -/

/-- A line of the package or of an import is read as its keyword, its name and a semicolon. -/
theorem lexemesOf_headerPieces {keyword : String} (name : String)
    (reserved : Lexeme.ofWord keyword = .keyword keyword) :
    lexemesOf (headerPieces keyword name) = headerLexemes keyword name := by
  -- The points between the parts of the name are lexemes of their own.
  have parts : lexemesOf (dotted name) =
      [.symbol "."].intercalate ((partsOf '.' name).map fun part => [.ofWord part]) := by
    rw [dotted, lexemesOf_intercalate, List.map_map]
    rfl
  rw [headerPieces, lexemesOf_append, lexemesOf_append, parts, headerLexemes, ← reserved]
  rfl

/-- The lines above the class are read as the package, if there is one, and the imports. -/
theorem lexemesOf_leadPieces (handler : Handler) (params : ParamList) (options : UnitOptions) :
    lexemesOf (leadPieces handler params options).flatten =
      (if handler.package = "" then [] else headerLexemes "package" handler.package) ++
        (importList options.runtimePackage params.all).flatMap (headerLexemes "import") := by
  have package := lexemesOf_headerPieces handler.package (by decide : Lexeme.ofWord "package" = _)
  have each (name : String) := lexemesOf_headerPieces name (by decide : Lexeme.ofWord "import" = _)
  have imports : lexemesOf ((importList options.runtimePackage params.all).map
      (headerPieces "import")).flatten =
        (importList options.runtimePackage params.all).flatMap (headerLexemes "import") := by
    rw [lexemesOf_flatten, List.map_map, List.flatMap_def]
    exact congrArg List.flatten (List.map_congr_left fun name _ => each name)
  rw [leadPieces, List.flatten_append, lexemesOf_append, imports]
  -- Without a package there is no line for one.
  by_cases bare : handler.package = ""
  · simp [bare, lexemesOf]
  · simp only [String.isEmpty_iff, bare, if_false, List.flatten_cons, List.flatten_nil,
      List.append_nil, package]

/-- A legal name is read as such. -/
theorem IsLegalName.ofWord {name : String} (legal : IsLegalName name) :
    Lexeme.ofWord name = .identifier name := by
  -- A legal name is none of the words that are read otherwise.
  have free := legal.free
  simp only [reservedNames, List.mem_cons, not_or] at free
  simp [Lexeme.ofWord, free]

/-- Legal names with commas between them are read as such. -/
theorem lexemesOf_listed_names {params : ParamList}
    (names : ∀ param ∈ params.all, IsLegalName param.name) :
    lexemesOf (listed (params.all.map fun param => [.word param.name])) =
      [.symbol ","].intercalate (params.all.map fun param => [.identifier param.name]) := by
  -- Each name is one word, and the commas stand between them.
  rw [listed, lexemesOf_intercalate, List.map_map]
  refine congrArg _ (List.map_congr_left fun param member => ?_)
  rw [← (names param member).ofWord]
  rfl

section

variable {handler : Handler}

/-- The lines of the class up to the path are read as they are laid out. -/
theorem lexemesOf_classPieces (proper : handler.Proper) (path : String) (options : UnitOptions) :
    lexemesOf (classPieces handler path options).flatten =
      (classCode handler path options).flatten := by
  -- An indent has no lexemes, and the names of the classes are read as names.
  simp only [classPieces, List.flatten_cons, List.flatten_nil, lexemesOf_append,
    lexemesOf_indentPieces]
  rw [classCode, ← proper.legal.1.ofWord]
  rfl

/-- So are the first lines of the parse method. -/
theorem lexemesOf_openingPieces (proper : handler.Proper) (options : UnitOptions) :
    lexemesOf (openingPieces handler options).flatten = (openingCode handler).flatten := by
  simp only [openingPieces, List.flatten_cons, List.flatten_nil, lexemesOf_append,
    lexemesOf_indentPieces]
  rw [openingCode, ← proper.legal.2.ofWord]
  rfl

/-- So are the lines behind the statements. -/
theorem lexemesOf_closingPieces (proper : handler.Proper) {params : ParamList}
    (names : ∀ param ∈ params.all, IsLegalName param.name) (options : UnitOptions) :
    lexemesOf (closingPieces handler params options).flatten =
      [returnCode handler params, [.symbol "\x7d"], recordCode handler params,
        [.symbol "\x7d"]].flatten := by
  -- The names are read as names where they are returned and where they are declared.
  have arguments := lexemesOf_listed_names names
  have components : lexemesOf (listed (params.all.map fun param =>
      spaced [(typeNames param.type).field] ++ [.word param.name])) =
        [.symbol ","].intercalate (params.all.map fun param =>
          [.ofWord (typeNames param.type).field, .identifier param.name]) := by
    rw [listed, lexemesOf_intercalate, List.map_map]
    refine congrArg _ (List.map_congr_left fun param member => ?_)
    rw [← (names param member).ofWord]
    rfl
  simp only [closingPieces, List.flatten_cons, List.flatten_nil, lexemesOf_append,
    lexemesOf_indentPieces, arguments, components]
  rw [returnCode, recordCode, ← proper.legal.2.ofWord]
  simp only [List.nil_append, List.cons_append, List.append_assoc]
  rfl

/-- A file is its package, its imports and the lines of its code. -/
theorem unitLexemes_eq (proper : handler.Proper) {path : String} {params : ParamList}
    (names : ∀ param ∈ params.all, IsLegalName param.name) (options : UnitOptions)
    (arguments : List (List Lexeme)) :
    unitLexemes handler path params options arguments =
      (if handler.package = "" then [] else headerLexemes "package" handler.package) ++
        (importList options.runtimePackage params.all).flatMap (headerLexemes "import") ++
        (codeLines handler path params options arguments).flatten := by
  -- The lines are taken group by group; the groups of a method are there with parameters only.
  rw [unitLexemes, lexemesOf_append, lexemesOf_leadPieces, lexemesOf_classPieces proper, codeLines,
    List.flatten_append, List.append_assoc _ (List.flatten _)]
  congr 2
  by_cases empty : params.all = []
  · rw [if_pos empty, if_pos empty]
    rfl
  · rw [if_neg empty, if_neg empty, lexemesOf_openingPieces proper,
      lexemesOf_closingPieces proper names, List.flatten_append, List.flatten_append,
      List.append_assoc]

end

end TypedRoutes.Java

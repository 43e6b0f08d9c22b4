import TypedRoutes.Proofs.Java.NamedClasses

/-! The imports of a file: they are sorted, no two have the same simple name, and they are those that
the statements and all other code behind them need. -/

namespace TypedRoutes.Java

/-- The lines of the imports of a file, and what they say about its parameters and statements. -/
structure ImportSection (handler : Handler) (params : ParamList) (options : UnitOptions)
    (code : Code) (source : String) (imports : List String) : Prop where
  /-- Each class is imported by a line of its own, between the package and an empty line. -/
  lines : ∃ rest, source = joinLines
    ((if handler.package = "" then [] else ["package " ++ handler.package ++ ";", ""]) ++
      (imports.map importLine ++ "" :: rest))
  /-- The names increase in the order of their bytes. -/
  names : imports.Pairwise (bytesOf · < bytesOf ·)
  /-- So do the lines, unless the package of the request parsers goes on from an imported class. -/
  increasing : (imports.map importLine).Pairwise (bytesOf · < bytesOf ·) ↔
    params.all = [] ∨ ∀ name ∈ imports, ¬ GoesOnFrom name options.runtimePackage
  /-- No two classes have the same simple name. -/
  distinct : (imports.map simpleName).Nodup
  /-- Without parameters there is one import. -/
  alone : params.all = [] → imports = ["javax.annotation.processing.Generated"]
  /-- With parameters there are three, the parsers of their types, and the class of timestamps if
  one of the types needs it. -/
  simpleNames : params.all ≠ [] → ∀ simple, simple ∈ imports.map simpleName ↔
    simple ∈ ["Generated", "RoutingContext", "RequestParser"] ∨
      (∃ param ∈ params.all, simple = (typeNames param.type).parser) ∨
      simple = "Instant" ∧ ∃ param ∈ params.all, param.type = .timestamp
  /-- The parsers are those that statements end with. -/
  parsers : ∀ simple, isIdentifier simple = true →
    ((∃ param ∈ params.all, simple = (typeNames param.type).parser) ↔
      ∃ statement ∈ code.statements, ∃ front, statement = front ++ ", " ++ simple ++ ".create());")
  /-- A parameter is a timestamp if a statement declares a variable of this class. -/
  instants : (∃ param ∈ params.all, param.type = .timestamp) ↔
    ∃ statement ∈ code.statements, ∃ rest, statement = "Instant " ++ rest

/-- Java reads a file as its package, some imports, and code that needs exactly these imports. -/
def ImportsSuffice (handler : Handler) (path : String) (params : ParamList) (options : UnitOptions)
    (source : String) (imports : List String) : Prop :=
  ∃ arguments, List.Forall₂ IsArgument params.all arguments ∧
    ReadAs source ((if handler.package = "" then [] else headerLexemes "package" handler.package) ++
      imports.flatMap (headerLexemes "import") ++
      (codeLines handler path params options arguments).flatten) ∧
    ∀ simple, simple ∈ imports.map simpleName ↔
      NeedsImport (codeLines handler path params options arguments).flatten simple

/-! Statements. -/

/-- Behind the last space of a text its end tells which name it is. -/
theorem eq_of_last_argument {front other first second : String} (named : isIdentifier first = true)
    (named' : isIdentifier second = true) (same : front ++ ", " ++ first ++ ".create());" =
      other ++ ", " ++ second ++ ".create());") : first = second := by
  -- Both texts are cut at their spaces, and the name is the last part of each.
  have free {word : String} (named : isIdentifier word = true) : ' ' ∉ word.toList :=
    not_mem_of_isName (isIdentifier_iff.mp named) (by decide)
  have parts (front : String) {word : String} (named : isIdentifier word = true) :
      partsOf ' ' (front ++ ", " ++ word) = partsOf ' ' (front ++ ",") ++ [word] := by
    rw [← partsOf_of_not_mem (free named)]
    exact partsOf_eq_append (by simp)
  have texts : front ++ ", " ++ first = other ++ ", " ++ second := by
    simpa using same
  have last := parts front named
  rw [texts, parts other named'] at last
  simpa using (List.append_inj' last rfl).2.symm

section

variable {names : CodeNames} {params : ParamList} {param : Param} {code : Code}
  {statement simple : String}

/-- A statement ends with the parser of its parameter as the last argument. -/
theorem exists_front_of_statementOf (written : statementOf names param = .ok statement) :
    ∃ front, statement = front ++ ", " ++ (typeNames param.type).parser ++ ".create());" := by
  obtain ⟨-, argument, given, rfl⟩ := exists_argument_of_statementOf written
  -- The comma stands behind the default, or behind the name if there is none.
  have ends : argument = "" ∨ ∃ literal, argument = literal ++ ", " := by
    unfold defaultArgument at given
    split at given
    · cases given
      exact Or.inl rfl
    · rename_i raw _
      cases read : literalOf param raw with
      | error fault =>
        rw [read] at given
        cases given
      | ok literal =>
        rw [read] at given
        cases given
        exact Or.inr ⟨literal, rfl⟩
  -- All of the statement up to the comma, where there is no default.
  let call := (typeNames param.type).boxed ++ " " ++ param.name ++ " = " ++ names.accessor ++ "." ++
    getter param.source ++ "(\"" ++ param.name ++ "\""
  rcases ends with rfl | ⟨literal, rfl⟩
  · exact ⟨call, by simp [call, String.append_assoc]⟩
  · exact ⟨call ++ ", " ++ literal, by simp [call, String.append_assoc]⟩

/-- The parsers of the types are those with which the statements end. -/
theorem exists_parser_iff (written : codeFor names params = .ok code)
    (named : isIdentifier simple = true) :
    (∃ param ∈ params.all, simple = (typeNames param.type).parser) ↔
      ∃ statement ∈ code.statements, ∃ front,
        statement = front ++ ", " ++ simple ++ ".create());" := by
  have each := forall₂_of_mapM (codeFor_eq_ok_iff.mp written).1
  -- Every parameter has a statement, and every statement a parameter.
  constructor
  · intro needed
    obtain ⟨param, member, rfl⟩ := needed
    obtain ⟨statement, inside, own⟩ := exists_of_forall₂ each member
    exact ⟨statement, inside, exists_front_of_statementOf own⟩
  · intro ends
    obtain ⟨statement, inside, front, rfl⟩ := ends
    obtain ⟨param, member, own⟩ := exists_of_forall₂ each.flip inside
    -- The statement also ends with the parser of its parameter.
    obtain ⟨other, shape⟩ := exists_front_of_statementOf own
    have parser := (isIdentifier_typeNames param.type).1.2
    exact ⟨param, member, eq_of_last_argument named parser shape⟩

/-- A statement declares a variable of the class of timestamps if its parameter is one. -/
theorem exists_instant_iff (written : codeFor names params = .ok code) :
    (∃ param ∈ params.all, param.type = .timestamp) ↔
      ∃ statement ∈ code.statements, ∃ rest, statement = "Instant " ++ rest := by
  -- The type of the variable is the first word of its statement.
  have each := forall₂_of_mapM (codeFor_eq_ok_iff.mp written).1
  constructor
  · intro needed
    obtain ⟨param, member, stamped⟩ := needed
    obtain ⟨statement, inside, own⟩ := exists_of_forall₂ each member
    obtain ⟨-, argument, -, shape⟩ := exists_argument_of_statementOf own
    rw [stamped] at shape
    exact ⟨statement, inside, _, by rw [shape]; simp [typeNames, String.append_assoc]; rfl⟩
  · intro starts
    obtain ⟨statement, inside, rest, rfl⟩ := starts
    obtain ⟨param, member, own⟩ := exists_of_forall₂ each.flip inside
    obtain ⟨-, argument, -, shape⟩ := exists_argument_of_statementOf own
    refine ⟨param, member, ?_⟩
    -- The word in front of the first space tells the type.
    have text := congrArg String.toList shape
    cases type : param.type <;> simp [type, typeNames] at text ⊢

end

/-- The imports of a file are sorted by their names, and so are their lines unless the package of the
request parsers is called like a class or goes on from one. No two have the same simple name. They
are fixed classes, the parsers that the statements end with, and the class of timestamps if a
statement declares one. Where the names of the handler are names, all other code needs these imports
and no others. -/
theorem unitSource_imports {handler : Handler} {path source : String} {tree : TemplateTree}
    {params : ParamList} {options : UnitOptions}
    (runtime : isDottedIdentifier options.runtimePackage = true)
    (resolved : tree.resolve = .ok params)
    (written : unitSource handler path params options = .ok source) :
    ∃ code imports, codeFor handler.codeNames params = .ok code ∧
      ImportSection handler params options code source imports ∧
      (handler.Proper → (∀ c ∈ options.indent.toList, c ∈ [' ', '\t']) →
        ImportsSuffice handler path params options source imports) := by
  obtain ⟨code, coded, rfl⟩ := unitSource_eq_ok_iff.mp written
  refine ⟨code, importList options.runtimePackage params.all, coded, ?_, ?_⟩
  · constructor
    case lines =>
      rw [unitLines_eq path coded, leadLines, List.append_assoc]
      simp only [String.isEmpty_iff, classLines, List.cons_append]
      exact ⟨_, rfl⟩
    case names =>
      exact (pairwise_importList _ _).imp fun less => bytesOf_lt_iff.mpr less
    case increasing => exact pairwise_importLines_iff
    case distinct => exact nodup_simpleNames _ _
    case alone =>
      intro empty
      rw [empty, importList_nil]
    case simpleNames =>
      intro filled simple
      rw [mem_map_simpleName_iff filled]
      refine or_congr_right ?_
      have each (param : Param) : simple ∈ simpleNamesFor param ↔
          simple = (typeNames param.type).parser ∨
            simple = "Instant" ∧ param.type = .timestamp := by
        by_cases stamped : param.type = .timestamp <;> simp [simpleNamesFor, stamped]
      simp only [each, and_or_left, exists_or, and_left_comm, exists_and_left]
    case parsers => exact fun simple named => exists_parser_iff coded named
    case instants => exact exists_instant_iff coded
  -- The whole file is read, and the classes that its code names are compared with the list.
  · intro proper blank
    have named : ∀ param ∈ params.all, isIdentifier param.name = true :=
      fun _ member => isIdentifier_of_resolve resolved member
    have legal : ∀ param ∈ params.all, IsLegalName param.name :=
      fun param member => isLegalName_of_isIdentifier coded member (named param member)
    have free : ∀ param ∈ params.all, isCalledClass param.name = false := by
      intro param member
      have open_name := reserves_of_codeFor coded member
      simp only [CodeNames.reserves, Bool.or_eq_false_iff] at open_name
      exact open_name.1.1.2
    obtain ⟨arguments, given, read⟩ := readAs_of_isIdentifier proper
      (fun name member => isDottedIdentifier_of_mem_importList runtime member) blank named written
    rw [unitLexemes_eq proper legal] at read
    exact ⟨arguments, given, read, fun simple =>
      (needsImport_iff given free options.runtimePackage).symm⟩

/-- A package of request parsers that is called like an imported class. -/
def nestedOptions : UnitOptions :=
  ⟨"io.vertx.ext.web.RoutingContext", "\t", "route-template"⟩

/-- The lines of its imports. A semicolon comes behind a point, so the first line comes behind the
second in the order of bytes. -/
def nestedLines : List String :=
  ["import io.vertx.ext.web.RoutingContext;",
    "import io.vertx.ext.web.RoutingContext.IntegerParser;",
    "import io.vertx.ext.web.RoutingContext.RequestParser;",
    "import io.vertx.ext.web.RoutingContext.StringParser;",
    "import javax.annotation.processing.Generated;"]

/-- With such a package the names increase but the lines do not. -/
theorem importLines_not_increasing :
    isDottedIdentifier nestedOptions.runtimePackage = true ∧
    (∃ tree : TemplateTree, tree.resolve = .ok (quotingParams "07")) ∧
    (∃ rest, unitSource usersHandler "/" (quotingParams "07") nestedOptions =
      .ok (joinLines ("package my.test;" :: "" :: (nestedLines ++ "" :: rest)))) ∧
    ¬ nestedLines.Pairwise (bytesOf · < bytesOf ·) := by
  -- The lines in front of the class do not depend on the code, so eight of them are looked at.
  have coded : codeFor usersHandler.codeNames (quotingParams "07") = .ok usersCode := by rfl
  let lines := unitLines usersHandler "/" (quotingParams "07") nestedOptions usersCode
  have above : lines.take 8 = "package my.test;" :: "" :: (nestedLines ++ [""]) := by decide +kernel
  refine ⟨by decide +kernel, exists_quoting_tree,
    ⟨lines.drop 8, unitSource_eq_ok_iff.mpr ⟨_, coded, ?_⟩⟩, ?_⟩
  · rw [← List.take_append_drop 8 (unitLines _ _ _ _ _)]
    show _ = joinLines (lines.take 8 ++ _)
    rw [above]
    rfl
  · intro increasing
    have first := (List.pairwise_cons.mp increasing).1 _ (List.mem_cons_self ..)
    rw [bytesOf_lt_iff] at first
    exact absurd first (by decide +kernel)

/-- A file with two imports of parsers, whose path and generator have line ends in them. -/
theorem unitSource_imports_quoting :
    isDottedIdentifier quotingOptions.runtimePackage = true ∧
    (∃ tree : TemplateTree, tree.resolve = .ok (quotingParams "07")) ∧
    ∃ source, unitSource usersHandler "/\n\"" (quotingParams "07") quotingOptions = .ok source ∧
      ∃ code imports,
        ImportSection usersHandler (quotingParams "07") quotingOptions code source imports ∧
        ImportsSuffice usersHandler "/\n\"" (quotingParams "07") quotingOptions source imports := by
  -- The names of the handler are names, so the last part is given as well.
  have runtime : isDottedIdentifier quotingOptions.runtimePackage = true := by decide
  have coded : codeFor usersHandler.codeNames (quotingParams "07") = .ok usersCode := by rfl
  have written : unitSource usersHandler "/\n\"" (quotingParams "07") quotingOptions =
      .ok (joinLines (unitLines usersHandler "/\n\"" (quotingParams "07") quotingOptions
        usersCode)) := unitSource_eq_ok_iff.mpr ⟨usersCode, coded, rfl⟩
  have proper : usersHandler.Proper := ⟨Or.inr (by decide), by decide, by decide⟩
  have blank : ∀ c ∈ quotingOptions.indent.toList, c ∈ [' ', '\t'] := by simp [quotingOptions]
  obtain ⟨tree, resolved⟩ := exists_quoting_tree
  obtain ⟨code, imports, -, imported, complete⟩ := unitSource_imports runtime resolved written
  exact ⟨runtime, ⟨tree, resolved⟩, _, written, code, imports, imported, complete proper blank⟩

end TypedRoutes.Java

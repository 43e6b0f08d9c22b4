import TypedRoutes.Proofs.Java.Imports
import TypedRoutes.Proofs.Java.Statement
import TypedRoutes.Proofs.Text.Lines

/-! The lines of a generated file: no text that goes into it adds, joins or fakes a line, and what
went into it is read back from them. -/

namespace TypedRoutes.Java

/-- A handler whose names are names of Java. -/
structure Handler.Proper (handler : Handler) : Prop where
  /-- The package has a dotted name or none. -/
  package : handler.package = "" ∨ isDottedIdentifier handler.package = true
  /-- The class has a simple name. -/
  className : isIdentifier handler.className = true
  /-- So has the method. -/
  method : isIdentifier handler.method = true

/-- Options that can be pasted into a line. The generator is quoted, so it may be any text. -/
structure UnitOptions.Proper (options : UnitOptions) : Prop where
  /-- The request parsers have a package. -/
  runtimePackage : isDottedIdentifier options.runtimePackage = true
  /-- The only control characters of the indent are tabs. -/
  indent : ∀ c ∈ options.indent.toList, isControl c = true → c = '\t'

/-- A string literal of Java with a value. -/
def IsStringLiteral (text value : String) : Prop :=
  ∃ body, translate? 0 text.toList = some ('"' :: body) ∧ stringBody? body = some (value.toList, [])

/-- The number of lines of a file with or without a package, given the numbers of its imports and
its parameters. -/
def lineCount (packaged : Bool) (imports params : Nat) : Nat :=
  (if packaged then 2 else 0) + imports + if params = 0 then 9 else params + 17

/-- The number of lines before the class and its annotation. -/
def linesAbove (handler : Handler) (params : ParamList) (options : UnitOptions) : Nat :=
  (if handler.package.isEmpty then 0 else 2) + (importList options.runtimePackage params.all).length

/-- The lines of a file with the imports that its parameters need. -/
def unitLines (handler : Handler) (path : String) (params : ParamList) (options : UnitOptions)
    (code : Code) : List String :=
  fileLines handler path params options (importList options.runtimePackage params.all) code

/-- The line that returns the parameters. -/
def returnLine (handler : Handler) (params : ParamList) (options : UnitOptions) : String :=
  options.indent ++ options.indent ++ "return new " ++ handler.recordName ++ "(" ++
    ", ".intercalate (params.all.map Param.name) ++ ");"

/-- The line that declares the record. -/
def recordLine (handler : Handler) (params : ParamList) (options : UnitOptions) : String :=
  options.indent ++ ("record " ++ handler.recordName ++ "(" ++ ", ".intercalate (params.all.map
    fun param => (typeNames param.type).field ++ " " ++ param.name) ++ ") \x7b\x7d")

/-- The lines of a file and what stands in them. -/
structure LaidOut (handler : Handler) (path : String) (params : ParamList) (options : UnitOptions)
    (source : String) : Prop where
  /-- The last line has its end. -/
  ended : ∃ front, source.toList = front ++ ['\n']
  /-- Lines end with line feeds only. -/
  carriageReturn : '\r' ∉ source.toList
  /-- The texts in the lines do not change their number. -/
  count : (linesOf source).length = lineCount (!handler.package.isEmpty)
    (importList options.runtimePackage params.all).length params.all.length
  /-- The path is the value of a constant. -/
  path : ∃ literal, IsStringLiteral literal path ∧
    (linesOf source)[linesAbove handler params options + 6]? =
      some (options.indent ++ "static final String PATH = " ++ literal ++ ";")
  /-- There is a line for each statement, in order, and names and components follow in the same
  order. -/
  parameters : params.all ≠ [] → ∃ code before, codeFor handler.codeNames params = .ok code ∧
    List.Forall₂ (Carries handler.codeNames) params.all code.statements ∧
    before.length = linesAbove handler params options + 11 ∧
    linesOf source = before ++ code.statements.map (options.indent ++ options.indent ++ ·) ++
      ["", returnLine handler params options, options.indent ++ "\x7d", "",
        recordLine handler params options, "\x7d"]

/-! Each line is one line. -/

/-- A proper indent stays on its line. -/
theorem oneLine_indent {options : UnitOptions} (proper : options.Proper) :
    OneLine options.indent := by
  apply OneLine.of_forall
  -- What ends a line is a control character, and no tab.
  intro c member ending
  have tab := proper.indent c member
  simp only [List.mem_cons, List.not_mem_nil, or_false] at ending
  rcases ending with rfl | rfl <;> exact absurd (tab rfl) (by decide)

/-- So does a quoted text, whatever is in it. -/
theorem oneLine_quote (text : String) : OneLine (quote text) :=
  ⟨(expresses_quote text).lineFeed, (expresses_quote text).carriageReturn⟩

/-- So do the spellings of the types. -/
theorem oneLine_typeNames (type : ParamType) :
    OneLine (typeNames type).field ∧ OneLine (typeNames type).parser := by
  -- There are seven types.
  cases type <;> decide

/-- The names of generated types are made of the names of the handler. -/
theorem Handler.Proper.oneLine {handler : Handler} (proper : handler.Proper) :
    OneLine handler.generatedClass ∧ OneLine handler.recordName := by
  -- Class and method are identifiers, and an underscore and a fixed ending are put to them.
  have method := OneLine.identifier (isIdentifier_upperFirst proper.method)
  have base : OneLine handler.baseName :=
    ((OneLine.identifier proper.className).append (by decide)).append method
  exact ⟨base.append (by decide), base.append (by decide)⟩

/-- So does the name of every class that is imported. -/
theorem oneLine_importList {runtime : String} (proper : isDottedIdentifier runtime = true)
    (params : List Param) : ∀ name ∈ importList runtime params, OneLine name := by
  -- A class is one of the fixed ones, or a fixed name behind the package.
  have fixed : ∀ name ∈ fixedClasses, OneLine name := by decide
  have simple : ∀ name ∈ runtimeClasses, OneLine name := by decide
  intro name member
  rcases cases_of_mem_importList member with known | ⟨-, word, listed, rfl⟩
  · exact fixed name known
  · exact ((OneLine.dotted proper).append (by decide)).append (simple word listed)

/-- Every line of the parse method is one line. -/
theorem oneLine_parseMethod {indent record : String} {params : ParamList} {code : Code}
    (indented : OneLine indent) (recorded : OneLine record)
    (names : ∀ param ∈ params.all, OneLine param.name)
    (statements : ∀ statement ∈ code.statements, OneLine statement) :
    ∀ line ∈ parseMethod indent record params code, OneLine line := by
  -- Every line is put together from texts that are on one line each.
  have twice := indented.append indented
  have list : OneLine params.nameList :=
    .intercalate (by decide) (List.forall_mem_map.mpr names)
  have none : ∀ line ∈ ([] : List String), OneLine line := List.forall_mem_nil _
  simp only [parseMethod, List.forall_mem_append, List.forall_mem_cons, List.forall_mem_map]
  refine ⟨⟨⟨?_, ?_, by decide, none⟩, ?_⟩, by decide, ?_, indented.append (by decide), none⟩
  · exact ((((indented.append (by decide)).append recorded).append (by decide)).append
      (by decide)).append (by decide)
  · exact ((((twice.append (by decide)).append (by decide)).append (by decide)).append
      (by decide)).append (by decide)
  · exact fun statement member => twice.append (statements statement member)
  · exact ((((twice.append (by decide)).append recorded).append (by decide)).append list).append
      (by decide)

/-- The record has its components in one line. -/
theorem oneLine_recordDeclaration {name : String} {params : ParamList} (recorded : OneLine name)
    (names : ∀ param ∈ params.all, OneLine param.name) :
    OneLine (recordDeclaration name params) := by
  -- Each component is a type and a name, and commas stand between them.
  have components : OneLine (", ".intercalate (params.all.map component)) := by
    apply OneLine.intercalate (by decide)
    refine List.forall_mem_map.mpr fun param member => ?_
    exact ((oneLine_typeNames param.type).1.append (by decide)).append (names param member)
  exact (((OneLine.append (by decide) recorded).append (by decide)).append components).append
    (by decide)

/-- Every line of a file is one line. -/
theorem oneLine_unitLines {handler : Handler} {path : String} {params : ParamList}
    {options : UnitOptions} {code : Code} (proper : handler.Proper) (pasted : options.Proper)
    (names : ∀ param ∈ params.all, isIdentifier param.name = true)
    (written : codeFor handler.codeNames params = .ok code)
    (statements : ∀ statement ∈ code.statements, OneLine statement) :
    ∀ line ∈ unitLines handler path params options code, OneLine line := by
  -- The lines are those of the package, the imports, the class and the method, group by group.
  obtain ⟨generated, recorded⟩ := proper.oneLine
  have indented := oneLine_indent pasted
  have named : ∀ param ∈ params.all, OneLine param.name :=
    fun param member => .identifier (names param member)
  have none : ∀ line ∈ ([] : List String), OneLine line := List.forall_mem_nil _
  have package : ∀ line ∈ if handler.package.isEmpty then [] else
      ["package " ++ handler.package ++ ";", ""], OneLine line := by
    split
    · exact none
    · rename_i filled
      have joined := proper.package.resolve_left fun same => filled (by simp [same])
      have dotted := OneLine.dotted joined
      simpa only [List.forall_mem_cons] using
        ⟨(OneLine.append (by decide) dotted).append (by decide), by decide, none⟩
  have method : ∀ line ∈ if params.isEmpty then [] else
      parseMethod options.indent handler.recordName params code ++
        ["", options.indent ++ code.recordDeclaration], OneLine line := by
    split
    · exact none
    -- The statements are those that the code gives, and so is the record.
    · have record : OneLine code.recordDeclaration := by
        rw [(codeFor_eq_ok_iff.mp written).2]
        exact oneLine_recordDeclaration recorded named
      simp only [List.forall_mem_append, List.forall_mem_cons]
      exact ⟨oneLine_parseMethod indented recorded named statements, by decide,
        indented.append record, none⟩
  simp only [unitLines, fileLines, List.forall_mem_append, List.forall_mem_map,
    List.forall_mem_cons]
  refine ⟨⟨⟨⟨package, ?_⟩, by decide, ?_, ?_, by decide, ?_, by decide, ?_, by decide, none⟩,
    method⟩, by decide, none⟩
  · intro name member
    have imported := oneLine_importList pasted.runtimePackage _ name member
    exact (OneLine.append (by decide) imported).append (by decide)
  -- The generator and the path are quoted, and quoting leaves no line end.
  · exact (OneLine.append (by decide) (oneLine_quote _)).append (by decide)
  · exact (OneLine.append (by decide) generated).append (by decide)
  · exact ((indented.append (by decide)).append generated).append (by decide)
  · exact ((indented.append (by decide)).append (oneLine_quote _)).append (by decide)

/-! What is read back. -/

/-- The lines of the package and the imports. -/
def leadLines (handler : Handler) (params : ParamList) (options : UnitOptions) : List String :=
  (if handler.package.isEmpty then [] else ["package " ++ handler.package ++ ";", ""]) ++
    (importList options.runtimePackage params.all).map fun name => "import " ++ name ++ ";"

/-- As many lines stand above the class as are counted for it. -/
theorem length_leadLines (handler : Handler) (params : ParamList) (options : UnitOptions) :
    (leadLines handler params options).length = linesAbove handler params options := by
  -- Two lines for the package, if there is one, and one for each import.
  unfold leadLines linesAbove
  split
  · simp
  · simp
    omega

/-- The lines up to the constant for the path. -/
def classLines (handler : Handler) (path : String) (options : UnitOptions) : List String :=
  ["",
    "@Generated(value = " ++ quote options.generator ++ ")",
    "final class " ++ handler.generatedClass ++ " \x7b",
    "",
    options.indent ++ "private " ++ handler.generatedClass ++ "() \x7b\x7d",
    "",
    options.indent ++ "static final String PATH = " ++ quote path ++ ";",
    ""]

/-- The lines before the first statement. -/
def openingLines (handler : Handler) (options : UnitOptions) : List String :=
  [options.indent ++ "static " ++ handler.recordName ++ " parse(RoutingContext " ++ unitContext ++
      ") \x7b",
    options.indent ++ options.indent ++ "RequestParser " ++ unitAccessor ++
      " = RequestParser.create(" ++ unitContext ++ ");",
    ""]

/-- The lines behind the last statement. -/
def closingLines (handler : Handler) (params : ParamList) (options : UnitOptions) : List String :=
  ["", returnLine handler params options, options.indent ++ "\x7d", "",
    recordLine handler params options, "\x7d"]

/-- The lines of a file in groups. -/
theorem unitLines_eq {handler : Handler} {params : ParamList} {options : UnitOptions} {code : Code}
    (path : String) (written : codeFor handler.codeNames params = .ok code) :
    unitLines handler path params options code =
      leadLines handler params options ++ (classLines handler path options ++
        if params.all = [] then ["\x7d"] else openingLines handler options ++
          (code.statements.map (options.indent ++ options.indent ++ ·) ++
            closingLines handler params options)) := by
  -- The code gives the record, and the other lines only have to be grouped.
  have record : options.indent ++ code.recordDeclaration = recordLine handler params options := by
    rw [(codeFor_eq_ok_iff.mp written).2]
    rfl
  unfold unitLines fileLines
  by_cases empty : params.all = []
  · simp [ParamList.isEmpty, empty, leadLines, classLines]
  · have filled : params.isEmpty = false := by simpa [ParamList.isEmpty] using empty
    simp only [filled, empty, record, parseMethod, leadLines, classLines, openingLines,
      closingLines, Bool.false_eq_true, if_false, List.append_assoc, List.cons_append,
      List.nil_append]
    rfl

/-- A file is written where the code is, since its imports are always found. -/
theorem unitSource_eq_ok_iff {handler : Handler} {path source : String} {params : ParamList}
    {options : UnitOptions} :
    unitSource handler path params options = .ok source ↔
      ∃ code, codeFor handler.codeNames params = .ok code ∧
        source = joinLines (unitLines handler path params options code) := by
  simp only [unitSource, collectImports_eq, unitLines, bind_eq_ok_iff, pure, Except.pure,
    Except.ok.injEq, exists_eq_left', eq_comm (a := source)]

/-- A quoted text is a literal of its value. -/
theorem isStringLiteral_quote (text : String) : IsStringLiteral (quote text) text :=
  ⟨_, (translates_quote text).translate?_eq, stringBody?_flatMap text.toList []⟩

/-- A literal has one value. -/
theorem IsStringLiteral.unique {text first second : String} (literal : IsStringLiteral text first)
    (again : IsStringLiteral text second) : first = second := by
  -- One text has one translation, and that has one value.
  obtain ⟨body, translated, read⟩ := literal
  obtain ⟨other, same, reread⟩ := again
  rw [translated, Option.some.injEq, List.cons.injEq] at same
  rw [← same.2, read, Option.some.injEq, Prod.mk.injEq] at reread
  exact String.toList_inj.mp reread.1

/-- Each statement of a file carries its parameter. -/
theorem carries_of_unit {handler : Handler} {template : String} {params : ParamList} {code : Code}
    (parsed : parseParams template = .ok params)
    (written : codeFor handler.codeNames params = .ok code) :
    List.Forall₂ (Carries handler.codeNames) params.all code.statements :=
  carries_of_codeFor (show isIdentifier unitAccessor = true by decide) parsed written

/-- Every line of a file for a template is one line, whatever its defaults are. -/
theorem oneLine_of_mem_unitLines {handler : Handler} {path template line : String}
    {params : ParamList} {options : UnitOptions} {code : Code} (proper : handler.Proper)
    (pasted : options.Proper) (parsed : parseParams template = .ok params)
    (written : codeFor handler.codeNames params = .ok code)
    (member : line ∈ unitLines handler path params options code) : OneLine line := by
  -- The names are identifiers since the template was parsed, and the statements are single lines.
  have names : ∀ param ∈ params.all, isIdentifier param.name = true :=
    fun _ member => isIdentifier_of_parseParams parsed member
  apply oneLine_unitLines proper pasted names written _ line member
  intro statement inside
  obtain ⟨param, -, carried⟩ := exists_of_forall₂ (carries_of_unit parsed written).flip inside
  exact ⟨carried.lineFeed, carried.carriageReturn⟩

/-- The lines of a file are read back. -/
theorem linesOf_unitLines {handler : Handler} {path template : String} {params : ParamList}
    {options : UnitOptions} {code : Code} (proper : handler.Proper) (pasted : options.Proper)
    (parsed : parseParams template = .ok params)
    (written : codeFor handler.codeNames params = .ok code) :
    linesOf (joinLines (unitLines handler path params options code)) =
      unitLines handler path params options code :=
  linesOf_joinLines fun _ member => oneLine_of_mem_unitLines proper pasted parsed written member

/-- A file is laid out in lines. -/
theorem laidOut_of_unitSource {handler : Handler} {path template source : String}
    {params : ParamList} {options : UnitOptions} (proper : handler.Proper)
    (pasted : options.Proper) (parsed : parseParams template = .ok params)
    (written : unitSource handler path params options = .ok source) :
    LaidOut handler path params options source := by
  -- The text is read back as its lines, and these are known group by group.
  obtain ⟨code, coded, rfl⟩ := unitSource_eq_ok_iff.mp written
  have carries := carries_of_unit parsed coded
  have each : ∀ line ∈ unitLines handler path params options code, OneLine line :=
    fun line member => oneLine_of_mem_unitLines proper pasted parsed coded member
  have lines : linesOf (joinLines (unitLines handler path params options code)) = _ :=
    linesOf_unitLines proper pasted parsed coded
  have above := length_leadLines handler params options
  refine ⟨joinLines_concat _ "\x7d", carriageReturn_joinLines each, ?_, ?_, ?_⟩
  -- There is a statement for each parameter, and the other lines are counted.
  · have count := carries.length_eq
    rw [lines, unitLines_eq path coded, lineCount, List.length_append, above, linesAbove]
    by_cases empty : params.all = []
    · simp [empty, classLines]
    · simp [empty, classLines, openingLines, closingLines, ← count]
  -- The constant is the seventh line of the class.
  · refine ⟨_, isStringLiteral_quote path, ?_⟩
    rw [lines, unitLines_eq path coded, List.getElem?_append_right (by omega)]
    simp [above, classLines]
  -- The statements stand between the opening and the closing lines.
  · intro filled
    refine ⟨code, leadLines handler params options ++ (classLines handler path options ++
      openingLines handler options), coded, carries, ?_, ?_⟩
    · simp [above, classLines, openingLines]
    · rw [lines, unitLines_eq path coded, if_neg filled]
      simp [closingLines]

/-! Files with the same text. -/

/-- Imports do not start with the line of a package. -/
theorem imports_ne_package {names lines others : List String} {package : String}
    (same : (names.map fun name => "import " ++ name ++ ";") ++ "" :: lines =
      ("package " ++ package ++ ";") :: others) : False := by
  -- The first line is empty or starts with another word.
  cases names with
  | nil =>
    have first := congrArg String.toList (List.cons.inj same).1
    simp at first
  | cons name names =>
    have first := congrArg String.toList (List.cons.inj same).1
    simp at first

/-- The imports end at the first empty line behind the package. -/
theorem leadLines_inj {handler other : Handler} {params others : ParamList} {options : UnitOptions}
    {lines tail : List String}
    (same : leadLines handler params options ++ "" :: lines =
      leadLines other others options ++ "" :: tail) :
    handler.package = other.package ∧ lines = tail := by
  -- No import is an empty line, so the first empty line is the one behind the imports.
  have filled (names : List String) :
      ∀ line ∈ names.map fun name => "import " ++ name ++ ";", ¬ line = "" := by
    refine List.forall_mem_map.mpr fun name _ empty => ?_
    have text := congrArg String.toList empty
    simp at text
  have rest {names more : List String}
      (equal : (names.map fun name => "import " ++ name ++ ";") ++ "" :: lines =
        (more.map fun name => "import " ++ name ++ ";") ++ "" :: tail) : lines = tail := by
    have both := append_inj_of_stop (filled names) (filled more) (by simp) (by simp) equal
    exact (List.cons.inj both.2).2
  simp only [leadLines, List.append_assoc] at same
  -- One of the files may have a package where the other has none.
  by_cases bare : handler.package = "" <;> by_cases plain : other.package = "" <;>
    simp only [String.isEmpty_iff, bare, plain, if_true, if_false, List.nil_append,
      List.cons_append, List.cons.injEq, true_and] at same
  · exact ⟨bare.trans plain.symm, rest same⟩
  · exact (imports_ne_package same).elim
  · exact (imports_ne_package same.symm).elim
  · exact ⟨by simpa using same.1, rest same.2⟩

/-- The statements are told from the lines around them. -/
theorem statements_of_lines {indent : String} {opening opening' closing closing' : List String}
    {statements others : List String} (begun : opening.length = opening'.length)
    (ended : closing.length = closing'.length)
    (same : opening ++ (statements.map (indent ++ indent ++ ·) ++ closing) =
      opening' ++ (others.map (indent ++ indent ++ ·) ++ closing')) : statements = others := by
  -- As many lines stand before them, and as many behind them.
  have behind := (List.append_inj same begun).2
  have lines := (List.append_inj' behind ended).1
  have injective : Function.Injective (indent ++ indent ++ ·) := fun first second equal => by
    simpa using equal
  exact List.map_injective_iff.mpr injective lines

/-- Parameters that are alike have the same components. -/
theorem components_of_alike {params others : List Param}
    (alike : List.Forall₂ Alike params others) :
    params.map component = others.map component := by
  -- A component is made of the type and the name, which alike parameters share.
  have each := alike.imp fun param other (same : Alike param other) =>
    (show component param = component other by simp [component, same.name, same.type])
  rw [← List.forall₂_eq_eq_eq, List.forall₂_map_left_iff, List.forall₂_map_right_iff]
  exact each

/-- Files with the same lines have the same package, class, path and statements. -/
theorem unitLines_inj {handler other : Handler} {path otherPath : String}
    {params others : ParamList} {options : UnitOptions} {code otherCode : Code}
    (written : codeFor handler.codeNames params = .ok code)
    (rewritten : codeFor other.codeNames others = .ok otherCode)
    (same : unitLines handler path params options code =
      unitLines other otherPath others options otherCode) :
    handler.package = other.package ∧ handler.generatedClass = other.generatedClass ∧
      path = otherPath ∧ code.statements = otherCode.statements := by
  -- The package comes first, then the names in the lines of the class, and the statements last.
  rw [unitLines_eq path written, unitLines_eq otherPath rewritten] at same
  simp only [classLines, List.cons_append, List.nil_append] at same
  obtain ⟨package, lines⟩ := leadLines_inj same
  simp only [List.cons.injEq, true_and] at lines
  obtain ⟨named, -, constant, tail⟩ := lines
  refine ⟨package, by simpa using named, ?_, ?_⟩
  · have quoted : quote path = quote otherPath := by simpa using constant
    exact (isStringLiteral_quote path).unique (quoted ▸ isStringLiteral_quote otherPath)
  -- The statements of no parameters are none, and others have lines around them.
  · have count := (forall₂_of_mapM (codeFor_eq_ok_iff.mp written).1).length_eq
    have total := (forall₂_of_mapM (codeFor_eq_ok_iff.mp rewritten).1).length_eq
    by_cases none : params.all = [] <;> by_cases bare : others.all = [] <;>
      simp only [none, bare, if_true, if_false] at tail
    · rw [none, List.length_nil] at count
      rw [bare, List.length_nil] at total
      rw [List.eq_nil_of_length_eq_zero count.symm, List.eq_nil_of_length_eq_zero total.symm]
    · have lengths := congrArg List.length tail
      simp [openingLines] at lengths
    · have lengths := congrArg List.length tail
      simp [openingLines] at lengths
    · exact statements_of_lines (by simp [openingLines]) (by simp [closingLines]) tail

/-- Every file has fixed lines, which no text that goes into it can change, and they give back what
went into them: files with the same text are those of one package, class and path, with the same
code for parameters that are alike. -/
theorem unitSource_laidOut {handler : Handler} {path template source : String}
    {params : ParamList} {options : UnitOptions} (proper : handler.Proper)
    (pasted : options.Proper) (parsed : parseParams template = .ok params)
    (written : unitSource handler path params options = .ok source) :
    LaidOut handler path params options source ∧
    ∀ other otherPath otherTemplate others, other.Proper →
      parseParams otherTemplate = .ok others →
      unitSource other otherPath others options = .ok source →
      handler.package = other.package ∧ handler.generatedClass = other.generatedClass ∧
      path = otherPath ∧ List.Forall₂ Alike params.all others.all ∧
      codeFor handler.codeNames params = codeFor other.codeNames others := by
  refine ⟨laidOut_of_unitSource proper pasted parsed written, ?_⟩
  intro other otherPath otherTemplate others named reparsed rewritten
  obtain ⟨code, coded, rfl⟩ := unitSource_eq_ok_iff.mp written
  obtain ⟨otherCode, recoded, same⟩ := unitSource_eq_ok_iff.mp rewritten
  -- The same text has the same lines, since both are read back.
  have lines := congrArg linesOf same
  rw [linesOf_unitLines proper pasted parsed coded,
    linesOf_unitLines named pasted reparsed recoded] at lines
  obtain ⟨package, generated, constant, statements⟩ := unitLines_inj coded recoded lines
  -- The class and the record have the same name but for their ends.
  have base : handler.baseName = other.baseName := by
    simpa [Handler.generatedClass] using generated
  have names : handler.codeNames = other.codeNames := by
    simp [Handler.codeNames, Handler.recordName, base]
  rw [← names] at recoded
  have alike := alike_of_carries (carries_of_unit parsed coded)
    (statements ▸ carries_of_unit reparsed recoded)
  refine ⟨package, generated, constant, alike, ?_⟩
  have record : code.recordDeclaration = otherCode.recordDeclaration := by
    rw [(codeFor_eq_ok_iff.mp coded).2, (codeFor_eq_ok_iff.mp recoded).2, recordDeclaration,
      recordDeclaration, components_of_alike alike]
  -- The code is a record and its statements, and both are the same.
  have whole : code = otherCode := by
    cases code
    cases otherCode
    cases record
    cases statements
    rfl
  rw [← names, coded, recoded, whole]

/-- A handler for a template with two parameters. -/
def usersHandler : Handler :=
  ⟨"my.test", "Users", "getUser"⟩

/-- A generator that would end its line, and the literal that it stands in. -/
def quotingOptions : UnitOptions :=
  ⟨"routetemplate.web", "\t", "\r\n\""⟩

/-- The code of the handler, with a number in either spelling. -/
def usersCode : Code :=
  ⟨"record Users_GetUser_Params(int id, String q) \x7b\x7d", quotingCode.statements⟩

/-- A path and a generator with line ends and quotes, and a default in two spellings. -/
theorem unitSource_laidOut_quoting :
    usersHandler.Proper ∧ quotingOptions.Proper ∧
      parseParams "/a/\x7bint:id=07\x7d?q=\x7bstring=\"\\u0022\x7d" = .ok (quotingParams "07") ∧
      parseParams "/\x7bint:id=+7\x7d?q=\x7bstring=\"\\u0022\x7d" = .ok (quotingParams "+7") ∧
      ∃ source, unitSource usersHandler "/\n\"" (quotingParams "07") quotingOptions = .ok source ∧
        unitSource usersHandler "/\n\"" (quotingParams "+7") quotingOptions = .ok source ∧
        LaidOut usersHandler "/\n\"" (quotingParams "07") quotingOptions source ∧
        List.Forall₂ Alike (quotingParams "07").all (quotingParams "+7").all := by
  have proper : usersHandler.Proper := ⟨Or.inr (by decide), by decide, by decide⟩
  have tab : ∀ c ∈ quotingOptions.indent.toList, isControl c = true → c = '\t' := by
    simp [quotingOptions]
  have pasted : quotingOptions.Proper := ⟨by decide, tab⟩
  have parsed : parseParams "/a/\x7bint:id=07\x7d?q=\x7bstring=\"\\u0022\x7d" =
      .ok (quotingParams "07") := by rfl
  have reparsed : parseParams "/\x7bint:id=+7\x7d?q=\x7bstring=\"\\u0022\x7d" =
      .ok (quotingParams "+7") := by rfl
  have coded : codeFor usersHandler.codeNames (quotingParams "07") = .ok usersCode := by rfl
  have recoded : codeFor usersHandler.codeNames (quotingParams "+7") = .ok usersCode := by rfl
  let lines := unitLines usersHandler "/\n\"" (quotingParams "07") quotingOptions usersCode
  have written : unitSource usersHandler "/\n\"" (quotingParams "07") quotingOptions =
      .ok (joinLines lines) := unitSource_eq_ok_iff.mpr ⟨_, coded, rfl⟩
  have rewritten : unitSource usersHandler "/\n\"" (quotingParams "+7") quotingOptions =
      .ok (joinLines lines) := unitSource_eq_ok_iff.mpr ⟨_, recoded, rfl⟩
  have both := unitSource_laidOut proper pasted parsed written
  have alike := both.2 usersHandler _ _ (quotingParams "+7") proper reparsed rewritten
  exact ⟨proper, pasted, parsed, reparsed, _, written, rewritten, both.1, alike.2.2.2.1⟩

end TypedRoutes.Java

import TypedRoutes.Proofs.Java.CodeLines
import TypedRoutes.Proofs.Java.ImportLines

/-! The classes that the code of a file names are those that the file imports. -/

namespace TypedRoutes.Java

/-! Classes in code. -/

/-- What is found in two lexemes that stand side by side, anywhere in some code. -/
def scan {α : Type} (look : Lexeme → Lexeme → Option α) : List Lexeme → List α
  | first :: second :: rest => (look first second).toList ++ scan look (second :: rest)
  | _ => []

/-- A name that is declared behind its type, which is a class. -/
def declaredName? : Lexeme → Lexeme → Option String
  | .identifier type, .identifier name => if type = "record" then none else some name
  | _, _ => none

/-- A class or a record that is declared. -/
def declaredClass? : Lexeme → Lexeme → Option String
  | .keyword word, .identifier name => if word = "class" then some name else none
  | .identifier word, .identifier name => if word = "record" then some name else none
  | _, _ => none

/-- The words of the language behind which a class is named. -/
def typeKeywords : List String :=
  ["extends", "implements", "instanceof", "new", "throws"]

/-- A class that is named: as an annotation, behind a keyword, as the type of a name, or in front of
a point if no variable has the name. -/
def namedClass? (locals : List String) : Lexeme → Lexeme → Option String
  | .symbol mark, .identifier name => if mark = "@" then some name else none
  | .keyword word, .identifier name => if word ∈ typeKeywords then some name else none
  | .identifier name, .identifier _ => if name = "record" then none else some name
  | .identifier name, .symbol mark => if mark = "." ∧ name ∉ locals then some name else none
  | _, _ => none

/-- The classes of the package `java.lang` that spell types. -/
def langClasses : List String :=
  ["Boolean", "Double", "Float", "Integer", "Long", "String"]

/-- A class that some code names, and that is neither declared in the code nor known without an
import. -/
structure NeedsImport (code : List Lexeme) (simple : String) : Prop where
  /-- The code names it. -/
  named : simple ∈ scan (namedClass? (scan declaredName? code)) code
  /-- It is declared elsewhere. -/
  foreign : simple ∉ scan declaredClass? code
  /-- It is not in the package that needs no import. -/
  imported : simple ∉ langClasses

/-! Code is cut at its separators. -/

/-- Nothing is found next to a symbol, unless it is an at sign or a point. -/
structure Separated {α : Type} (look : Lexeme → Lexeme → Option α) : Prop where
  /-- Nothing is found behind the symbol. -/
  behind : ∀ mark next, mark ∉ ["@", "."] → look (.symbol mark) next = none
  /-- Nothing is found in front of it. -/
  before : ∀ first mark, mark ∉ ["@", "."] → look first (.symbol mark) = none

/-- A line with a separator at its end. -/
def EndsApart (line : List Lexeme) : Prop :=
  ∃ mark, mark ∉ ["@", "."] ∧ line.getLast? = some (.symbol mark)

/-- Symbols take no part in the declaration of a name. -/
theorem separated_declaredName : Separated declaredName? := by
  constructor
  · intro mark next _
    rfl
  · intro first mark _
    cases first <;> rfl

/-- Nor do they in that of a class. -/
theorem separated_declaredClass : Separated declaredClass? := by
  constructor
  · intro mark next _
    rfl
  · intro first mark _
    cases first <;> rfl

/-- A class is named next to an at sign or a point, and next to no other symbol. -/
theorem separated_namedClass (locals : List String) : Separated (namedClass? locals) := by
  constructor
  · intro mark next apart
    simp only [List.mem_cons, List.not_mem_nil, or_false, not_or] at apart
    cases next <;> simp [namedClass?, apart]
  · intro first mark apart
    simp only [List.mem_cons, List.not_mem_nil, or_false, not_or] at apart
    cases first <;> simp [namedClass?, apart]

section

variable {α : Type} {look : Lexeme → Lexeme → Option α}

/-- What stands on the two sides of a separator is looked at side by side. -/
theorem Separated.scan_append (separated : Separated look) (front back : List Lexeme) {mark : String}
    (apart : mark ∉ ["@", "."]) :
    scan look (front ++ .symbol mark :: back) = scan look front ++ scan look back := by
  -- Pairs in front of the separator stay pairs, and the two with the separator in them give nothing.
  induction front with
  | nil =>
    cases back with
    | nil => rfl
    | cons next back => simp [scan, separated.behind mark next apart]
  | cons first front ih =>
    cases front with
    | nil =>
      rw [List.nil_append] at ih
      simp [scan, separated.before first mark apart, ih]
    | cons second front =>
      simp only [List.cons_append] at ih
      simp [scan, ih]

/-- Nothing is found with a separator in front. -/
theorem Separated.scan_mark (separated : Separated look) {mark : String}
    (apart : mark ∉ ["@", "."]) (back : List Lexeme) :
    scan look (.symbol mark :: back) = scan look back :=
  -- Nothing stands in front of the separator.
  separated.scan_append [] back apart

/-- Lines that end with separators are looked at one by one. -/
theorem Separated.scan_flatten (separated : Separated look) {lines : List (List Lexeme)}
    (ended : ∀ line ∈ lines, EndsApart line) :
    scan look lines.flatten = lines.flatMap (scan look) := by
  -- The last lexeme of a line and the first of the next are no pair that matters.
  induction lines with
  | nil => rfl
  | cons line lines ih =>
    obtain ⟨mark, apart, last⟩ := ended line (by simp)
    obtain ⟨front, rfl⟩ := List.getLast?_eq_some_iff.mp last
    have later := ih fun other member => ended other (by simp [member])
    rw [List.flatten_cons, List.flatMap_cons, List.append_assoc, List.singleton_append,
      separated.scan_append front _ apart, separated.scan_append front [] apart, later]
    simp [scan]

/-- So are the items of a list with commas. -/
theorem Separated.scan_intercalate (separated : Separated look) (groups : List (List Lexeme)) :
    scan look ([.symbol ","].intercalate groups) = groups.flatMap (scan look) := by
  -- The induction is on the groups; each comma is a separator.
  induction groups with
  | nil => rfl
  | cons group groups ih =>
    cases groups with
    | nil => simp [List.intercalate]
    | cons next groups =>
      rw [intercalate_cons_cons, List.singleton_append, separated.scan_append _ _ (by decide), ih]
      rfl

/-- In an argument only the class of timestamps may be found. -/
theorem Separated.scan_argument (separated : Separated look) {param : Param}
    {argument : List Lexeme} (given : IsArgument param argument) (back : List Lexeme) :
    scan look (argument ++ back) =
      (if param.type = .timestamp ∧ param.default ≠ none then
        scan look [.identifier "Instant", .symbol ".", .identifier "parse"] else []) ++
      scan look back := by
  -- An argument is missing, a value, or the call for a timestamp.
  rcases given.cases with ⟨absent, rfl⟩ | ⟨other, sign, value, signed, constant, rfl⟩ |
    ⟨stamped, raw, default, rfl⟩
  · simp [absent]
  -- A sign is a separator, and so is the comma that ends the argument.
  · have alone : scan look [value] = [] := rfl
    rw [List.append_assoc, List.cons_append, List.singleton_append]
    rcases signed with rfl | rfl
    · simpa [other, alone] using separated.scan_append [value] back (by decide)
    · rw [List.singleton_append, separated.scan_mark (by decide)]
      simpa [other, alone] using separated.scan_append [value] back (by decide)
  · simp [stamped, default, scan, separated.before, separated.behind, separated.scan_mark]

/-- What is found in the statement for a parameter. -/
def scanStatement (look : Lexeme → Lexeme → Option α) (names : CodeNames) (param : Param) :
    List α :=
  scan look [.identifier (typeNames param.type).boxed, .identifier param.name] ++
    (scan look [.ofWord names.accessor, .symbol ".", method param.source] ++
      ((if param.type = .timestamp ∧ param.default ≠ none then
        scan look [.identifier "Instant", .symbol ".", .identifier "parse"] else []) ++
        scan look [.identifier (typeNames param.type).parser, .symbol ".", .identifier "create"]))

/-- A statement is looked at part by part. -/
theorem Separated.scan_statement (separated : Separated look) {names : CodeNames} {param : Param}
    {argument : List Lexeme} (given : IsArgument param argument) :
    scan look (statementLexemes names param argument) = scanStatement look names param := by
  -- The method and the string stand between separators, and so does the argument.
  simp [statementLexemes, scanStatement, scan, separated.before, separated.behind,
    separated.scan_mark, separated.scan_argument given]

/-- A statement ends with a semicolon. -/
theorem endsApart_statement (names : CodeNames) (param : Param) (argument : List Lexeme) :
    EndsApart (statementLexemes names param argument) :=
  ⟨";", by decide, by simp [statementLexemes, List.getLast?_cons]⟩

/-- Every line of code ends with a separator. -/
theorem endsApart_of_mem_codeLines {handler : Handler} {path : String} {params : ParamList}
    {options : UnitOptions} {arguments : List (List Lexeme)} {line : List Lexeme}
    (member : line ∈ codeLines handler path params options arguments) : EndsApart line := by
  -- The lines are gone through one by one; only statements are as many as the parameters.
  rcases List.mem_append.mp member with first | later
  · simp only [classCode, List.mem_cons, List.not_mem_nil, or_false] at first
    rcases first with rfl | rfl | rfl | rfl
    · exact ⟨")", by decide, rfl⟩
    · exact ⟨"\x7b", by decide, rfl⟩
    · exact ⟨"\x7d", by decide, rfl⟩
    · exact ⟨";", by decide, rfl⟩
  · split at later
    · exact ⟨"\x7d", by decide, by simp [List.mem_singleton.mp later]⟩
    · simp only [openingCode, List.mem_append, List.mem_cons, List.not_mem_nil, or_false] at later
      rcases later with (rfl | rfl) | statement | rfl | rfl | rfl | rfl
      · exact ⟨"\x7b", by decide, rfl⟩
      · exact ⟨";", by decide, rfl⟩
      · rw [← List.map_uncurry_zip_eq_zipWith, List.mem_map] at statement
        obtain ⟨both, -, rfl⟩ := statement
        exact endsApart_statement _ _ _
      · exact ⟨";", by decide, by simp [returnCode, List.getLast?_cons]⟩
      · exact ⟨"\x7d", by decide, rfl⟩
      · exact ⟨"\x7d", by decide, by simp [recordCode, List.getLast?_cons]⟩
      · exact ⟨"\x7d", by decide, rfl⟩

/-- Statements are looked at parameter by parameter. -/
theorem Separated.scan_statements (separated : Separated look) {names : CodeNames}
    {params : List Param} {arguments : List (List Lexeme)}
    (given : List.Forall₂ IsArgument params arguments) :
    (List.zipWith (statementLexemes names) params arguments).flatMap (scan look) =
      params.flatMap (scanStatement look names) := by
  -- The induction is on the parameters with their arguments.
  induction given with
  | nil => rfl
  | cons first _ ih =>
    rw [List.zipWith_cons_cons, List.flatMap_cons, List.flatMap_cons, ih,
      separated.scan_statement first]

/-- What is found in the code of a file, which the defaults only decide by being there. -/
theorem Separated.scan_codeLines (separated : Separated look) {handler : Handler} {path : String}
    {params : ParamList} {options : UnitOptions} {arguments : List (List Lexeme)}
    (given : List.Forall₂ IsArgument params.all arguments) :
    scan look (codeLines handler path params options arguments).flatten =
      (classCode handler path options).flatMap (scan look) ++
        if params.all = [] then [] else
          (openingCode handler).flatMap (scan look) ++
            (params.all.flatMap (scanStatement look handler.codeNames) ++
              (scan look [.keyword "return", .keyword "new", .identifier handler.recordName] ++
                (scan look [.identifier "record", .identifier handler.recordName] ++
                  params.all.flatMap fun param => scan look
                    [.ofWord (typeNames param.type).field, .identifier param.name]))) := by
  -- The line of the return and that of the record hold lists with commas.
  have names : scan look (returnCode handler params) =
      scan look [.keyword "return", .keyword "new", .identifier handler.recordName] := by
    rw [returnCode, separated.scan_append _ _ (by decide), separated.scan_append _ _ (by decide),
      separated.scan_intercalate]
    simp [scan, List.flatMap_map]
  have components : scan look (recordCode handler params) =
      scan look [.identifier "record", .identifier handler.recordName] ++
        params.all.flatMap fun param => scan look
          [.ofWord (typeNames param.type).field, .identifier param.name] := by
    rw [recordCode, separated.scan_append _ _ (by decide), separated.scan_append _ _ (by decide),
      separated.scan_intercalate, List.flatMap_map]
    simp [scan, separated.behind "\x7b" _ (by decide)]
  rw [separated.scan_flatten fun line member => endsApart_of_mem_codeLines member, codeLines,
    List.flatMap_append]
  congr 1
  -- The method and the record are there with parameters only.
  by_cases empty : params.all = []
  · rw [if_pos empty, if_pos empty]
    rfl
  · rw [if_neg empty, if_neg empty]
    simp [separated.scan_statements given, names, components, scan]

end

/-! What is found in the code for one parameter. -/

/-- No class of values is called like the word for records. -/
theorem boxed_ne_record (type : ParamType) : (typeNames type).boxed ≠ "record" := by
  -- There are seven types.
  cases type <;> decide

/-- The types of components are words of the language, or those of the variables. -/
theorem ofWord_field (type : ParamType) :
    Lexeme.ofWord (typeNames type).field = .keyword (typeNames type).field ∧
      (typeNames type).field ∉ "class" :: typeKeywords ∨
      Lexeme.ofWord (typeNames type).field = .identifier (typeNames type).boxed := by
  -- Primitive types are keywords, and the others are classes.
  cases type <;> decide

section

variable {names : CodeNames} {param : Param}
  (accessor : Lexeme.ofWord names.accessor = .identifier names.accessor)
include accessor

/-- A statement declares the variable of its parameter. -/
theorem scanStatement_declaredName :
    scanStatement declaredName? names = fun param => [param.name] := by
  -- Behind the declaration all names stand next to symbols.
  funext param
  simp [scanStatement, scan, declaredName?, boxed_ne_record, accessor]

/-- A statement declares no class. -/
theorem scanStatement_declaredClass : scanStatement declaredClass? names = fun _ => [] := by
  -- The type in front of the variable is not the word that declares a record.
  funext param
  simp [scanStatement, scan, declaredClass?, boxed_ne_record, accessor]

/-- A statement names the type of its variable, and the parser of the type. -/
theorem mem_scanStatement_namedClass {locals : List String} (declared : names.accessor ∈ locals)
    (apart : ∀ type : ParamType, (typeNames type).parser ∉ locals) (instant : "Instant" ∉ locals)
    {simple : String} : simple ∈ scanStatement (namedClass? locals) names param ↔
      simple = (typeNames param.type).boxed ∨ simple = (typeNames param.type).parser := by
  -- A default names a class only where the variable has it as its type.
  have default : (if param.type = .timestamp ∧ param.default ≠ none then
      scan (namedClass? locals) [.identifier "Instant", .symbol ".", .identifier "parse"]
        else []) ⊆ [(typeNames param.type).boxed] := by
    split
    · rename_i stamped
      simp [scan, namedClass?, instant, stamped.1, typeNames]
    · simp
  have boxed : scan (namedClass? locals) [.identifier (typeNames param.type).boxed,
      .identifier param.name] = [(typeNames param.type).boxed] := by
    simp [scan, namedClass?, boxed_ne_record]
  have reader : scan (namedClass? locals) [.ofWord names.accessor, .symbol ".",
      method param.source] = [] := by
    cases source : param.source <;> simp [scan, namedClass?, accessor, declared, method]
  have parser : scan (namedClass? locals) [.identifier (typeNames param.type).parser, .symbol ".",
      .identifier "create"] = [(typeNames param.type).parser] := by
    simp [scan, namedClass?, apart]
  rw [scanStatement, boxed, reader, parser, List.nil_append, List.mem_append, List.mem_append,
    List.mem_singleton, List.mem_singleton]
  constructor
  · intro found
    rcases found with same | inside | same
    · exact Or.inl same
    · exact Or.inl (List.mem_singleton.mp (default inside))
    · exact Or.inr same
  · intro known
    rcases known with same | same
    · exact Or.inl same
    · exact Or.inr (Or.inr same)

end

/-! What is found in the code of a file. -/

/-- The reader of requests has a name that is no word of the language. -/
theorem ofWord_accessor (handler : Handler) : Lexeme.ofWord handler.codeNames.accessor =
    .identifier handler.codeNames.accessor :=
  (by decide : Lexeme.ofWord unitAccessor = .identifier unitAccessor)

/-- No record of parameters is called like the word for records. -/
theorem recordName_ne_record (handler : Handler) : handler.recordName ≠ "record" := by
  -- Its name has an underscore.
  intro same
  have score : '_' ∈ handler.recordName.toList := by simp [Handler.recordName]
  rw [same] at score
  exact absurd score (by decide)

section

variable {handler : Handler} {path : String} {params : ParamList} {options : UnitOptions}
  {arguments : List (List Lexeme)} {simple : String}

/-- The names behind types are those of a constant, of a method, and of variables. -/
theorem mem_declaredNames (given : List.Forall₂ IsArgument params.all arguments) :
    (params.all ≠ [] → unitAccessor ∈
      scan declaredName? (codeLines handler path params options arguments).flatten) ∧
    ∀ name ∈ scan declaredName? (codeLines handler path params options arguments).flatten,
      name ∈ ["PATH", "parse", unitContext, unitAccessor] ∨
        name ∈ params.all.map Param.name := by
  -- The code is looked at part by part, and each part is known.
  have components (param : Param) : scan declaredName? [.ofWord (typeNames param.type).field,
      .identifier param.name] ⊆ [param.name] := by
    rcases ofWord_field param.type with ⟨read, -⟩ | read <;>
      simp [scan, declaredName?, read, boxed_ne_record]
  have first : (classCode handler path options).flatMap (scan declaredName?) = ["PATH"] := by
    simp [classCode, scan, declaredName?]
  have opening : (openingCode handler).flatMap (scan declaredName?) =
      ["parse", unitContext, unitAccessor] := by
    simp [openingCode, scan, declaredName?, recordName_ne_record]
  have ends : scan declaredName? [.keyword "return", .keyword "new",
      .identifier handler.recordName] = [] ∧
        scan declaredName? [.identifier "record", .identifier handler.recordName] = [] := by
    simp [scan, declaredName?]
  rw [separated_declaredName.scan_codeLines given, first, opening,
    scanStatement_declaredName (ofWord_accessor handler), ends.1, ends.2]
  -- Without parameters there is only the constant.
  by_cases empty : params.all = []
  · simp [empty]
  · rw [if_neg empty]
    refine ⟨fun _ => by simp, fun name member => ?_⟩
    simp only [List.mem_append, List.mem_flatMap, List.mem_singleton, List.not_mem_nil,
      false_or] at member
    -- The last two are the variable of a parameter and its component.
    rcases member with rfl | fixed | ⟨param, inside, rfl⟩ | ⟨param, inside, found⟩
    · exact Or.inl (by simp)
    · exact Or.inl (List.mem_cons_of_mem _ fixed)
    · exact Or.inr (List.mem_map_of_mem inside)
    · rw [List.mem_singleton.mp (components param found)]
      exact Or.inr (List.mem_map_of_mem inside)

/-- The code declares one class, and a record where there are parameters. -/
theorem mem_declaredClasses_iff (given : List.Forall₂ IsArgument params.all arguments) :
    simple ∈ scan declaredClass? (codeLines handler path params options arguments).flatten ↔
      simple = handler.generatedClass ∨ params.all ≠ [] ∧ simple = handler.recordName := by
  -- The fields of the record are types in front of names, and these declare no class.
  have components (param : Param) : scan declaredClass? [.ofWord (typeNames param.type).field,
      .identifier param.name] = [] := by
    rcases ofWord_field param.type with ⟨read, other⟩ | read
    · rw [List.mem_cons, not_or] at other
      simp [scan, declaredClass?, read, other.1]
    · simp [scan, declaredClass?, read, boxed_ne_record]
  rw [separated_declaredClass.scan_codeLines given,
    scanStatement_declaredClass (ofWord_accessor handler)]
  simp only [components]
  by_cases empty : params.all = []
  · simp [empty, classCode, scan, declaredClass?]
  · simp [empty, classCode, openingCode, scan, declaredClass?, recordName_ne_record]

/-- The classes that the code names are those of its fixed lines, and for each parameter its type and
the parser of the type. -/
theorem mem_namedClasses_iff (given : List.Forall₂ IsArgument params.all arguments)
    {locals : List String} (declared : params.all ≠ [] → unitAccessor ∈ locals)
    (apart : ∀ simple ∈ "Instant" :: runtimeClasses, simple ∉ locals) :
    simple ∈ scan (namedClass? locals) (codeLines handler path params options arguments).flatten ↔
      simple ∈ ["Generated", "String"] ∨ params.all ≠ [] ∧
        (simple ∈ [handler.recordName, "RoutingContext", "RequestParser"] ∨
          ∃ param ∈ params.all,
            simple = (typeNames param.type).boxed ∨ simple = (typeNames param.type).parser) := by
  have listed : ∀ type : ParamType, (typeNames type).parser ∈ runtimeClasses := by
    intro type
    cases type <;> decide
  have parsers (type : ParamType) : (typeNames type).parser ∉ locals :=
    apart _ (List.mem_cons_of_mem _ (listed type))
  have reader : "RequestParser" ∉ locals := apart _ (by decide)
  have instant : "Instant" ∉ locals := apart _ (by decide)
  have components (param : Param) : scan (namedClass? locals) [.ofWord (typeNames param.type).field,
      .identifier param.name] ⊆ [(typeNames param.type).boxed] := by
    rcases ofWord_field param.type with ⟨read, other⟩ | read
    · rw [List.mem_cons, not_or] at other
      simp [scan, namedClass?, read, other.2]
    · simp [scan, namedClass?, read, boxed_ne_record]
  -- The fixed lines are looked at as they stand.
  have first : (classCode handler path options).flatMap (scan (namedClass? locals)) =
      ["Generated", "String"] := by
    simp [classCode, scan, namedClass?, typeKeywords]
  have opening : (openingCode handler).flatMap (scan (namedClass? locals)) =
      [handler.recordName, "RoutingContext", "RequestParser", "RequestParser"] := by
    simp [openingCode, scan, namedClass?, typeKeywords, recordName_ne_record, reader]
  have ends : scan (namedClass? locals) [.keyword "return", .keyword "new",
      .identifier handler.recordName] = [handler.recordName] ∧
        scan (namedClass? locals) [.identifier "record", .identifier handler.recordName] = [] := by
    simp [scan, namedClass?, typeKeywords]
  rw [(separated_namedClass locals).scan_codeLines given, first, opening, ends.1, ends.2]
  by_cases empty : params.all = []
  · simp [empty]
  · have statement (param : Param) :
        simple ∈ scanStatement (namedClass? locals) handler.codeNames param ↔ _ :=
      mem_scanStatement_namedClass (ofWord_accessor handler) (declared empty) parsers instant
    rw [if_neg empty]
    simp only [List.mem_append, List.mem_flatMap, statement, List.not_mem_nil, false_or,
      List.mem_cons, or_false, or_self, ne_eq, empty, not_false_eq_true, true_and]
    constructor
    · intro found
      rcases found with fixed | opened | inside | same | ⟨param, member, found⟩
      · exact Or.inl fixed
      · exact Or.inr (Or.inl opened)
      · exact Or.inr (Or.inr inside)
      · exact Or.inr (Or.inl (Or.inl same))
      -- The type of a component is that of its variable.
      · have same := List.mem_singleton.mp (components param found)
        exact Or.inr (Or.inr ⟨param, member, Or.inl same⟩)
    · intro known
      rcases known with fixed | opened | inside
      · exact Or.inl fixed
      · exact Or.inr (Or.inl opened)
      · exact Or.inr (Or.inr (Or.inl inside))

/-- No variable of the code is called like a class in front of a point. -/
theorem not_mem_declaredNames (given : List.Forall₂ IsArgument params.all arguments)
    (free : ∀ param ∈ params.all, isCalledClass param.name = false)
    (known : simple ∈ "Instant" :: runtimeClasses) :
    simple ∉ scan declaredName? (codeLines handler path params options arguments).flatten := by
  -- The names that are declared are fixed ones or those of parameters.
  have called : ∀ simple ∈ "Instant" :: runtimeClasses, isCalledClass simple = true := by decide
  have fixed : ∀ simple ∈ "Instant" :: runtimeClasses,
      simple ∉ ["PATH", "parse", unitContext, unitAccessor] := by decide
  intro member
  rcases (mem_declaredNames given).2 simple member with other | named
  · exact fixed simple known other
  -- The name of a parameter is that of no class.
  · obtain ⟨param, inside, rfl⟩ := List.mem_map.mp named
    have open_name := free param inside
    rw [called _ known] at open_name
    cases open_name

/-- The generated types are called like no class that is imported. -/
theorem ne_of_mem_importList {runtime : String}
    (member : simple ∈ (importList runtime params.all).map simpleName) :
    simple ≠ handler.generatedClass ∧ simple ≠ handler.recordName ∧ simple ∉ langClasses := by
  -- All simple names are known, and they can be looked through.
  have plain : ∀ simple ∈ fixedClasses.map simpleName ++ runtimeClasses,
      '_' ∉ simple.toList ∧ simple ∉ langClasses := by decide +kernel
  have known : simple ∈ fixedClasses.map simpleName ++ runtimeClasses := by
    obtain ⟨name, inside, rfl⟩ := List.mem_map.mp member
    rcases cases_of_mem_importList inside with fixed | ⟨-, word, listed, rfl⟩
    · exact List.mem_append_left _ (List.mem_map_of_mem fixed)
    · rw [simpleName_runtime runtime listed]
      exact List.mem_append_right _ listed
  obtain ⟨score, foreign⟩ := plain simple known
  -- The names of generated types have underscores in them.
  refine ⟨?_, ?_, foreign⟩
  · rintro rfl
    exact score (by simp [Handler.generatedClass])
  · rintro rfl
    exact score (by simp [Handler.recordName])

/-- The code for a parameter needs the parser of its type, and its type if that needs an import. -/
theorem mem_simpleNamesFor_iff {param : Param} : simple ∈ simpleNamesFor param ↔
    simple = (typeNames param.type).parser ∨
      simple = (typeNames param.type).boxed ∧ simple ∉ langClasses := by
  -- The class of the values needs an import for timestamps only.
  have spelled (type : ParamType) :
      (if type = .timestamp then ["Instant"] else []) =
        if (typeNames type).boxed ∈ langClasses then [] else [(typeNames type).boxed] := by
    cases type <;> decide
  rw [simpleNamesFor, spelled, List.mem_cons]
  refine or_congr_right ?_
  split
  · rename_i known
    exact ⟨fun member => absurd member List.not_mem_nil, fun both => absurd known (both.1 ▸ both.2)⟩
  · rename_i foreign
    rw [List.mem_singleton]
    exact ⟨fun same => ⟨same, same ▸ foreign⟩, And.left⟩

/-- The file imports the classes that need it. -/
theorem needsImport_iff (given : List.Forall₂ IsArgument params.all arguments)
    (free : ∀ param ∈ params.all, isCalledClass param.name = false) (runtime : String) :
    NeedsImport (codeLines handler path params options arguments).flatten simple ↔
      simple ∈ (importList runtime params.all).map simpleName := by
  -- The classes that are named, declared and imported are all known, and are compared.
  let code := (codeLines handler path params options arguments).flatten
  have named : simple ∈ scan (namedClass? (scan declaredName? code)) code ↔ _ :=
    mem_namedClasses_iff given (mem_declaredNames given).1
      fun _ known => not_mem_declaredNames given free known
  have declared : simple ∈ scan declaredClass? code ↔ _ := mem_declaredClasses_iff given
  have lang : "String" ∈ langClasses := by decide
  have generated : simpleName "javax.annotation.processing.Generated" = "Generated" := by
    decide +kernel
  constructor
  · intro needs
    have foreign := needs.foreign
    rw [declared, not_or] at foreign
    -- Of the two classes that every file names, one is in the package that needs no import.
    have fixed (inside : simple ∈ ["Generated", "String"]) : simple = "Generated" := by
      rcases List.mem_cons.mp inside with same | inside
      · exact same
      · exact absurd (List.mem_singleton.mp inside ▸ lang) needs.imported
    by_cases empty : params.all = []
    · have only := (named.mp needs.named).resolve_right fun filled => filled.1 empty
      rw [empty, importList_nil, fixed only]
      simp [generated]
    · rw [mem_map_simpleName_iff empty]
      rcases named.mp needs.named with always | ⟨-, opened | ⟨param, inside, same⟩⟩
      · exact Or.inl (by simp [fixed always])
      · rcases List.mem_cons.mp opened with own | support
        · exact absurd ⟨empty, own⟩ foreign.2
        · exact Or.inl (List.mem_cons_of_mem _ support)
      -- A type that is a class of its own is that of timestamps.
      · refine Or.inr ⟨param, inside, mem_simpleNamesFor_iff.mpr ?_⟩
        exact same.symm.imp_right fun boxed => ⟨boxed, needs.imported⟩
  -- What is imported is named by the code, and neither declared there nor known without an import.
  · intro member
    have apart := @ne_of_mem_importList handler params simple runtime member
    refine ⟨named.mpr ?_, fun own => ?_, apart.2.2⟩
    · by_cases empty : params.all = []
      · rw [empty, importList_nil, List.map_singleton, generated] at member
        exact Or.inl (List.mem_append_left ["String"] member)
      · rw [mem_map_simpleName_iff empty] at member
        rcases member with always | ⟨param, inside, needed⟩
        · rcases List.mem_cons.mp always with same | support
          · exact Or.inl (by simp [same])
          · exact Or.inr ⟨empty, Or.inl (List.mem_cons_of_mem _ support)⟩
        · refine Or.inr ⟨empty, Or.inr ⟨param, inside, ?_⟩⟩
          exact (mem_simpleNamesFor_iff.mp needed).symm.imp_left And.left
    · rcases declared.mp own with same | ⟨-, same⟩
      · exact apart.1 same
      · exact apart.2.1 same

end

end TypedRoutes.Java

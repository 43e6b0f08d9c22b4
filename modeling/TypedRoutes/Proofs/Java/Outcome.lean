import TypedRoutes.Proofs.Java.Names

/-! For which parameters code is written, which error the others give, and that the statements, the
components of the record and the list of names go through the parameters in the same order. -/

namespace TypedRoutes.Java

/-- A word that means something else in the code, so that no parameter may have it as its name. -/
inductive Taken (names : CodeNames) (word : String) : Prop where
  /-- The language reserves it. -/
  | reserved (known : word ∈ reservedNames)
  /-- A class is called by it, whatever the parameters are. -/
  | supportClass (known : word ∈ ["Instant", "RequestParser", "RoutingContext"])
  /-- The class that reads the values of a type is called by it. -/
  | parser (type : ParamType) (same : (typeNames type).parser = word)
  /-- Parameters are read from a variable of this name. -/
  | accessor (same : word = names.accessor)
  /-- The options reserve it. -/
  | option (known : word ∈ names.reserved)

/-- A parameter for which code is written. -/
structure Writable (names : CodeNames) (param : Param) : Prop where
  /-- Its name is free. -/
  free : ¬ Taken names param.name
  /-- Its default, if it has one, is a value of its type. -/
  default : ∀ raw ∈ param.default, ∃ literal, literal? param.type raw = some literal

/-- The error of a parameter for which no code is written. Its name is looked at first. -/
inductive Complains (names : CodeNames) (param : Param) : CodeError → Prop where
  | taken (taken : Taken names param.name) : Complains names param (.nameTaken param.name)
  | badDefault (raw : String) (free : ¬ Taken names param.name)
    (present : param.default = some raw) (none : literal? param.type raw = none) :
    Complains names param (.badDefault param.name param.type raw)

/-- The words in a text: its runs of letters, digits and underscores. -/
def wordsIn (text : List Char) : List String :=
  ((text.splitOnP fun c => !isIdentifierPart c).filter fun run => !run.isEmpty).map String.ofList

/-- Code that lists some parameters three times, in one order. -/
structure Listing (names : CodeNames) (params : ParamList) (code : Code) : Prop where
  /-- Each statement starts with the type and the name of a variable. -/
  statements : (code.statements.map fun statement => (wordsIn statement.toList).take 2) =
    params.all.map fun param => [(typeNames param.type).boxed, param.name]
  /-- Each component of the record has the type of a component and a name. -/
  components : ∃ components,
    code.recordDeclaration = "record " ++ names.record ++ "(" ++ components ++ ") \x7b\x7d" ∧
      wordsIn components.toList =
        params.all.flatMap fun param => [(typeNames param.type).field, param.name]
  /-- The arguments for the components are the names, those of the path first. -/
  arguments : wordsIn params.nameList.toList =
    params.path.map Param.name ++ params.query.map Param.name

/-! One parameter. -/

section

variable {names : CodeNames} {param : Param} {word : String}

/-- The keywords of the code are the reserved names of the language. -/
theorem isKeyword_iff : isKeyword word = true ↔ word ∈ reservedNames := by
  -- Each of the two tables is looked through for the words of the other.
  have known : ∀ other ∈ reservedNames, other ∈ keywords := by decide
  have listed : ∀ other ∈ keywords, other ∈ reservedNames := by decide
  rw [isKeyword, List.contains_iff_mem]
  exact ⟨listed word, known word⟩

/-- A word calls a class if it is one of three, or the parser of some type. -/
theorem isCalledClass_iff : isCalledClass word = true ↔
    word ∈ ["Instant", "RequestParser", "RoutingContext"] ∨
      ∃ type : ParamType, (typeNames type).parser = word := by
  -- The scan goes through all types, so nothing is left out by it.
  have every (type : ParamType) : type ∈ ParamType.all := by cases type <;> decide
  rw [isCalledClass, Bool.or_eq_true, List.contains_iff_mem, List.any_eq_true]
  simp only [supportClasses, beq_iff_eq, every, true_and]

/-- A name is refused exactly if it means something else. -/
theorem reserves_iff : names.reserves word = true ↔ Taken names word := by
  -- The four tests of the model stand in the order in which the words are tried.
  rw [CodeNames.reserves, Bool.or_eq_true, Bool.or_eq_true, Bool.or_eq_true, isKeyword_iff,
    isCalledClass_iff, beq_iff_eq, List.contains_iff_mem]
  constructor
  · rintro (((known | known | ⟨type, same⟩) | same) | known)
    · exact .reserved known
    · exact .supportClass known
    · exact .parser type same
    · exact .accessor same
    · exact .option known
  · intro taken
    cases taken with
    | reserved known => exact Or.inl (Or.inl (Or.inl known))
    | supportClass known => exact Or.inl (Or.inl (Or.inr (Or.inl known)))
    | parser type same => exact Or.inl (Or.inl (Or.inr (Or.inr ⟨type, same⟩)))
    | accessor same => exact Or.inl (Or.inr same)
    | option known => exact Or.inr known

/-- A parameter can be written, or there is one complaint about it. -/
theorem writable_or_complains (names : CodeNames) (param : Param) :
    Writable names param ∨ ∃ error, Complains names param error := by
  -- The name is looked at before the default, as the error says.
  by_cases taken : Taken names param.name
  · exact Or.inr ⟨_, .taken taken⟩
  · cases present : param.default with
    | none => exact Or.inl ⟨taken, by simp [present]⟩
    | some raw =>
      cases written : literal? param.type raw with
      | none => exact Or.inr ⟨_, .badDefault raw taken present written⟩
      | some literal =>
        refine Or.inl ⟨taken, fun other same => ?_⟩
        rw [present] at same
        cases same
        exact ⟨literal, written⟩

/-- A statement is written for a parameter that can be written. -/
theorem Writable.exists_statement (writable : Writable names param) :
    ∃ statement, statementOf names param = .ok statement := by
  -- With a free name only the default can fail, and it has a literal.
  have free : names.reserves param.name = false := by
    rw [← Bool.not_eq_true, reserves_iff]
    exact writable.free
  have argument : ∃ argument, defaultArgument param = .ok argument := by
    unfold defaultArgument
    cases present : param.default with
    | none => exact ⟨_, rfl⟩
    | some raw =>
      obtain ⟨literal, written⟩ := writable.default raw present
      exact ⟨_, by simp [literalOf, written, Except.map]; rfl⟩
  obtain ⟨text, written⟩ := argument
  exact ⟨_, by
    simp [statementOf, free, readStatement, lookUpNames_eq, written, bind, Except.bind]; rfl⟩

/-- A complaint is the error of the statement. -/
theorem Complains.statementOf_eq {error : CodeError} (complaint : Complains names param error) :
    statementOf names param = .error error := by
  -- The name fails before anything else is looked at; the default only behind a free name.
  cases complaint with
  | taken taken => simp [statementOf, reserves_iff.mpr taken]
  | badDefault raw free present none =>
    have open_name : names.reserves param.name = false := by
      rw [← Bool.not_eq_true, reserves_iff]
      exact free
    simp [statementOf, open_name, readStatement, lookUpNames_eq, defaultArgument, present,
      literalOf, none, bind, Except.bind, Except.map]

/-- A statement is written exactly for the parameters that can be written. -/
theorem exists_statementOf_iff :
    (∃ statement, statementOf names param = .ok statement) ↔ Writable names param := by
  -- A parameter that is not writable has a complaint, which would be the answer.
  constructor
  · intro written
    obtain ⟨statement, own⟩ := written
    refine (writable_or_complains names param).resolve_right fun complained => ?_
    obtain ⟨error, complaint⟩ := complained
    rw [complaint.statementOf_eq] at own
    cases own
  · exact Writable.exists_statement

/-- The error of a statement is the complaint about its parameter. -/
theorem statementOf_eq_error_iff {error : CodeError} :
    statementOf names param = .error error ↔ Complains names param error := by
  -- A writable parameter has a statement, so a failed one has a complaint.
  constructor
  · intro failed
    rcases writable_or_complains names param with writable | ⟨other, complaint⟩
    · obtain ⟨statement, written⟩ := writable.exists_statement
      rw [written] at failed
      cases failed
    · rw [complaint.statementOf_eq] at failed
      cases failed
      exact complaint
  · exact Complains.statementOf_eq

end

/-! Words in lists. -/

/-- There are no words in an empty text. -/
theorem wordsIn_nil : wordsIn [] = [] := by
  simp [wordsIn]

/-- Words do not go on behind another character. -/
theorem wordsIn_append (front : List Char) {c : Char} (stop : isIdentifierPart c = false)
    (back : List Char) : wordsIn (front ++ c :: back) = wordsIn front ++ wordsIn back := by
  -- The text is cut at the other character, and empty runs are dropped on both sides.
  rw [wordsIn, List.splitOnP_append_cons front back (by simp [stop]), List.filter_append,
    List.map_append]
  rfl

/-- An identifier is one word. -/
theorem wordsIn_identifier {word : String} (named : isIdentifier word = true) :
    wordsIn word.toList = [word] := by
  -- No character of it is a cut, so there is one run, and it is not empty.
  have inside : ∀ c ∈ word.toList, (!isIdentifierPart c) = false := by
    intro c member
    simp [isIdentifierPart_of_mem named member]
  obtain ⟨first, others, shape, -, -⟩ := isIdentifier_iff.mp named
  rw [wordsIn, List.splitOnP_eq_singleton inside]
  simp [shape, ← String.toList_inj]

/-- The words in a list with commas are those of its items. -/
theorem wordsIn_intercalate (items : List String) :
    wordsIn (", ".intercalate items).toList = items.flatMap fun item => wordsIn item.toList := by
  -- The induction is on the items; a comma and a space end the words of the first one.
  induction items with
  | nil => exact wordsIn_nil
  | cons item items ih =>
    cases items with
    | nil => simp
    | cons next items =>
      -- A comma and a space stand behind the first item.
      have shape : (item ++ ", " ++ ", ".intercalate (next :: items)).toList =
          item.toList ++ ',' :: ([] ++ ' ' :: (", ".intercalate (next :: items)).toList) := by
        simp
      rw [String.intercalate_cons_cons, shape, wordsIn_append _ (by decide),
        wordsIn_append _ (by decide), wordsIn_nil, List.nil_append, ih]
      rfl

/-- A type in front of a name, as in a declaration. -/
theorem wordsIn_declaration {type name : String} (typed : isIdentifier type = true)
    (named : isIdentifier name = true) : wordsIn (type ++ " " ++ name).toList = [type, name] := by
  have shape : (type ++ " " ++ name).toList = type.toList ++ ' ' :: name.toList := by simp
  rw [shape, wordsIn_append _ (by decide), wordsIn_identifier typed, wordsIn_identifier named]
  rfl

/-- A statement starts with the type and the name of its variable. -/
theorem take_wordsIn_statement {names : CodeNames} {param : Param} {statement : String}
    (named : isIdentifier param.name = true) (written : statementOf names param = .ok statement) :
    (wordsIn statement.toList).take 2 = [(typeNames param.type).boxed, param.name] := by
  obtain ⟨-, argument, -, rfl⟩ := exists_argument_of_statementOf written
  have typed := (isIdentifier_typeNames param.type).1.1
  -- The equals sign behind the name stands between spaces.
  have shape : ∃ rest, ((typeNames param.type).boxed ++ " " ++ param.name ++ " = " ++
      names.accessor ++ "." ++ getter param.source ++ "(\"" ++ param.name ++ "\", " ++ argument ++
      (typeNames param.type).parser ++ ".create());").toList =
        ((typeNames param.type).boxed ++ " " ++ param.name).toList ++ ' ' :: rest :=
    ⟨_, by simp; rfl⟩
  obtain ⟨rest, shape⟩ := shape
  rw [shape, wordsIn_append _ (by decide), wordsIn_declaration typed named]
  rfl

/-! The code for all parameters. -/

section

variable {names : CodeNames} {params : ParamList} {code : Code}

/-- Code is written exactly if every parameter can be written. -/
theorem exists_codeFor_iff :
    (∃ code, codeFor names params = .ok code) ↔ ∀ param ∈ params.all, Writable names param := by
  -- Only the statements can fail, so code and statements exist together.
  have each : (∃ code, codeFor names params = .ok code) ↔
      ∃ statements, params.all.mapM (statementOf names) = .ok statements := by
    constructor
    · intro written
      obtain ⟨code, whole⟩ := written
      exact ⟨_, (codeFor_eq_ok_iff.mp whole).1⟩
    · intro written
      obtain ⟨statements, whole⟩ := written
      exact ⟨⟨_, statements⟩, codeFor_eq_ok_iff.mpr ⟨whole, rfl⟩⟩
  simp only [each, exists_mapM_iff, exists_statementOf_iff]

/-- The first parameter that cannot be written decides the error. -/
theorem codeFor_eq_error_iff {error : CodeError} :
    codeFor names params = .error error ↔ ∃ before param after,
      params.all = before ++ param :: after ∧ (∀ other ∈ before, Writable names other) ∧
      Complains names param error := by
  -- The statements are written in order, and the first failure is the error of all.
  have each : codeFor names params = .error error ↔
      params.all.mapM (statementOf names) = .error error := by
    unfold codeFor
    cases params.all.mapM (statementOf names) <;>
      simp [bind, Except.bind, pure, Except.pure]
  simp only [each, mapM_eq_error_iff, exists_statementOf_iff, statementOf_eq_error_iff]

/-- Statements, components and names go through the parameters in order. -/
theorem listing_of_codeFor (named : ∀ param ∈ params.all, isIdentifier param.name = true)
    (written : codeFor names params = .ok code) : Listing names params code := by
  obtain ⟨each, record⟩ := codeFor_eq_ok_iff.mp written
  have typed (type : ParamType) : isIdentifier (typeNames type).field = true := by
    cases type <;> decide
  refine ⟨?_, ⟨", ".intercalate (params.all.map component), record, ?_⟩, ?_⟩
  -- Parameter and statement stand side by side, and each pair agrees.
  · rw [← List.forall₂_eq_eq_eq, List.forall₂_map_left_iff, List.forall₂_map_right_iff]
    have both := (List.forall₂_and_left _ _).mpr ⟨named, forall₂_of_mapM each⟩
    exact (both.imp fun _ _ own => take_wordsIn_statement own.1 own.2).flip
  -- A component is a type and a name, each of them one word.
  · rw [wordsIn_intercalate, List.flatMap_map]
    exact List.flatMap_congr fun param member =>
      wordsIn_declaration (typed param.type) (named param member)
  -- Each name is one word of the list.
  · rw [ParamList.nameList, wordsIn_intercalate, List.flatMap_map, ← List.map_append]
    have single : params.all.flatMap (fun param => wordsIn param.name.toList) =
        params.all.flatMap fun param => [param.name] :=
      List.flatMap_congr fun param member => wordsIn_identifier (named param member)
    exact single.trans (List.flatMap_pure_eq_map _ _)

end

/-- Code is written for the parameters of a tree exactly if all their names are free and all their
defaults are values of their types. Otherwise the first parameter for which this does not hold
decides the error, with its name before its default. The statements, the components of the record and
the list of names go through the parameters in order, those of the path first. -/
theorem codeFor_outcome {names : CodeNames} {tree : TemplateTree} {params : ParamList}
    (resolved : tree.resolve = .ok params) :
    ((∃ code, codeFor names params = .ok code) ↔ ∀ param ∈ params.all, Writable names param) ∧
    (∀ error, codeFor names params = .error error ↔ ∃ before param after,
      params.all = before ++ param :: after ∧ (∀ other ∈ before, Writable names other) ∧
      Complains names param error) ∧
    ∀ code, codeFor names params = .ok code → Listing names params code := by
  refine ⟨exists_codeFor_iff, fun error => codeFor_eq_error_iff, fun code written => ?_⟩
  -- The names are those of the declarations, which are identifiers.
  have named : ∀ param ∈ params.all, isIdentifier param.name = true :=
    fun _ member => isIdentifier_of_resolve resolved member
  exact listing_of_codeFor named written

/-- Two parameters with a reserved name and a default of another type, behind one without a fault. -/
def faultyParams : ParamList :=
  ⟨[⟨"id", .path, .int, none⟩, ⟨"for", .path, .int, some "x"⟩],
    [⟨"rp", .query, .boolean, some "no"⟩]⟩

/-- The name of the second parameter is refused before its default; a list without faults is
written. -/
theorem codeFor_outcome_faulty :
    (∃ tree : TemplateTree, tree.resolve = .ok faultyParams ∧
      codeFor {} faultyParams = .error (.nameTaken "for") ∧
      ∃ before param after, faultyParams.all = before ++ param :: after ∧
        (∀ other ∈ before, Writable {} other) ∧ Complains {} param (.nameTaken "for")) ∧
    ∃ tree : TemplateTree, tree.resolve = .ok (quotingParams "07") ∧
      (∀ param ∈ (quotingParams "07").all, Writable {} param) ∧
      Listing {} (quotingParams "07") quotingCode := by
  -- Both lists come from templates, so that their trees resolve to them.
  have faulty : parseParams "/\x7bint:id\x7d/\x7bint:for=x\x7d?rp=\x7bboolean=no\x7d" =
      .ok faultyParams := by rfl
  constructor
  · obtain ⟨tree, -, resolved⟩ := parseParams_eq_ok_iff.mp faulty
    have failed : codeFor {} faultyParams = .error (.nameTaken "for") := by rfl
    exact ⟨tree, resolved, failed, ((codeFor_outcome resolved).2.1 _).mp failed⟩
  · obtain ⟨tree, resolved⟩ := exists_quoting_tree
    have written : codeFor {} (quotingParams "07") = .ok quotingCode := by rfl
    have outcome := @codeFor_outcome {} tree _ resolved
    exact ⟨tree, resolved, outcome.1.mp ⟨_, written⟩, outcome.2.2 _ written⟩

end TypedRoutes.Java

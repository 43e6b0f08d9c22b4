import TypedRoutes.Proofs.Java.UnitLexemes

/-! The names in a generated file: which of them Java accepts where they stand. -/

namespace TypedRoutes.Java

/-- The reserved words and the literals that look like words. -/
def reservedNames : List String :=
  "true" :: "false" :: "null" :: reservedWords

/-- A name that Java accepts. -/
structure IsLegalName (word : String) : Prop where
  /-- It is made of letters, digits and underscores, and does not start with a digit. -/
  named : IsName word
  /-- It means nothing else. -/
  free : word ∉ reservedNames

/-- The methods without parameters that every object has. No component of a record may be called
like one of them. -/
def objectMethods : List String :=
  ["clone", "finalize", "getClass", "hashCode", "notify", "notifyAll", "toString", "wait"]

/-- The names of the package and of the imports. -/
def dottedNames (handler : Handler) (params : ParamList) (options : UnitOptions) : List String :=
  (if handler.package.isEmpty then [] else [handler.package]) ++
    importList options.runtimePackage params.all

/-- The local variables of the parse method. -/
def localVariables (params : ParamList) : List String :=
  if params.all = [] then [] else unitContext :: unitAccessor :: params.all.map Param.name

/-- Java accepts all names of a file. -/
structure LegalNames (handler : Handler) (params : ParamList) (options : UnitOptions) : Prop where
  /-- The package and the imports are made of names. -/
  dotted : ∀ name ∈ dottedNames handler params options, ∀ part ∈ partsOf '.' name, IsLegalName part
  /-- The class has a name. -/
  generatedClass : IsLegalName handler.generatedClass
  /-- The record has a name. -/
  record : IsLegalName handler.recordName
  /-- So have the variables. -/
  locals : ∀ name ∈ localVariables params, IsLegalName name
  /-- So have the components, and none is called like a method of every object. -/
  components : ∀ param ∈ params.all, IsLegalName param.name ∧ param.name ∉ objectMethods

/-! Names that are legal. -/

/-- A name is legal if it is an identifier and not reserved. -/
theorem isLegalName_iff {word : String} :
    IsLegalName word ↔ isIdentifier word = true ∧ word ∉ reservedNames := by
  rw [isIdentifier_iff]
  exact ⟨fun legal => ⟨legal.named, legal.free⟩, fun ⟨named, free⟩ => ⟨named, free⟩⟩

instance (word : String) : Decidable (IsLegalName word) :=
  decidable_of_iff _ isLegalName_iff.symm

/-- An underscore in a longer name makes it legal, since the only reserved word with an underscore
is the underscore. -/
theorem isLegalName_of_score {word : String} (named : isIdentifier word = true)
    (score : '_' ∈ word.toList) (longer : 1 < word.length) : IsLegalName word := by
  -- The reserved words are looked through for underscores.
  refine isLegalName_iff.mpr ⟨named, ?_⟩
  intro reserved
  have short : ∀ other ∈ reservedNames, '_' ∈ other.toList → other.length ≤ 1 := by decide
  have length := short word reserved score
  omega

/-- The generated types have legal names, whatever the class and the method are called. -/
theorem Handler.Proper.legal {handler : Handler} (proper : handler.Proper) :
    IsLegalName handler.generatedClass ∧ IsLegalName handler.recordName := by
  obtain ⟨generated, record⟩ := proper.isIdentifier
  -- Both names end in more than an underscore.
  have longer : 1 < "_ParamParser".length ∧ 1 < "_Params".length := by decide
  constructor
  · apply isLegalName_of_score generated
    · simp [generatedClass]
    · rw [generatedClass, String.length_append]
      omega
  · apply isLegalName_of_score record
    · simp [recordName]
    · rw [recordName, String.length_append]
      omega

/-- Code is written for parameters whose names are free. -/
theorem reserves_of_codeFor {names : CodeNames} {params : ParamList} {code : Code}
    (written : codeFor names params = .ok code) {param : Param} (member : param ∈ params.all) :
    names.reserves param.name = false := by
  -- No statement is written for a parameter with a reserved name.
  have each := forall₂_of_mapM (codeFor_eq_ok_iff.mp written).1
  obtain ⟨statement, -, own⟩ := exists_of_forall₂ each member
  exact (exists_argument_of_statementOf own).1

/-- Identifiers of parameters with code are legal names. -/
theorem isLegalName_of_isIdentifier {names : CodeNames} {params : ParamList} {code : Code}
    (written : codeFor names params = .ok code) {param : Param} (member : param ∈ params.all)
    (named : isIdentifier param.name = true) : IsLegalName param.name := by
  have free := reserves_of_codeFor written member
  simp only [CodeNames.reserves, Bool.or_eq_false_iff] at free
  -- The reserved names are keywords of the code.
  have known : ∀ other ∈ reservedNames, isKeyword other = true := by decide
  refine isLegalName_iff.mpr ⟨named, fun reserved => ?_⟩
  rw [known _ reserved] at free
  exact absurd free.1.1.1 (by decide)

/-- Parameters with code have legal names. -/
theorem isLegalName_of_codeFor {names : CodeNames} {template : String} {params : ParamList}
    {code : Code} (parsed : parseParams template = .ok params)
    (written : codeFor names params = .ok code) {param : Param} (member : param ∈ params.all) :
    IsLegalName param.name :=
  isLegalName_of_isIdentifier written member (isIdentifier_of_parseParams parsed member)

/-- The variables of the parse method have legal names. -/
theorem isLegalName_of_mem_localVariables {params : ParamList} {name : String}
    (legal : ∀ param ∈ params.all, IsLegalName param.name) (member : name ∈ localVariables params) :
    IsLegalName name := by
  -- The context and the reader of requests are there first, then a variable for each parameter.
  have fixed : IsLegalName unitContext ∧ IsLegalName unitAccessor := by decide
  unfold localVariables at member
  split at member
  · cases member
  · simp only [List.mem_cons, List.mem_map] at member
    rcases member with rfl | rfl | ⟨param, inside, rfl⟩
    · exact fixed.1
    · exact fixed.2
    · exact legal param inside

/-! The package and the imports. -/

section

variable {handler : Handler} {params : ParamList} {options : UnitOptions} {name : String}

/-- A name with dots is the package, or an import. -/
theorem cases_of_mem_dottedNames (member : name ∈ dottedNames handler params options) :
    handler.package ≠ "" ∧ name = handler.package ∨ name ∈ fixedClasses ∨
      params.all ≠ [] ∧ ∃ simple ∈ runtimeClasses,
        name = options.runtimePackage ++ "." ++ simple := by
  rcases List.mem_append.mp member with own | imported
  · left
    -- A file in no package has no line for it.
    by_cases bare : handler.package = ""
    · simp [bare] at own
    · simp only [String.isEmpty_iff, bare, if_false, List.mem_singleton] at own
      exact ⟨bare, own⟩
  · exact Or.inr (cases_of_mem_importList imported)

/-- Imports are made of names, if the package of the request parsers is. -/
theorem isDottedIdentifier_of_mem_importList
    (runtime : isDottedIdentifier options.runtimePackage = true)
    (member : name ∈ importList options.runtimePackage params.all) :
    isDottedIdentifier name = true := by
  have fixed : ∀ name ∈ fixedClasses, isDottedIdentifier name = true := by decide +kernel
  have simple : ∀ name ∈ runtimeClasses, isDottedIdentifier name = true := by decide +kernel
  rcases cases_of_mem_importList member with known | ⟨-, word, listed, rfl⟩
  · exact fixed name known
  -- The class has one part more than its package.
  · rw [isDottedIdentifier_iff_parts] at runtime ⊢
    intro part inside
    rw [partsOf_dot] at inside
    rcases List.mem_append.mp inside with front | back
    · exact runtime part front
    · exact isDottedIdentifier_iff_parts.mp (simple word listed) part back

/-- All names with dots are made of names, if the packages are. -/
theorem isDottedIdentifier_of_mem_dottedNames
    (package : handler.package = "" ∨ isDottedIdentifier handler.package = true)
    (runtime : isDottedIdentifier options.runtimePackage = true)
    (member : name ∈ dottedNames handler params options) : isDottedIdentifier name = true := by
  -- A name with dots is the package or one of the imports.
  rcases List.mem_append.mp member with own | imported
  · by_cases bare : handler.package = ""
    · simp [bare] at own
    · simp only [String.isEmpty_iff, bare, if_false, List.mem_singleton] at own
      rw [own]
      exact package.resolve_left bare
  · exact isDottedIdentifier_of_mem_importList runtime imported

/-- The names with dots hold no reserved name if the packages hold none. Without parameters nothing
is imported from the package of the request parsers. -/
theorem free_of_dottedNames_iff :
    (∀ name ∈ dottedNames handler params options, ∀ part ∈ partsOf '.' name,
      part ∉ reservedNames) ↔
      (∀ part ∈ partsOf '.' handler.package, part ∉ reservedNames) ∧
      (params.all ≠ [] → ∀ part ∈ partsOf '.' options.runtimePackage, part ∉ reservedNames) := by
  have fixed : ∀ name ∈ fixedClasses, ∀ part ∈ partsOf '.' name, part ∉ reservedNames := by
    decide +kernel
  have simple : ∀ name ∈ runtimeClasses, ∀ part ∈ partsOf '.' name, part ∉ reservedNames := by
    decide +kernel
  -- None of the known classes has a reserved part, so only the two packages may have one.
  constructor
  · intro free
    constructor
    · by_cases bare : handler.package = ""
      -- No package has one part, which is empty.
      · rw [bare]
        decide
      · exact free _ (List.mem_append_left _ (by simp [bare]))
    · intro filled part member
      -- The class that reads requests is imported with its package.
      have needed : options.runtimePackage ++ "." ++ "RequestParser" ∈
          importList options.runtimePackage params.all := by
        rw [String.append_assoc]
        simp [mem_importList, neededClasses, filled]
      have imported := free _ (List.mem_append_right _ needed)
      rw [partsOf_dot] at imported
      exact imported part (List.mem_append_left _ member)
  · rintro ⟨package, runtime⟩ name member part inside
    rcases cases_of_mem_dottedNames member with ⟨-, rfl⟩ | known | ⟨filled, word, listed, rfl⟩
    · exact package part inside
    · exact fixed name known part inside
    · rw [partsOf_dot] at inside
      rcases List.mem_append.mp inside with front | back
      · exact runtime filled part front
      · exact simple word listed part back

end

end TypedRoutes.Java

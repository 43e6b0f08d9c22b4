import TypedRoutes.Proofs.Generate.Compiled
import TypedRoutes.Proofs.Java.Names

/-! The names in the file of a route: Java accepts all of them, but for parts of packages and for
components of the record that it reserves. -/

namespace TypedRoutes.Manifest

open Java

/-- Java reads the file of a route as the names that are expected in it, and the class, the record
and the variables have legal names. So all names are legal exactly if no package has a part that is
reserved and no parameter is called like a method of every object. -/
theorem names_of_fileFor {text : String} {manifest : Manifest} {route : Route} {file : SourceFile}
    (accepted : Manifest.read text = .ok manifest) (member : route ∈ manifest.routes)
    (made : manifest.fileFor route = .ok file) :
    ∃ params arguments, parseParams route.template = .ok params ∧
      List.Forall₂ IsArgument params.all arguments ∧
      ReadAs file.source (unitLexemes (route.handler manifest.package) file.path params
        manifest.unitOptions arguments) ∧
      (∀ name ∈ dottedNames (route.handler manifest.package) params manifest.unitOptions,
        ∀ part ∈ partsOf '.' name, IsName part) ∧
      IsLegalName (route.handler manifest.package).generatedClass ∧
      IsLegalName (route.handler manifest.package).recordName ∧
      (∀ name ∈ localVariables params, IsLegalName name) ∧
      (LegalNames (route.handler manifest.package) params manifest.unitOptions ↔
        (∀ part ∈ partsOf '.' manifest.package, part ∉ reservedNames) ∧
        (params.all ≠ [] → ∀ part ∈ partsOf '.' manifest.runtimePackage, part ∉ reservedNames) ∧
        ∀ param ∈ params.all, param.name ∉ objectMethods) := by
  have valid := valid_of_read accepted
  have named := valid.named route member
  have proper : (route.handler manifest.package).Proper :=
    ⟨valid.package, named.className, named.method⟩
  -- The file is written for the parameters that the template has on its own.
  obtain ⟨tree, params, source, read, resolved, written, rfl⟩ := fileFor_eq_ok_iff.mp made
  have parsed := parseParams_eq_ok_iff.mpr ⟨tree, read, resolved⟩
  have joined {name : String}
      (inside : name ∈ dottedNames (route.handler manifest.package) params manifest.unitOptions) :
      isDottedIdentifier name = true :=
    isDottedIdentifier_of_mem_dottedNames valid.package valid.runtimePackage inside
  -- The indent of the files is a tab.
  have blank : ∀ c ∈ manifest.unitOptions.indent.toList, c ∈ [' ', '\t'] := by
    show ∀ c ∈ "\t".toList, c ∈ [' ', '\t']
    simp
  obtain ⟨arguments, given, whole⟩ := readAs_unitSource proper
    (fun name inside => joined (List.mem_append_right _ inside)) blank parsed written
  obtain ⟨code, coded, -⟩ := unitSource_eq_ok_iff.mp written
  -- Parameters pass two filters, the one for names and the one for words that code uses.
  have legal : ∀ param ∈ params.all, IsLegalName param.name :=
    fun param inside => isLegalName_of_codeFor parsed coded inside
  have locals : ∀ name ∈ localVariables params, IsLegalName name :=
    fun name inside => isLegalName_of_mem_localVariables legal inside
  have parts : ∀ name ∈ dottedNames (route.handler manifest.package) params manifest.unitOptions,
      ∀ part ∈ partsOf '.' name, IsName part :=
    fun name inside => isDottedIdentifier_iff_parts.mp (joined inside)
  obtain ⟨generated, record⟩ := proper.legal
  refine ⟨params, arguments, parsed, given, whole, parts, generated, record, locals, ?_⟩
  have free : (∀ name ∈ dottedNames (route.handler manifest.package) params manifest.unitOptions,
      ∀ part ∈ partsOf '.' name, part ∉ reservedNames) ↔ _ := free_of_dottedNames_iff
  -- What is left open is whether a part of a package is reserved, and whether a component is.
  constructor
  · intro names
    have apart := free.mp fun name inside part piece => (names.dotted name inside part piece).free
    exact ⟨apart.1, apart.2, fun param inside => (names.components param inside).2⟩
  · rintro ⟨package, runtime, components⟩
    have apart := free.mpr ⟨package, runtime⟩
    have dotted : ∀ name ∈ dottedNames (route.handler manifest.package) params
        manifest.unitOptions, ∀ part ∈ partsOf '.' name, IsLegalName part :=
      fun name inside part piece => ⟨parts name inside part piece, apart name inside part piece⟩
    exact ⟨dotted, generated, record, locals,
      fun param inside => ⟨legal param inside, components param inside⟩⟩

/-- A manifest with one route. -/
def oneRouteText (package template : String) : String :=
  joinLines ["package = \"" ++ package ++ "\"", "[[route]]", "class = \"A\"", "method = \"b\"",
    "path = \"" ++ template ++ "\""]

/-- The route of this manifest. -/
def onlyRoute (template : String) : Route :=
  ⟨"A", "b", template⟩

/-- What is read from the manifest. -/
def oneRoute (package template : String) : Manifest :=
  { package := package, routes := [onlyRoute template] }

/-- The parameters of a template with one number in its path. -/
def oneNumber (name : String) : ParamList :=
  ⟨[⟨name, .path, .int, none⟩], []⟩

/-- The code for the number. -/
def numberCode (name : String) : Code :=
  ⟨"record A_B_Params(int " ++ name ++ ") \x7b\x7d",
    ["Integer " ++ name ++ " = rp.getPathParam(\"" ++ name ++ "\", IntegerParser.create());"]⟩

/-- The only route has a file around its code, with the lines of the package and of the record. -/
theorem exists_file_onlyRoute (package template path : String) {params : ParamList} {code : Code}
    (joined : isDottedIdentifier package = true) (parsed : parseParams template = .ok params)
    (registered : registrationPath template ⟨.braces, .strip⟩ = .ok path)
    (coded : codeFor (onlyRoute template).codeNames params = .ok code) :
    ∃ file, (oneRoute package template).fileFor (onlyRoute template) = .ok file ∧
      "package " ++ package ++ ";" ∈ linesOf file.source ∧
      (params.all ≠ [] → recordLine ⟨package, "A", "b"⟩ params {} ∈ linesOf file.source) := by
  have named : isIdentifier "A" = true ∧ isIdentifier "b" = true := by decide
  have proper : (⟨package, "A", "b"⟩ : Handler).Proper := ⟨Or.inr joined, named.1, named.2⟩
  have tab : ∀ c ∈ "\t".toList, isControl c = true → c = '\t' := by simp
  have pasted : (oneRoute package template).unitOptions.Proper :=
    ⟨(by decide : isDottedIdentifier defaultRuntimePackage = true), tab⟩
  -- The template compiles, so the file is the one around the code.
  have compiles : (oneRoute package template).compiled (onlyRoute template) =
      .ok ⟨path, params, code⟩ := compile_eq_ok_iff.mpr ⟨parsed, registered, coded⟩
  refine ⟨_, fileFor_of_compiled compiles, ?_⟩
  have lines : linesOf ((oneRoute package template).fileAround (onlyRoute template)
      ⟨path, params, code⟩).source = unitLines ⟨package, "A", "b"⟩ path params
        (oneRoute package template).unitOptions code := linesOf_unitLines proper pasted parsed coded
  have groups : unitLines ⟨package, "A", "b"⟩ path params (oneRoute package template).unitOptions
      code = _ := unitLines_eq path coded
  rw [lines, groups]
  constructor
  · have filled : package ≠ "" := by
      rintro rfl
      exact absurd joined (by decide)
    simp [leadLines, filled]
  · intro some
    rw [if_neg some]
    -- The record is the last line but one.
    simp only [List.mem_append]
    right; right; right; right
    exact List.mem_append_right [_, _, _, _] List.mem_cons_self

/-- A manifest with a proper package and a common name for its parameter has legal names only. -/
theorem names_of_fileFor_id :
    Manifest.read (oneRouteText "my.test" "/\x7bint:id\x7d") =
        .ok (oneRoute "my.test" "/\x7bint:id\x7d") ∧
      parseParams "/\x7bint:id\x7d" = .ok (oneNumber "id") ∧
      LegalNames ⟨"my.test", "A", "b"⟩ (oneNumber "id") {} := by
  have accepted : Manifest.read (oneRouteText "my.test" "/\x7bint:id\x7d") =
      .ok (oneRoute "my.test" "/\x7bint:id\x7d") := by decide +kernel
  have parsed : parseParams "/\x7bint:id\x7d" = .ok (oneNumber "id") := by rfl
  have coded : codeFor (onlyRoute "/\x7bint:id\x7d").codeNames (oneNumber "id") =
      .ok (numberCode "id") := by rfl
  obtain ⟨file, made, -, -⟩ := exists_file_onlyRoute "my.test" _ "/\x7bid\x7d" (by decide) parsed
    (by rfl) coded
  have member : onlyRoute "/\x7bint:id\x7d" ∈ (oneRoute "my.test" "/\x7bint:id\x7d").routes :=
    List.mem_singleton_self _
  obtain ⟨params, arguments, again, -, -, -, -, -, -, legal⟩ :=
    names_of_fileFor accepted member made
  cases parsed.symm.trans again
  exact ⟨accepted, parsed, legal.mpr ⟨by decide, fun _ => by decide, by decide⟩⟩

/-- A component may be called like a method of every object, and a part of a package may be a
reserved word. -/
theorem names_of_fileFor_reserved :
    (Manifest.read (oneRouteText "my.test" "/\x7bint:hashCode\x7d") =
        .ok (oneRoute "my.test" "/\x7bint:hashCode\x7d") ∧
      parseParams "/\x7bint:hashCode\x7d" = .ok (oneNumber "hashCode") ∧
      (∃ file, (oneRoute "my.test" "/\x7bint:hashCode\x7d").fileFor
          (onlyRoute "/\x7bint:hashCode\x7d") = .ok file ∧
        "\trecord A_B_Params(int hashCode) \x7b\x7d" ∈ linesOf file.source) ∧
      ¬ LegalNames ⟨"my.test", "A", "b"⟩ (oneNumber "hashCode") {}) ∧
    Manifest.read (oneRouteText "my.class" "/") = .ok (oneRoute "my.class" "/") ∧
      parseParams "/" = .ok ⟨[], []⟩ ∧
      (∃ file, (oneRoute "my.class" "/").fileFor (onlyRoute "/") = .ok file ∧
        "package my.class;" ∈ linesOf file.source) ∧
      ¬ LegalNames ⟨"my.class", "A", "b"⟩ ⟨[], []⟩ {} := by
  refine ⟨⟨by decide +kernel, by rfl, ?_, ?_⟩, by decide +kernel, by rfl, ?_, ?_⟩
  -- The record line of the file is computed from the template.
  · have parsed : parseParams "/\x7bint:hashCode\x7d" = .ok (oneNumber "hashCode") := by rfl
    have coded : codeFor (onlyRoute "/\x7bint:hashCode\x7d").codeNames (oneNumber "hashCode") =
        .ok (numberCode "hashCode") := by rfl
    obtain ⟨file, made, -, record⟩ := exists_file_onlyRoute "my.test" _ "/\x7bhashCode\x7d"
      (by decide) parsed (by rfl) coded
    have shape : recordLine ⟨"my.test", "A", "b"⟩ (oneNumber "hashCode") {} =
        "\trecord A_B_Params(int hashCode) \x7b\x7d" := by decide +kernel
    exact ⟨file, made, shape ▸ record (List.cons_ne_nil _ _)⟩
  -- A legal component would have another name.
  · intro legal
    have component := (legal.components ⟨"hashCode", .path, .int, none⟩ (by decide)).2
    exact component (by decide)
  · have parsed : parseParams "/" = .ok ⟨[], []⟩ := by rfl
    have coded : codeFor (onlyRoute "/").codeNames ⟨[], []⟩ =
        .ok ⟨"record A_B_Params() \x7b\x7d", []⟩ := by rfl
    obtain ⟨file, made, package, -⟩ := exists_file_onlyRoute "my.class" _ "/" (by decide) parsed
      (by rfl) coded
    exact ⟨file, made, package⟩
  · intro legal
    have part := (legal.dotted "my.class" (by decide) "class" (by decide)).free
    exact part (by decide)

end TypedRoutes.Manifest

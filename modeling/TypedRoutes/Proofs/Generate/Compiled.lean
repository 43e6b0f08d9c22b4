import TypedRoutes.Proofs.Compile.Default
import TypedRoutes.Proofs.Generate.Basic
import TypedRoutes.Proofs.Java.Imports
import TypedRoutes.Proofs.Java.Unit

/-! The file of a route holds what its template compiles to on its own, and there is no other reason
for a route to have no file. -/

namespace TypedRoutes

/-- The names in the code of a route, whatever the rest of its file is. -/
def Route.codeNames (route : Route) : Java.CodeNames :=
  ⟨"rp", route.className ++ "_" ++ upperFirst route.method ++ "_Params", ["ctx"]⟩

namespace Manifest

/-- What the template of a route compiles to on its own. -/
def compiled (manifest : Manifest) (route : Route) : Except CompileError RouteCode :=
  compile route.template manifest.pathOptions route.codeNames

/-- What a file has of the code of its route. -/
structure Holds (manifest : Manifest) (route : Route) (compiled : RouteCode) (file : SourceFile) :
    Prop where
  /-- The path is that of the code. -/
  path : file.path = compiled.path
  /-- It is also the one that the template is registered under. -/
  registered : registrationPath route.template manifest.pathOptions = .ok file.path
  /-- Parameters have their statements one behind the other, and the record stands below. -/
  statements : compiled.params.all ≠ [] → ∃ above, file.source = joinLines (above ++
    compiled.code.statements.map ("\t\t" ++ ·) ++
    ["",
      "\t\treturn new " ++ route.codeNames.record ++ "(" ++
        ", ".intercalate (compiled.params.all.map Param.name) ++ ");",
      "\t\x7d",
      "",
      "\t" ++ compiled.code.recordDeclaration,
      "\x7d"])
  /-- Without parameters there is nothing behind the path. -/
  bare : compiled.params.all = [] → ∃ above, file.source = joinLines (above ++
    ["\tstatic final String PATH = " ++ Java.quote file.path ++ ";", "", "\x7d"])

variable {manifest : Manifest} {route : Route} {file : SourceFile} {compiled : RouteCode}

/-- The code inside a file is written with the names of its route. -/
theorem codeNames_handler (route : Route) (package : String) :
    (route.handler package).codeNames = route.codeNames :=
  rfl

/-- The file around some code. -/
def fileAround (manifest : Manifest) (route : Route) (compiled : RouteCode) : SourceFile :=
  ⟨(route.handler manifest.package).fileName, compiled.path, joinLines (Java.unitLines
    (route.handler manifest.package) compiled.path compiled.params manifest.unitOptions
    compiled.code)⟩

/-- A route has the file around its code, or the error of its code. -/
theorem fileFor_eq_map (manifest : Manifest) (route : Route) :
    manifest.fileFor route = (manifest.compiled route).map (manifest.fileAround route) := by
  -- Both read the tree and its parameters first, and write the code with the same names.
  simp only [fileFor, Manifest.compiled, compile, ofTemplate, ofCode, Java.unitSource,
    codeNames_handler]
  -- The steps fail together, one after the other.
  cases parseTree route.template with
  | error error => rfl
  | ok tree =>
    cases resolved : tree.resolve with
    | error error => simp [resolved, Except.mapError, bind, Except.bind, Except.map]
    | ok params =>
      cases written : Java.codeFor route.codeNames params with
      | error error => simp [resolved, written, Except.mapError, bind, Except.bind, Except.map]
      | ok code =>
        -- No look-up of an import fails, so the file is the one around the code.
        simp [resolved, written, Java.collectImports_eq, Except.mapError, bind, Except.bind, pure,
          Except.pure, Except.map, fileAround, Java.unitLines]

/-- With code there is the file around it. -/
theorem fileFor_of_compiled (made : manifest.compiled route = .ok compiled) :
    manifest.fileFor route = .ok (manifest.fileAround route compiled) := by
  -- The file is the image of the code.
  rw [fileFor_eq_map, made]
  rfl

/-- What is refused for its template is refused before any code is written. -/
theorem compile_of_parseParams_error {template : String} {error : TemplateError}
    (refused : parseParams template = .error error) (options : PathOptions)
    (names : Java.CodeNames) : compile template options names = .error (.template error) := by
  unfold parseParams at refused
  unfold compile
  -- Either there is no tree, or its parameters cannot be resolved.
  cases read : parseTree template with
  | error fault =>
    simp only [read, bind, Except.bind, Except.error.injEq] at refused
    simp [ofTemplate, Except.mapError, bind, Except.bind, refused]
  | ok tree =>
    simp only [read, bind, Except.bind] at refused
    simp [ofTemplate, refused, Except.mapError, bind, Except.bind]

/-- What is refused for its code has the parameters that no code can be written for. -/
theorem codeFor_of_compile_error {template : String} {options : PathOptions}
    {names : Java.CodeNames} {error : Java.CodeError}
    (refused : compile template options names = .error (.code error)) :
    ∃ params, parseParams template = .ok params ∧ Java.codeFor names params = .error error := by
  cases parsed : parseParams template with
  | error fault =>
    rw [compile_of_parseParams_error parsed] at refused
    cases refused
  | ok params =>
    -- With a tree and parameters, only the code is left to fail.
    obtain ⟨tree, read, resolved⟩ := parseParams_eq_ok_iff.mp parsed
    cases written : Java.codeFor names params with
    | error fault =>
      simp only [compile, read, resolved, written, ofTemplate, ofCode, Except.mapError, bind,
        Except.bind, Except.error.injEq, CompileError.code.injEq] at refused
      exact ⟨params, rfl, refused ▸ written⟩
    | ok code =>
      simp [compile, read, resolved, written, ofTemplate, ofCode, Except.mapError, bind,
        Except.bind, pure, Except.pure] at refused

/-- The file around the code of a route holds the code. -/
theorem holds_fileAround (made : manifest.compiled route = .ok compiled) :
    manifest.Holds route compiled (manifest.fileAround route compiled) := by
  obtain ⟨parsed, registered, written⟩ := compile_eq_ok_iff.mp made
  have lines : Java.unitLines (route.handler manifest.package) compiled.path compiled.params
      manifest.unitOptions compiled.code = _ := Java.unitLines_eq compiled.path written
  refine ⟨rfl, registered, ?_, ?_⟩
  · intro filled
    rw [if_neg filled] at lines
    have record := (Java.codeFor_eq_ok_iff.mp written).2
    -- The statements stand between the head of the method and its end.
    refine ⟨Java.leadLines (route.handler manifest.package) compiled.params manifest.unitOptions ++
      (Java.classLines (route.handler manifest.package) compiled.path manifest.unitOptions ++
        Java.openingLines (route.handler manifest.package) manifest.unitOptions), ?_⟩
    show joinLines _ = _
    rw [lines, record]
    simp only [List.append_assoc]
    rfl
  · intro empty
    rw [if_pos empty] at lines
    -- The constant for the path is the seventh line of the class.
    refine ⟨Java.leadLines (route.handler manifest.package) compiled.params manifest.unitOptions ++
      (Java.classLines (route.handler manifest.package) compiled.path manifest.unitOptions).take 6,
      ?_⟩
    show joinLines _ = _
    rw [lines, List.append_assoc]
    rfl

/-- A route has a file exactly if its template compiles, and the file holds the code that it
compiles to. Otherwise both have the same error: that of the template, and only if there is none that
of the code. Collecting the imports adds no error. -/
theorem fileFor_agrees (manifest : Manifest) (route : Route) :
    (∀ error, manifest.fileFor route = .error error ↔ manifest.compiled route = .error error) ∧
    (∀ compiled, manifest.compiled route = .ok compiled → ∃ file,
      manifest.fileFor route = .ok file) ∧
    (∀ file, manifest.fileFor route = .ok file → ∃ compiled,
      manifest.compiled route = .ok compiled ∧ manifest.Holds route compiled file) ∧
    (∀ error, parseParams route.template = .error error →
      manifest.fileFor route = .error (.template error)) ∧
    (∀ error, manifest.fileFor route = .error (.code error) → ∃ params,
      parseParams route.template = .ok params ∧
      Java.codeFor route.codeNames params = .error error) ∧
    ∀ params, Java.collectImports manifest.runtimePackage params =
      .ok (Java.importList manifest.runtimePackage params) := by
  have same := manifest.fileFor_eq_map route
  -- A file around the code neither adds an error nor hides one.
  have errors (error : CompileError) :
      manifest.fileFor route = .error error ↔ manifest.compiled route = .error error := by
    rw [same]
    cases manifest.compiled route <;> simp [Except.map]
  refine ⟨errors, ?_, ?_, ?_, ?_, Java.collectImports_eq _⟩
  -- Writing the file cannot fail.
  · exact fun compiled made => ⟨_, fileFor_of_compiled made⟩
  · intro file generated
    cases made : manifest.compiled route with
    | error error =>
      rw [same, made] at generated
      cases generated
    | ok compiled =>
      rw [same, made] at generated
      cases generated
      exact ⟨compiled, rfl, holds_fileAround made⟩
  · intro error refused
    rw [errors]
    exact compile_of_parseParams_error refused _ _
  · intro error refused
    rw [errors] at refused
    exact codeFor_of_compile_error refused

/-- A route with a template. -/
def pageRoute (template : String) : Route :=
  ⟨"Pages", "list", template⟩

/-- A wrong default is an error of the code, which a repeated name comes before; with a default of
its type there is a file. -/
theorem fileFor_agrees_pages :
    ({} : Manifest).fileFor (pageRoute "/\x7bint:n=x\x7d?n=\x7bint\x7d") =
        .error (.template (.repeatedName "n" ⟨6, 7⟩ ⟨11, 12⟩)) ∧
      (∃ params, parseParams "/\x7bint:n=x\x7d" = .ok params ∧
        Java.codeFor (pageRoute "/\x7bint:n=x\x7d").codeNames params =
          .error (.badDefault "n" .int "x")) ∧
      ∃ compiled file,
        ({} : Manifest).compiled (pageRoute "/\x7bint:n=1\x7d") = .ok compiled ∧
        ({} : Manifest).fileFor (pageRoute "/\x7bint:n=1\x7d") = .ok file ∧
        ({} : Manifest).Holds (pageRoute "/\x7bint:n=1\x7d") compiled file := by
  have repeated : parseParams "/\x7bint:n=x\x7d?n=\x7bint\x7d" =
      .error (.repeatedName "n" ⟨6, 7⟩ ⟨11, 12⟩) := by rfl
  have wrong : ({} : Manifest).fileFor (pageRoute "/\x7bint:n=x\x7d") =
      .error (.code (.badDefault "n" .int "x")) := by rfl
  -- A number with a number as its default compiles, and its file is written.
  have compiles : ∃ compiled, ({} : Manifest).compiled (pageRoute "/\x7bint:n=1\x7d") =
      .ok compiled := ⟨_, by rfl⟩
  obtain ⟨compiled, made⟩ := compiles
  obtain ⟨file, generated⟩ := (fileFor_agrees {} (pageRoute "/\x7bint:n=1\x7d")).2.1 compiled made
  obtain ⟨again, same, holds⟩ :=
    (fileFor_agrees {} (pageRoute "/\x7bint:n=1\x7d")).2.2.1 file generated
  cases made.symm.trans same
  exact ⟨(fileFor_agrees {} (pageRoute "/\x7bint:n=x\x7d?n=\x7bint\x7d")).2.2.2.1 _ repeated,
    (fileFor_agrees {} (pageRoute "/\x7bint:n=x\x7d")).2.2.2.2.1 _ wrong, compiled, file, made,
    generated, holds⟩

end Manifest

end TypedRoutes

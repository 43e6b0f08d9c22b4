import TypedRoutes.Compile
import TypedRoutes.Proofs.Java.Statement
import TypedRoutes.Proofs.RegistrationPath.Concatenation
import TypedRoutes.Proofs.Template.Gap

/-! Another text for one default: it stays in its place, whatever it is. -/

namespace TypedRoutes

/-- A text with another one in the place of a span. -/
def Span.replace (span : Span) (text other : String) : String :=
  String.ofList (takeBytes span.start text.toList ++
    (other.toList ++ dropBytes span.stop text.toList))

/-! Templates. -/

/-- Parameters of the same names are declared by a tree that gives what they say. -/
theorem PlainTree.Declares.of_names {tree other : PlainTree} {params edited : ParamList}
    (declares : tree.Declares params)
    (path : List.Forall₂ (PlainDeclaration.Gives .path) other.pathDeclarations edited.path)
    (query : List.Forall₂ (PlainDeclaration.Gives .query) other.queryDeclarations edited.query)
    (names : edited.all.map Param.name = params.all.map Param.name) : other.Declares edited := by
  -- Whether names are proper and differ is a matter of the names alone.
  refine ⟨path, query, ?_, names ▸ declares.distinct⟩
  have proper := List.forall_mem_map.mpr declares.proper
  rw [← names] at proper
  exact List.forall_mem_map.mp proper

namespace Gap

/-- The template with another default is that of the tree with another default. -/
theorem replace_default {gap : Gap} {declaration : PlainDeclaration} {default : Located String}
    (present : (declaration.placeIn gap.source (byteSize gap.lead)).value.default = some default)
    (text : String) :
    default.span.replace (gap.fill declaration).source text =
      (gap.fill (declaration.withDefault text)).source := by
  obtain ⟨shape, start, stop⟩ := PlainDeclaration.default_placeIn present
  -- The default stands between its opening and the closing brace.
  have written (value : String) : (gap.fill (declaration.withDefault value)).source.toList =
      (gap.lead ++ declaration.opening gap.source) ++ (value.toList ++ ('}' :: gap.rest)) := by
    rw [gap.source_fill, PlainDeclaration.sourceIn_withDefault]
    simp
  have original := written default.value
  rw [← shape] at original
  -- Replacing keeps what stands before the default and what stands behind it.
  apply String.toList_inj.mp
  have front : takeBytes default.span.start (gap.fill declaration).source.toList =
      gap.lead ++ declaration.opening gap.source := by
    rw [original, start, ← byteSize_append, takeBytes_byteSize_append]
  have back : dropBytes default.span.stop (gap.fill declaration).source.toList =
      '}' :: gap.rest := by
    rw [original, stop, start, ← byteSize_append, dropBytes_byteSize_add,
      dropBytes_byteSize_append]
  rw [Span.replace, front, back, String.toList_ofList, written]

/-- A tree with another default declares the same parameters but for that default. -/
theorem declares_withDefault {gap : Gap} {declaration : PlainDeclaration} {params : ParamList}
    (declares : (gap.fill declaration).Declares params) (text : String) :
    ∃ edited, (gap.fill (declaration.withDefault text)).Declares edited ∧
      edited.path.length = params.path.length ∧
      edited.all = params.all.modify gap.earlier.length
        fun param => { param with default := some text } := by
  obtain ⟨path, query⟩ := params
  have inPath := declares.path
  have inQuery := declares.query
  -- The parameter of the declaration is as far behind the first as the gap is.
  cases gap with
  | path before front back after ending =>
    let earlier := (before.flatMap fun parts => parts.filterMap PlainPart.declaration?) ++
      front.filterMap PlainPart.declaration?
    let later := back.filterMap PlainPart.declaration? ++
      after.flatMap fun parts => parts.filterMap PlainPart.declaration?
    have split (other : PlainDeclaration) :
        ((Gap.path before front back after ending).fill other).pathDeclarations =
          earlier ++ other :: later := by
      simp [fill, PlainTree.pathDeclarations, PlainPart.declaration?, earlier, later]
    rw [split] at inPath
    obtain ⟨begun, param, ended, rfl, same, given, rest⟩ := exists_split_of_forall₂ inPath
    refine ⟨⟨begun ++ { param with default := some text } :: ended, query⟩,
      declares.of_names ?_ inQuery (by simp [ParamList.all]), by simp, ?_⟩
    · rw [split]
      exact List.rel_append same (.cons ⟨given.name, given.source, given.type, rfl⟩ rest)
    · have count : (Gap.path before front back after ending).earlier.length = begun.length :=
        same.length_eq
      simp [ParamList.all, count, modify_middle]
  -- In the query the parameters of the path come first, and the others follow the front of the gap.
  | query segments front back =>
    obtain ⟨begun, param, ended, rfl, same, given, rest⟩ := exists_split_of_forall₂ inQuery
    refine ⟨⟨path, begun ++ { param with default := some text } :: ended⟩,
      declares.of_names inPath ?_ (by simp [ParamList.all]), rfl, ?_⟩
    · exact List.rel_append same (.cons ⟨given.name, given.source, given.type, rfl⟩ rest)
    -- The parameters of the path come first.
    · have passed : (segments.flatMap fun parts => parts.filterMap PlainPart.declaration?).length =
          path.length := inPath.length_eq
      have count : (Gap.query segments front back).earlier.length = (path ++ begun).length := by
        simp only [earlier, List.length_append, passed, same.length_eq]
      show path ++ (begun ++ _ :: ended) = (path ++ (begun ++ _ :: ended)).modify _ _
      rw [count, ← List.append_assoc, ← List.append_assoc, modify_middle]

end Gap

/-! Code. -/

/-- A template yields its parameters, its registration path and the code for its parameters. -/
theorem compile_eq_ok_iff {template : String} {options : PathOptions} {names : Java.CodeNames}
    {route : RouteCode} :
    compile template options names = .ok route ↔
      parseParams template = .ok route.params ∧
      registrationPath template options = .ok route.path ∧
      Java.codeFor names route.params = .ok route.code := by
  obtain ⟨path, params, code⟩ := route
  simp only [compile, ofTemplate, ofCode, bind_eq_ok_iff, mapError_eq_ok_iff, pure, Except.pure,
    Except.ok.injEq, parseParams_eq_ok_iff]
  constructor
  · rintro ⟨tree, read, found, resolved, code, written, made⟩
    cases made
    exact ⟨⟨tree, read, resolved⟩, registrationPath_of_resolve read resolved options, written⟩
  · rintro ⟨⟨tree, read, resolved⟩, registered, written⟩
    -- The tree that gives the parameters gives the path.
    rw [registrationPath_of_resolve read resolved options] at registered
    cases registered
    exact ⟨tree, read, params, resolved, code, written, rfl⟩

/-- Code for parameters that differ in one default differs in no more than the statement for it. -/
theorem code_of_modify {names : Java.CodeNames} {params edited : ParamList} {code other : Java.Code}
    {index : Nat} {text : String}
    (differ : edited.all = params.all.modify index fun param => { param with default := some text })
    (written : Java.codeFor names params = .ok code)
    (rewritten : Java.codeFor names edited = .ok other) :
    code.recordDeclaration = other.recordDeclaration ∧
      code.statements.length = other.statements.length ∧
      ∀ place, place ≠ index → code.statements[place]? = other.statements[place]? := by
  obtain ⟨each, record⟩ := Java.codeFor_eq_ok_iff.mp written
  obtain ⟨every, declared⟩ := Java.codeFor_eq_ok_iff.mp rewritten
  refine ⟨?_, ?_, ?_⟩
  -- A component shows the name and the type.
  · have components : edited.all.map Java.component = params.all.map Java.component := by
      apply List.ext_getElem?
      intro place
      rw [differ, List.getElem?_map, List.getElem?_map, List.getElem?_modify]
      cases params.all[place]? with
      | none => rfl
      | some param =>
        by_cases here : index = place <;> simp [here, Java.component]
    rw [record, declared, Java.recordDeclaration, Java.recordDeclaration, components]
  -- There is a statement for each parameter.
  · have first := (forall₂_of_mapM each).length_eq
    have second := (forall₂_of_mapM every).length_eq
    rw [differ, List.length_modify] at second
    omega
  -- In any other place the parameter is the same, and so is its statement.
  · intro place elsewhere
    have same : edited.all[place]? = params.all[place]? := by
      rw [differ, List.getElem?_modify_ne _ _ (Ne.symm elsewhere)]
    have first := getElem?_of_mapM each place
    have second := getElem?_of_mapM every place
    rw [same, first] at second
    exact Option.map_injective (fun _ _ => Except.ok.inj) second

/-- A default may be replaced by any text without braces. The template stays accepted, with the same
parameters but for that default, and with the same registration paths; and in code that is written
for both, only the statement for that parameter may differ. -/
theorem parseParams_replace_default {template : String} {tree : TemplateTree} {params : ParamList}
    {index : Nat} {entry : Entry} {default : Located String} {text : String}
    (accepted : parseParams template = .ok params) (read : parseTree template = .ok tree)
    (declared : tree.entries[index]? = some entry)
    (present : entry.declaration.default = some default)
    (free : FilledWithout ['{', '}'] text) :
    (∃ edited, parseParams (default.span.replace template text) = .ok edited ∧
      edited.path.length = params.path.length ∧
      edited.all = params.all.modify index fun param => { param with default := some text }) ∧
    (∀ style, ∃ path, registrationPath template ⟨style, .strip⟩ = .ok path ∧
      registrationPath (default.span.replace template text) ⟨style, .strip⟩ = .ok path) ∧
    ∀ options names route other, compile template options names = .ok route →
      compile (default.span.replace template text) options names = .ok other →
      route.code.recordDeclaration = other.code.recordDeclaration ∧
      route.code.statements.length = other.code.statements.length ∧
      ∀ place, place ≠ index → route.code.statements[place]? = other.code.statements[place]? := by
  have resolved := resolve_of_parseParams accepted read
  -- The default stands in a gap of a tree that does not depend on it.
  obtain ⟨plain, wellFormed, rfl, rfl⟩ := parseTree_eq_ok_iff.mp read
  obtain ⟨gap, declaration, rfl, rfl, rfl⟩ := exists_gap declared
  -- The other default may stand in the gap as well.
  have proper := PlainDeclaration.wellFormed_withDefault (Gap.wellFormed_of_fill wellFormed) free
  have written := Gap.wellFormed_fill wellFormed proper
  have declares := TemplateTree.resolve_eq_ok_iff_declares.mp resolved
  rw [PlainTree.plain_place] at declares
  obtain ⟨edited, given, count, differ⟩ := Gap.declares_withDefault declares text
  rw [Gap.replace_default present]
  -- The gap with the other default is a tree that can be written, so it is read back.
  have reread : parseTree (gap.fill (declaration.withDefault text)).source =
      .ok (gap.fill (declaration.withDefault text)).place :=
    parseTree_eq_ok_iff.mpr ⟨_, written, rfl, rfl⟩
  have settled : (gap.fill (declaration.withDefault text)).place.resolve = .ok edited := by
    rw [TemplateTree.resolve_eq_ok_iff_declares, PlainTree.plain_place]
    exact given
  have admitted := parseParams_eq_ok_iff.mpr ⟨_, reread, settled⟩
  refine ⟨⟨edited, admitted, count, differ⟩, ?_, ?_⟩
  · intro style
    refine ⟨_, registrationPath_of_resolve read resolved _, ?_⟩
    rw [registrationPath_of_resolve reread settled]
    -- Neither form of the path shows a default.
    have bare := gap.skeleton_fill
      (show (declaration.withDefault text).name = declaration.name from rfl)
    simp [TemplateTree.registrationPath, TemplateTree.barePath_eq_skeleton, bare]
  -- What both compile to are the codes for the two lists of parameters.
  · intro options names route other made remade
    obtain ⟨same, -, code⟩ := compile_eq_ok_iff.mp made
    obtain ⟨too, -, otherCode⟩ := compile_eq_ok_iff.mp remade
    rw [accepted, Except.ok.injEq] at same
    rw [admitted, Except.ok.injEq] at too
    subst same too
    exact code_of_modify differ code otherCode

/-- A template with a default in its path and another in its query. -/
def markedTemplate (text : String) : String :=
  "/é\x7bstring:a=" ++ text ++ "\x7d?n=\x7bint=1\x7d"

/-- The tree of the template with a plain letter as its default. -/
def markedTree : PlainTree :=
  ⟨[[.literal "é", .placeholder ⟨"string", "a", some "x"⟩]], some [⟨"int", "n", some "1"⟩]⟩

/-- The statements for the template, where the default stands in the first one only. -/
def markedStatements (text : String) : List String :=
  ["String a = rp.getPathParam(\"a\", \"" ++ text ++ "\", StringParser.create());",
    "Integer n = rp.getQueryParam(\"n\", 1, IntegerParser.create());"]

/-- Marks that mean something elsewhere in a template do not leave the default. -/
theorem parseParams_replace_default_marks :
    parseParams (markedTemplate "x") =
        .ok ⟨[⟨"a", .path, .string, some "x"⟩], [⟨"n", .query, .int, some "1"⟩]⟩ ∧
      parseTree (markedTemplate "x") = .ok markedTree.place ∧
      Span.replace ⟨13, 14⟩ (markedTemplate "x") "/?&=: x" = markedTemplate "/?&=: x" ∧
      (∃ edited, parseParams (markedTemplate "/?&=: x") = .ok edited ∧ edited.path.length = 1 ∧
        edited.all = [⟨"a", .path, .string, some "/?&=: x"⟩, ⟨"n", .query, .int, some "1"⟩]) ∧
      (∀ style, ∃ path, registrationPath (markedTemplate "x") ⟨style, .strip⟩ = .ok path ∧
        registrationPath (markedTemplate "/?&=: x") ⟨style, .strip⟩ = .ok path) ∧
      (∀ options names route other, compile (markedTemplate "x") options names = .ok route →
        compile (markedTemplate "/?&=: x") options names = .ok other →
        route.code.recordDeclaration = other.code.recordDeclaration ∧
        route.code.statements.length = other.code.statements.length ∧
        ∀ place, place ≠ 0 → route.code.statements[place]? = other.code.statements[place]?) ∧
      ∃ route other, compile (markedTemplate "x") {} {} = .ok route ∧
        compile (markedTemplate "/?&=: x") {} {} = .ok other ∧
        route.code.statements = markedStatements "x" ∧
        other.code.statements = markedStatements "/?&=: x" ∧
        route.code.recordDeclaration = other.code.recordDeclaration ∧
        route.code.statements[1]? = other.code.statements[1]? := by
  have accepted : parseParams (markedTemplate "x") =
      .ok ⟨[⟨"a", .path, .string, some "x"⟩], [⟨"n", .query, .int, some "1"⟩]⟩ := by rfl
  have read : parseTree (markedTemplate "x") = .ok markedTree.place := by rfl
  have declared : markedTree.place.entries[0]? = some ⟨.path,
      ⟨⟨"string", ⟨4, 10⟩⟩, ⟨"a", ⟨11, 12⟩⟩, some ⟨"x", ⟨13, 14⟩⟩⟩⟩ := by rfl
  have free : FilledWithout ['{', '}'] "/?&=: x" := by decide
  have replaced : Span.replace ⟨13, 14⟩ (markedTemplate "x") "/?&=: x" =
      markedTemplate "/?&=: x" := by rfl
  have whole := parseParams_replace_default accepted read declared rfl free
  rw [replaced] at whole
  obtain ⟨edited, paths, code⟩ := whole
  -- Code is written for both templates, so the last part says something about it.
  obtain ⟨route, made, statements⟩ : ∃ route, compile (markedTemplate "x") {} {} = .ok route ∧
      route.code.statements = markedStatements "x" := ⟨_, by rfl, by rfl⟩
  obtain ⟨other, remade, others⟩ : ∃ other, compile (markedTemplate "/?&=: x") {} {} = .ok other ∧
      other.code.statements = markedStatements "/?&=: x" := ⟨_, by rfl, by rfl⟩
  obtain ⟨record, -, elsewhere⟩ := code {} {} route other made remade
  exact ⟨accepted, read, replaced, edited, paths, code, route, other, made, remade, statements,
    others, record, elsewhere 1 (by decide)⟩

end TypedRoutes

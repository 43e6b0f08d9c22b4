import TypedRoutes.Proofs.Param.Declares
import TypedRoutes.Proofs.RegistrationPath.Concatenation
import TypedRoutes.Proofs.Template.Places

/-! The query of a template stands behind its path and changes nothing in it: without the query the
path is read in the same way, and with it the registration path is only longer. -/

namespace TypedRoutes

/-- The tree with its path only. -/
def PlainTree.withoutQuery (tree : PlainTree) : PlainTree :=
  { tree with query := none }

/-- The tree with its path only; its places stay. -/
def TemplateTree.withoutQuery (tree : TemplateTree) : TemplateTree :=
  { tree with query := none }

/-- A template that is cut into its path and its query. -/
structure CutAt (template front back : String) (tree : TemplateTree) (params : ParamList)
    (query : Span) : Prop where
  /-- Nothing is lost. -/
  whole : template = front ++ back
  /-- The query starts with its question mark. -/
  mark : back.toList.head? = some '?'
  /-- The cut is where the span of the query starts. -/
  start : query.start = byteSize front.toList
  /-- The span stops at the end of the template. -/
  stop : query.stop = byteSize template.toList
  /-- What the span covers is the query. -/
  slice : query.slice template = back
  /-- The path alone is read as it is in front of the query. -/
  read : parseTree front = .ok tree.withoutQuery
  /-- It declares the parameters of the path, and no others. -/
  declared : parseParams front = .ok ⟨params.path, []⟩

/-! The path of a tree. -/

/-- Without its query, a tree is written as its path. -/
theorem PlainTree.source_withoutQuery (tree : PlainTree) :
    tree.withoutQuery.source = tree.pathSource := by
  -- Where there is no query, nothing is written behind the path.
  simp [source, withoutQuery, pathSource, querySource]

/-- Without its query, a tree can still be written. -/
theorem PlainTree.wellFormed_withoutQuery {tree : PlainTree} (wellFormed : tree.WellFormed) :
    tree.withoutQuery.WellFormed := by
  -- All conditions on the path stay, and those on the query hold of none.
  refine ⟨wellFormed.path, wellFormed.parts, wellFormed.apart, ?_, ?_⟩
  · exact nofun
  · exact nofun

/-- The path alone declares the parameters that it declares in front of the query. -/
theorem PlainTree.Declares.withoutQuery {tree : PlainTree} {params : ParamList}
    (declares : tree.Declares params) : tree.withoutQuery.Declares ⟨params.path, []⟩ := by
  -- These are the first of all parameters, so they have proper names that differ.
  have front : (ParamList.mk params.path []).all = params.path := List.append_nil _
  have first : params.path.Sublist params.all := List.sublist_append_left _ _
  refine ⟨declares.path, .nil, ?_, ?_⟩
  · intro param member
    rw [front] at member
    exact declares.proper param (first.subset member)
  · rw [front]
    exact declares.distinct.sublist (first.map Param.name)

/-- The path of a template is read alone as it is in front of the query. -/
theorem cutAt_query {plain : PlainTree} {params : ParamList} {query : Located _}
    (wellFormed : plain.WellFormed) (resolved : plain.place.resolve = .ok params)
    (present : plain.place.query = some query) :
    CutAt plain.source plain.pathSource plain.querySource plain.place params query.span := by
  -- The plain tree has a query as well, from whose written form the places are counted.
  obtain ⟨declarations, written, rfl⟩ := Option.map_eq_some_iff.mp present
  have read : parseTree plain.pathSource = .ok plain.place.withoutQuery := by
    rw [← plain.source_withoutQuery]
    exact parseTree_source (PlainTree.wellFormed_withoutQuery wellFormed)
  have covers := (plain.exactIn_source.rest _ present).2
  refine ⟨rfl, ?_, rfl, rfl, ?_, read, ?_⟩
  · simp [PlainTree.querySource, written]
  · have shape := covers.slice
    simp only [plain_placeDeclarations] at shape
    simpa [PlainTree.querySource, written] using shape
  -- Parameters do not depend on places, so those of the path are the same.
  · refine parseParams_eq_ok_iff.mpr ⟨_, read, ?_⟩
    rw [TemplateTree.resolve_eq_ok_iff_declares] at resolved ⊢
    rw [PlainTree.plain_place] at resolved
    have declares := resolved.withoutQuery
    rwa [← plain.withoutQuery.plain_place] at declares

/-- An accepted template with a query is cut where the query starts: the path alone is accepted with
the same parameters and the same registration path, and keeping the query puts its text behind that
path. Without a query it does not matter whether the query is kept. -/
theorem registrationPath_keep {template : String} {params : ParamList}
    (accepted : parseParams template = .ok params) :
    ∃ tree, parseTree template = .ok tree ∧
      (tree.query = none → ∀ style, ∃ path,
        registrationPath template ⟨style, .strip⟩ = .ok path ∧
        registrationPath template ⟨style, .keep⟩ = .ok path) ∧
      ∀ query, tree.query = some query → ∃ front back,
        CutAt template front back tree params query.span ∧ ∀ style, ∃ path,
          registrationPath template ⟨style, .strip⟩ = .ok path ∧
          registrationPath front ⟨style, .strip⟩ = .ok path ∧
          registrationPath template ⟨style, .keep⟩ = .ok (path ++ back) := by
  obtain ⟨tree, read, resolved⟩ := parseParams_eq_ok_iff.mp accepted
  have registered := registrationPath_of_resolve read resolved
  refine ⟨tree, read, ?_, ?_⟩
  -- There is nothing to keep.
  · intro absent style
    refine ⟨_, registered _, ?_⟩
    rw [registered, TemplateTree.registrationPath, TemplateTree.registrationPath, absent]
  -- Where there is a query, the template is cut where its span begins.
  · intro query present
    obtain ⟨plain, wellFormed, rfl, rfl⟩ := parseTree_eq_ok_iff.mp read
    have cut := cutAt_query wellFormed resolved present
    refine ⟨_, _, cut, ?_⟩
    -- The path of the tree shows its segments, which are those in front of the query.
    intro style
    obtain ⟨other, alone, settled⟩ := parseParams_eq_ok_iff.mp cut.declared
    rw [cut.read, Except.ok.injEq] at alone
    subst alone
    have kept : plain.place.registrationPath plain.source ⟨style, .keep⟩ =
        plain.place.barePath style ++ plain.querySource := by
      simp only [TemplateTree.registrationPath, present, cut.slice]
    exact ⟨_, registered _, registrationPath_of_resolve cut.read settled _,
      (registered _).trans (congrArg _ kept)⟩

/-- A template in which marks stand in the defaults of the path and of the query, behind a letter of
two bytes. -/
def markedQuery : String :=
  "/é\x7bstring:a=?/&\x7d?n=\x7bstring=?/&\x7d"

/-- The tree of the template. -/
def markedQueryTree : PlainTree :=
  ⟨[[.literal "é", .placeholder ⟨"string", "a", some "?/&"⟩]],
    some [⟨"string", "n", some "?/&"⟩]⟩

/-- The parameters of the template. -/
def markedQueryParams : ParamList :=
  ⟨[⟨"a", .path, .string, some "?/&"⟩], [⟨"n", .query, .string, some "?/&"⟩]⟩

/-- The query starts at the one question mark that stands in no default. -/
theorem registrationPath_keep_marks :
    parseParams markedQuery = .ok markedQueryParams ∧
      parseTree markedQuery = .ok markedQueryTree.place ∧
      ∃ front back,
        CutAt markedQuery front back markedQueryTree.place markedQueryParams ⟨17, 32⟩ ∧
        ∀ style, ∃ path, registrationPath markedQuery ⟨style, .strip⟩ = .ok path ∧
          registrationPath front ⟨style, .strip⟩ = .ok path ∧
          registrationPath markedQuery ⟨style, .keep⟩ = .ok (path ++ back) := by
  have accepted : parseParams markedQuery = .ok markedQueryParams := by rfl
  have known : parseTree markedQuery = .ok markedQueryTree.place := by rfl
  obtain ⟨tree, read, -, cut⟩ := registrationPath_keep accepted
  rw [known, Except.ok.injEq] at read
  subst read
  exact ⟨accepted, known, cut _ rfl⟩

end TypedRoutes

import TypedRoutes.Proofs.Param.Resolve
import TypedRoutes.Proofs.Template.Plain

/-! The parameters of a tree do not depend on places: they are read off the tree without them. -/

namespace TypedRoutes

open Entry

/-- The declaration in a part, if it is a placeholder. -/
def PlainPart.declaration? : PlainPart → Option PlainDeclaration
  | literal _ => none
  | placeholder declaration => some declaration

namespace PlainTree

/-- The declarations in the path, from left to right. -/
def pathDeclarations (tree : PlainTree) : List PlainDeclaration :=
  tree.segments.flatMap fun parts => parts.filterMap PlainPart.declaration?

/-- The declarations in the query, from left to right. -/
def queryDeclarations (tree : PlainTree) : List PlainDeclaration :=
  tree.query.getD []

end PlainTree

/-- A parameter that says what a declaration of a source says. -/
structure PlainDeclaration.Gives (source : Source) (declaration : PlainDeclaration)
    (param : Param) : Prop where
  name : param.name = declaration.name
  source : param.source = source
  type : param.type.tag = declaration.typeTag
  default : param.default = declaration.default

/-- Parameters that a tree declares: its declarations in order, with proper names that differ. -/
structure PlainTree.Declares (tree : PlainTree) (params : ParamList) : Prop where
  path : List.Forall₂ (PlainDeclaration.Gives .path) tree.pathDeclarations params.path
  query : List.Forall₂ (PlainDeclaration.Gives .query) tree.queryDeclarations params.query
  proper : ∀ param ∈ params.all, IsName param.name
  distinct : (params.all.map Param.name).Nodup

/-- A declaration says the same with and without its places. -/
theorem copied_iff_gives {source : Source} {declaration : Declaration} {param : Param} :
    Copied ⟨source, declaration⟩ param ↔ declaration.plain.Gives source param :=
  -- The places are what the plain declaration lacks, and no parameter holds one.
  ⟨fun ⟨name, source, type, default⟩ => ⟨name, source, type, default⟩,
    fun ⟨name, source, type, default⟩ => ⟨name, source, type, default⟩⟩

/-- A part declares the same without its places. -/
theorem SegmentPart.declaration?_plain (part : SegmentPart) :
    part.plain.declaration? = part.declaration?.map fun declaration => declaration.value.plain := by
  -- Both kinds of parts keep their kind.
  cases part <;> rfl

namespace TemplateTree

/-- The path of a tree declares the same without its places. -/
theorem pathDeclarations_plain (tree : TemplateTree) :
    tree.plain.pathDeclarations =
      tree.pathDeclarations.map fun declaration => declaration.value.plain := by
  -- The declarations are taken from the same parts, before or after the places are dropped.
  simp [PlainTree.pathDeclarations, plain, pathDeclarations, List.flatMap_map, List.filterMap_map,
    SegmentPart.declaration?_plain, List.map_flatMap, List.map_filterMap]

/-- The query of a tree declares the same without its places. -/
theorem queryDeclarations_plain (tree : TemplateTree) :
    tree.plain.queryDeclarations =
      tree.queryDeclarations.map fun declaration => declaration.value.plain := by
  -- Without a query there is nothing on either side.
  cases present : tree.query <;>
    simp [PlainTree.queryDeclarations, plain, queryDeclarations, present]

/-- A tree is resolved to the parameters that it declares without its places. -/
theorem resolve_eq_ok_iff_declares {tree : TemplateTree} {params : ParamList} :
    tree.resolve = .ok params ↔ tree.plain.Declares params := by
  -- The two loops copy what the plain declarations give.
  have path : List.Forall₂ Copied tree.pathEntries params.path ↔
      List.Forall₂ (PlainDeclaration.Gives .path) tree.plain.pathDeclarations params.path := by
    simp only [pathEntries, pathDeclarations_plain, List.forall₂_map_left_iff, copied_iff_gives]
  have query : List.Forall₂ Copied tree.queryEntries params.query ↔
      List.Forall₂ (PlainDeclaration.Gives .query) tree.plain.queryDeclarations params.query := by
    simp only [queryEntries, queryDeclarations_plain, List.forall₂_map_left_iff, copied_iff_gives]
  constructor
  -- The parameters are copies of entries, whose tags and names have been checked.
  · intro resolved
    obtain ⟨declared, front, back⟩ := copied_of_resolve resolved
    have names := names_of_copied (List.rel_append front back)
    refine ⟨path.mp front, query.mp back, ?_, names.symm ▸ declared.distinct⟩
    intro param member
    have copied : param.name ∈ words tree.entries := names ▸ List.mem_map_of_mem member
    obtain ⟨entry, inside, same⟩ := mem_words_iff.mp copied
    exact same ▸ declared.proper entry inside
  -- The other way round, the checks pass because of what the parameters say.
  · intro declares
    have copied := List.rel_append (path.mpr declares.path) (query.mpr declares.query)
    have names := names_of_copied copied
    refine resolve_of_copied ⟨?_, ?_, ?_⟩ (path.mpr declares.path) (query.mpr declares.query)
    -- The tag of an entry is that of the type of its parameter.
    · intro entry member
      obtain ⟨param, -, copy⟩ := exists_of_forall₂ copied member
      exact isTag_iff.mpr ⟨param.type, copy.type⟩
    · intro entry member
      obtain ⟨param, present, copy⟩ := exists_of_forall₂ copied member
      exact copy.name ▸ declares.proper param present
    · rw [show words tree.entries = params.all.map Param.name from names.symm]
      exact declares.distinct

end TemplateTree

end TypedRoutes

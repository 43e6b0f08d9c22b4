import TypedRoutes.Proofs.Param.Declares
import TypedRoutes.Proofs.RegistrationPath.Skeleton
import TypedRoutes.Proofs.Template.Places

/-! Trees with a gap in the place of one declaration. Whatever fills the gap, the text before and
behind it, the other declarations and their order stay. -/

namespace TypedRoutes

namespace PlainDeclaration

/-- The declaration as it stands in its source. -/
def sourceIn (source : Source) (declaration : PlainDeclaration) : String :=
  match source with
  | .path => declaration.pathSource
  | .query => declaration.querySource

/-- The places of a declaration that starts at an offset. -/
def placeIn (source : Source) (declaration : PlainDeclaration) (offset : Nat) :
    Located Declaration :=
  match source with
  | .path => declaration.placeInPath offset
  | .query => declaration.placeInQuery offset

/-- What stands before the default, with its equals sign. -/
def opening (source : Source) (declaration : PlainDeclaration) : List Char :=
  match source with
  | .path => '{' :: (declaration.typeTag.toList ++ ':' :: (declaration.name.toList ++ ['=']))
  | .query => declaration.name.toList ++ '=' :: '{' :: (declaration.typeTag.toList ++ ['='])

/-- The declaration with another default. -/
def withDefault (declaration : PlainDeclaration) (text : String) : PlainDeclaration :=
  { declaration with default := some text }

/-- A default stands between what does not depend on it. -/
theorem sourceIn_withDefault (source : Source) (declaration : PlainDeclaration) (text : String) :
    ((declaration.withDefault text).sourceIn source).toList =
      declaration.opening source ++ (text.toList ++ ['}']) := by
  -- The default is the last of the texts, and only the closing brace follows it.
  cases source <;> simp [sourceIn, withDefault, opening, pathSource, querySource, defaultSource]

/-- A default is placed where it is written. -/
theorem default_placeIn {source : Source} {declaration : PlainDeclaration} {offset : Nat}
    {default : Located String}
    (present : (declaration.placeIn source offset).value.default = some default) :
    declaration = declaration.withDefault default.value ∧
      default.span.start = offset + byteSize (declaration.opening source) ∧
      default.span.stop = default.span.start + byteSize default.value.toList := by
  obtain ⟨typeTag, name, written⟩ := declaration
  -- The marks before the default are a byte each.
  have marks : byteSize ['{'] = 1 ∧ byteSize [':'] = 1 ∧ byteSize ['='] = 1 := by decide
  cases source with
  | path =>
    simp only [placeIn, placeInPath, Option.map_eq_some_iff] at present
    obtain ⟨text, rfl, rfl⟩ := present
    refine ⟨rfl, ?_, rfl⟩
    simp [locateText, opening, Char.utf8Size]
    omega
  | query =>
    simp only [placeIn, placeInQuery, Option.map_eq_some_iff] at present
    obtain ⟨text, rfl, rfl⟩ := present
    refine ⟨rfl, ?_, rfl⟩
    simp [locateText, opening, Char.utf8Size]
    omega

/-- A declaration can be written with every default that holds no brace. -/
theorem wellFormed_withDefault {declaration : PlainDeclaration}
    (wellFormed : declaration.WellFormed) {text : String} (free : FilledWithout ['{', '}'] text) :
    (declaration.withDefault text).WellFormed :=
  -- Tag and name are the same as before.
  ⟨wellFormed.typeTag, wellFormed.name, by simpa [withDefault] using free⟩

end PlainDeclaration

/-- A tree without one of its declarations. -/
inductive Gap where
  /-- The declaration stands in a segment, between some of its parts. -/
  | path (before : List (List PlainPart)) (front back : List PlainPart)
    (after : List (List PlainPart)) (ending : Option (List PlainDeclaration))
  /-- The declaration stands in the query, between others. -/
  | query (segments : List (List PlainPart)) (front back : List PlainDeclaration)

namespace Gap

/-- The tree with a declaration in the gap. -/
def fill (gap : Gap) (declaration : PlainDeclaration) : PlainTree :=
  match gap with
  | path before front back after ending =>
    ⟨before ++ (front ++ .placeholder declaration :: back) :: after, ending⟩
  | query segments front back => ⟨segments, some (front ++ declaration :: back)⟩

/-- Where the declaration belongs. -/
def source : Gap → Source
  | path .. => .path
  | query .. => .query

/-- The declarations before the gap. -/
def earlier : Gap → List PlainDeclaration
  | path before front _ _ _ =>
    (before.flatMap fun parts => parts.filterMap PlainPart.declaration?) ++
      front.filterMap PlainPart.declaration?
  | query segments front _ =>
    (segments.flatMap fun parts => parts.filterMap PlainPart.declaration?) ++ front

/-- The text before the gap. -/
def lead : Gap → List Char
  | path before front _ _ _ =>
    (before.flatMap fun parts => (segmentSource parts).toList) ++
      '/' :: front.flatMap fun part => part.source.toList
  | query segments front _ =>
    (segments.flatMap fun parts => (segmentSource parts).toList) ++
      '?' :: front.flatMap fun declaration => declaration.querySource.toList ++ ['&']

/-- The text behind the gap. -/
def rest : Gap → List Char
  | path _ _ back after ending =>
    (back.flatMap fun part => part.source.toList) ++
      ((after.flatMap fun parts => (segmentSource parts).toList) ++
        (PlainTree.mk [] ending).querySource.toList)
  | query _ _ back => back.flatMap fun declaration => '&' :: declaration.querySource.toList

end Gap

/-! Filled gaps. -/

/-- The declarations of a query are written with an ampersand behind each but the last. -/
theorem declarationsSource_split (front back : List PlainDeclaration)
    (declaration : PlainDeclaration) :
    (declarationsSource (front ++ declaration :: back)).toList =
      (front.flatMap fun other => other.querySource.toList ++ ['&']) ++
        (declaration.querySource.toList ++
          back.flatMap fun other => '&' :: other.querySource.toList) := by
  -- First from the declaration to the end, where each ampersand stands before a declaration, then
  -- back to the start, where it stands behind one.
  induction front with
  | nil =>
    -- What follows the declaration starts with its ampersand.
    simp only [List.nil_append, List.flatMap_nil]
    induction back generalizing declaration with
    | nil => simp [declarationsSource]
    | cons next back ih =>
      have later := ih next
      simp only [declarationsSource, List.map_cons] at later ⊢
      rw [String.intercalate_cons_cons, String.toList_append, String.toList_append, later]
      simp
  | cons other front ih =>
    obtain ⟨next, others, shape⟩ :
        ∃ next others, front ++ declaration :: back = next :: others := by
      cases front <;> exact ⟨_, _, rfl⟩
    rw [shape] at ih
    rw [List.cons_append, shape]
    simp only [declarationsSource, List.map_cons] at ih ⊢
    rw [String.intercalate_cons_cons, String.toList_append, String.toList_append, ih]
    simp

namespace Gap

/-- The text of a filled gap is what stands around the gap and the declaration between. -/
theorem source_fill (gap : Gap) (declaration : PlainDeclaration) :
    (gap.fill declaration).source.toList =
      gap.lead ++ ((declaration.sourceIn gap.source).toList ++ gap.rest) := by
  -- In the path the gap is a part of one segment, in the query it is one of the declarations.
  cases gap with
  | path before front back after ending =>
    have same : (PlainTree.mk (before ++ (front ++ .placeholder declaration :: back) :: after)
        ending).querySource = (PlainTree.mk [] ending).querySource := rfl
    have written : (PlainPart.placeholder declaration).source = declaration.pathSource := rfl
    simp [fill, PlainTree.source, PlainTree.pathSource_toList, same, written, lead, rest, source,
      segmentSource, PlainDeclaration.sourceIn, List.flatMap_map]
  | query segments front back =>
    simp [fill, PlainTree.source, PlainTree.pathSource_toList, PlainTree.querySource,
      declarationsSource_split, lead, rest, source, PlainDeclaration.sourceIn]

/-- A declaration in a gap can be written if the tree can. -/
theorem wellFormed_of_fill {gap : Gap} {declaration : PlainDeclaration}
    (wellFormed : (gap.fill declaration).WellFormed) : declaration.WellFormed := by
  -- The declaration is one of the parts, or one of the declarations of the query.
  cases gap with
  | path before front back after ending =>
    exact wellFormed.parts (front ++ .placeholder declaration :: back) (by simp [fill])
      (.placeholder declaration) (by simp)
  | query segments front back =>
    exact wellFormed.declarations (front ++ declaration :: back) (by simp [fill]) declaration
      (by simp)

/-- A placeholder stands apart from its neighbours whatever it declares. -/
theorem isChain_placeholder {front back : List PlainPart} {declaration : PlainDeclaration}
    (apart : (front ++ .placeholder declaration :: back).IsChain PlainPart.Apart)
    (other : PlainDeclaration) :
    (front ++ .placeholder other :: back).IsChain PlainPart.Apart := by
  -- Whether parts stand apart is a matter of their kinds, and these are the same.
  let kinds (left right : Bool) : Prop := ¬ (left = true ∧ right = true)
  have same : (front ++ .placeholder declaration :: back).map PlainPart.isLiteral =
      (front ++ .placeholder other :: back).map PlainPart.isLiteral := by
    simp [PlainPart.isLiteral]
  have chain :
      ((front ++ .placeholder declaration :: back).map PlainPart.isLiteral).IsChain kinds :=
    List.isChain_map PlainPart.isLiteral |>.mpr apart
  rw [same] at chain
  exact List.isChain_map PlainPart.isLiteral |>.mp chain

/-- Another declaration that can be written may stand in the gap. -/
theorem wellFormed_fill {gap : Gap} {declaration other : PlainDeclaration}
    (wellFormed : (gap.fill declaration).WellFormed) (proper : other.WellFormed) :
    (gap.fill other).WellFormed := by
  obtain ⟨path, parts, apart, query, declared⟩ := wellFormed
  cases gap with
  | path before front back after ending =>
    -- Only the segment with the gap is another, and in it only the part in the gap.
    simp only [fill, List.forall_mem_append, List.forall_mem_cons] at parts apart
    obtain ⟨earlier, ⟨begun, -, ended⟩, later⟩ := parts
    obtain ⟨calm, chain, quiet⟩ := apart
    refine ⟨by simp [fill], ?_, ?_, query, declared⟩
    · simp only [fill, List.forall_mem_append, List.forall_mem_cons]
      exact ⟨earlier, ⟨begun, proper, ended⟩, later⟩
    · simp only [fill, List.forall_mem_append, List.forall_mem_cons]
      exact ⟨calm, isChain_placeholder chain other, quiet⟩
  | query segments front back =>
    -- The segments are the same, and so are the other declarations.
    have each := declared (front ++ declaration :: back) rfl
    simp only [List.forall_mem_append, List.forall_mem_cons] at each
    refine ⟨path, parts, apart, by simp [fill], ?_⟩
    rintro _ ⟨⟩
    simp only [List.forall_mem_append, List.forall_mem_cons]
    exact ⟨each.1, proper, each.2.2⟩

/-- The skeleton of a filled gap shows nothing but the name of what is in it. -/
theorem skeleton_fill (gap : Gap) {declaration other : PlainDeclaration}
    (same : declaration.name = other.name) :
    (gap.fill declaration).place.skeleton = (gap.fill other).place.skeleton := by
  -- Everything outside the gap is the same, and inside it only the name is shown.
  cases gap <;> simp [TemplateTree.skeleton, fill, PlainPart.bare, same]

end Gap

/-! Every declaration of a tree stands in a gap. -/

/-- Parts declare the same with and without places. -/
theorem declarations_placeParts (offset : Nat) (parts : List PlainPart) :
    ((placeParts offset parts).filterMap SegmentPart.declaration?).map
        (fun declaration => declaration.value.plain) = parts.filterMap PlainPart.declaration? := by
  -- The parts without places are the same, so they declare the same.
  conv_rhs => rw [← plain_placeParts offset parts]
  simp only [List.filterMap_map, List.map_filterMap, Function.comp_def,
    SegmentPart.declaration?_plain]

/-- A declaration among some parts is a placeholder between others. -/
theorem exists_placeholder_of_placeParts {parts : List PlainPart} {offset : Nat}
    {before after : List (Located Declaration)} {located : Located Declaration}
    (split : (placeParts offset parts).filterMap SegmentPart.declaration? =
      before ++ located :: after) :
    ∃ front declaration back, parts = front ++ .placeholder declaration :: back ∧
      (front.filterMap PlainPart.declaration?).length = before.length ∧
      located = declaration.placeInPath
        (offset + byteSize (front.flatMap fun part => part.source.toList)) := by
  -- A literal moves the offset and declares nothing; a placeholder is sought or comes before.
  induction parts generalizing offset before with
  | nil => simp [placeParts] at split
  | cons part parts ih =>
    cases part with
    | literal text =>
      obtain ⟨front, declaration, back, rfl, count, place⟩ := ih split
      refine ⟨.literal text :: front, declaration, back, rfl, count, ?_⟩
      simpa [Nat.add_assoc] using place
    | placeholder declared =>
      have first : declared.placeInPath offset ::
          (placeParts (offset + byteSize declared.pathSource.toList) parts).filterMap
            SegmentPart.declaration? = before ++ located :: after := split
      cases before with
      | nil =>
        -- The first declaration is the one that is sought.
        obtain ⟨rfl, -⟩ := List.cons.inj first
        exact ⟨[], declared, parts, rfl, rfl, by simp⟩
      | cons head before =>
        obtain ⟨-, later⟩ := List.cons.inj first
        obtain ⟨front, declaration, back, rfl, count, place⟩ := ih later
        refine ⟨.placeholder declared :: front, declaration, back, rfl, ?_, ?_⟩
        · simpa [PlainPart.declaration?] using count
        · simpa [PlainPart.source, Nat.add_assoc] using place

/-- A declaration in the path is one among the parts of one of the segments. -/
theorem exists_placeholder_of_placeSegments {segments : List (List PlainPart)} {offset : Nat}
    {before after : List (Located Declaration)} {located : Located Declaration}
    (split : ((placeSegments offset segments).flatMap fun segment =>
      segment.value.filterMap SegmentPart.declaration?) = before ++ located :: after) :
    ∃ begun front declaration back ended,
      segments = begun ++ (front ++ .placeholder declaration :: back) :: ended ∧
      (begun.flatMap fun parts => parts.filterMap PlainPart.declaration?).length +
        (front.filterMap PlainPart.declaration?).length = before.length ∧
      located = declaration.placeInPath
        (offset + byteSize ((begun.flatMap fun parts => (segmentSource parts).toList) ++
          '/' :: front.flatMap fun part => part.source.toList)) := by
  -- The declaration stands in the first segment, or all declarations of that segment come before
  -- it.
  induction segments generalizing offset before with
  | nil => simp [placeSegments] at split
  | cons parts segments ih =>
    have first : (placeParts (offset + 1) parts).filterMap SegmentPart.declaration? ++
        ((placeSegments (offset + byteSize (segmentSource parts).toList) segments).flatMap
          fun segment => segment.value.filterMap SegmentPart.declaration?) =
        before ++ located :: after := split
    rcases append_eq_append_cons first with ⟨rest, inside⟩ | ⟨rest, rfl, later⟩
    · obtain ⟨front, declaration, back, rfl, count, place⟩ :=
        exists_placeholder_of_placeParts inside
      refine ⟨[], front, declaration, back, segments, rfl, by simpa using count, ?_⟩
      simpa [Char.utf8Size, Nat.add_assoc] using place
    -- The declarations of the first segment are all before it.
    · obtain ⟨begun, front, declaration, back, ended, rfl, count, place⟩ := ih later
      have passed := congrArg List.length (declarations_placeParts (offset + 1) parts)
      rw [List.length_map] at passed
      refine ⟨parts :: begun, front, declaration, back, ended, rfl, ?_, ?_⟩
      · simp only [List.flatMap_cons, List.length_append]
        omega
      · simpa [Nat.add_assoc] using place

/-- A declaration in the query stands between others. -/
theorem exists_declaration_of_placeDeclarations {declarations : List PlainDeclaration}
    {offset : Nat} {before after : List (Located Declaration)} {located : Located Declaration}
    (split : placeDeclarations offset declarations = before ++ located :: after) :
    ∃ front declaration back, declarations = front ++ declaration :: back ∧
      front.length = before.length ∧
      located = declaration.placeInQuery
        (offset + byteSize (front.flatMap fun other => other.querySource.toList ++ ['&'])) := by
  induction declarations generalizing offset before with
  | nil => simp [placeDeclarations] at split
  | cons declared declarations ih =>
    rw [placeDeclarations] at split
    cases before with
    | nil =>
      obtain ⟨rfl, -⟩ := List.cons.inj split
      exact ⟨[], declared, declarations, rfl, rfl, by simp⟩
    | cons head before =>
      obtain ⟨-, later⟩ := List.cons.inj split
      obtain ⟨front, declaration, back, rfl, count, place⟩ := ih later
      refine ⟨declared :: front, declaration, back, rfl, by simpa using count, ?_⟩
      simpa [Char.utf8Size, Nat.add_assoc] using place

/-- Every declaration of a tree fills a gap, and stands in the text where the gap is. -/
theorem exists_gap {tree : PlainTree} {index : Nat} {entry : Entry}
    (found : tree.place.entries[index]? = some entry) :
    ∃ (gap : Gap) (declaration : PlainDeclaration), gap.fill declaration = tree ∧
      gap.earlier.length = index ∧
      entry = ⟨gap.source, (declaration.placeIn gap.source (byteSize gap.lead)).value⟩ := by
  obtain ⟨segments, query⟩ := tree
  obtain ⟨before, after, split, rfl⟩ := exists_split_of_getElem? found
  -- The entries of the path come before those of the query.
  rcases append_eq_append_cons split with ⟨rest, inPath⟩ | ⟨rest, rfl, inQuery⟩
  · obtain ⟨begun, others, whole, rfl, behind⟩ := List.map_eq_append_iff.mp inPath
    obtain ⟨located, ended, rfl, rfl, -⟩ := List.map_eq_cons_iff.mp behind
    obtain ⟨earlier, front, declaration, back, later, rfl, count, rfl⟩ :=
      exists_placeholder_of_placeSegments whole
    refine ⟨.path earlier front back later query, declaration, rfl, ?_, ?_⟩
    · simpa [Gap.earlier] using count
    · simp [Gap.source, Gap.lead, PlainDeclaration.placeIn]
  · obtain ⟨begun, others, whole, rfl, behind⟩ := List.map_eq_append_iff.mp inQuery
    obtain ⟨located, ended, rfl, rfl, -⟩ := List.map_eq_cons_iff.mp behind
    cases query with
    | none => simp [TemplateTree.queryDeclarations, PlainTree.place] at whole
    | some declarations =>
      obtain ⟨front, declaration, back, rfl, count, rfl⟩ :=
        exists_declaration_of_placeDeclarations whole
      refine ⟨.query segments front back, declaration, rfl, ?_, ?_⟩
      · have passed := congrArg List.length (TemplateTree.pathDeclarations_plain
          (PlainTree.mk segments (some (front ++ declaration :: back))).place)
        simp only [PlainTree.plain_place, PlainTree.pathDeclarations, List.length_map] at passed
        simp [Gap.earlier, TemplateTree.pathEntries, passed, count]
      · simp [Gap.source, Gap.lead, PlainDeclaration.placeIn, PlainTree.pathSource_toList,
          Char.utf8Size, Nat.add_assoc]

end TypedRoutes

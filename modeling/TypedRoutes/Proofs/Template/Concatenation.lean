import TypedRoutes.Proofs.Template.Places

/-! Templates side by side: behind a path, a template is read as it is read alone, with its places
moved by the size of the path. -/

namespace TypedRoutes

/-! Places behind a text of so many bytes. -/

/-- The span of the same text behind so many bytes. -/
def Span.shift (distance : Nat) (span : Span) : Span :=
  -- Both ends move alike, so the span keeps its length.
  ⟨distance + span.start, distance + span.stop⟩

/-- A value behind so many bytes, where `inside` moves the places that it holds itself. -/
def Located.shift {α : Type} (distance : Nat) (inside : α → α) (located : Located α) : Located α :=
  ⟨inside located.value, located.span.shift distance⟩

/-- A declaration behind so many bytes. -/
def Declaration.shift (distance : Nat) (declaration : Declaration) : Declaration :=
  ⟨declaration.typeTag.shift distance id, declaration.name.shift distance id,
    declaration.default.map (Located.shift distance id)⟩

/-- A declaration with the place of the whole. -/
def shiftDeclaration (distance : Nat) : Located Declaration → Located Declaration :=
  Located.shift distance (Declaration.shift distance)

/-- A part of a segment behind so many bytes. -/
def SegmentPart.shift (distance : Nat) : SegmentPart → SegmentPart
  | literal text => .literal text
  | placeholder declaration => .placeholder (shiftDeclaration distance declaration)

/-- A segment with the place of the whole. -/
def shiftSegment (distance : Nat) : Located Segment → Located Segment :=
  Located.shift distance (List.map (SegmentPart.shift distance))

/-- A tree behind so many bytes. -/
def TemplateTree.shift (distance : Nat) (tree : TemplateTree) : TemplateTree :=
  ⟨tree.segments.map (shiftSegment distance),
    tree.query.map (Located.shift distance (List.map (shiftDeclaration distance)))⟩

/-- The segments of both trees, and the query of the second. -/
def TemplateTree.append (tree other : TemplateTree) : TemplateTree :=
  ⟨tree.segments ++ other.segments, other.query⟩

/-- The segments of both trees, and the query of the second. -/
def PlainTree.append (tree other : PlainTree) : PlainTree :=
  ⟨tree.segments ++ other.segments, other.query⟩

/-- An entry behind so many bytes. -/
def Entry.shift (distance : Nat) (entry : Entry) : Entry :=
  ⟨entry.source, entry.declaration.shift distance⟩

/-- A span behind a text covers what it covers without the text. -/
theorem Span.slice_shift (first second : String) (span : Span) :
    (span.shift (byteSize first.toList)).slice (first ++ second) = span.slice second := by
  -- The length of the span stays, and exactly the first text is dropped in addition.
  have length : byteSize first.toList + span.stop - (byteSize first.toList + span.start) =
      span.stop - span.start := by omega
  simp only [slice, shift, length, String.toList_append, dropBytes_byteSize_add]

/-! What is written at a later offset is placed later, and not otherwise. -/

/-- A declaration of the path is placed later by what stands before it in addition. -/
theorem PlainDeclaration.placeInPath_add (declaration : PlainDeclaration) (distance offset : Nat) :
    declaration.placeInPath (distance + offset) =
      shiftDeclaration distance (declaration.placeInPath offset) := by
  -- Each place is the offset with the sizes of the texts before it.
  cases declaration with
  | mk typeTag name default =>
    cases default <;>
      simp [placeInPath, locateText, shiftDeclaration, Located.shift, Declaration.shift, Span.shift,
        Nat.add_assoc]

/-- A declaration of the query is placed later by what stands before it in addition. -/
theorem PlainDeclaration.placeInQuery_add (declaration : PlainDeclaration) (distance offset : Nat) :
    declaration.placeInQuery (distance + offset) =
      shiftDeclaration distance (declaration.placeInQuery offset) := by
  -- The name stands first here, but each place is still a sum.
  cases declaration with
  | mk typeTag name default =>
    cases default <;>
      simp [placeInQuery, locateText, shiftDeclaration, Located.shift, Declaration.shift, Span.shift,
        Nat.add_assoc]

/-- Parts side by side are placed later by what stands before them in addition. -/
theorem placeParts_add (distance offset : Nat) (parts : List PlainPart) :
    placeParts (distance + offset) parts =
      (placeParts offset parts).map (SegmentPart.shift distance) := by
  -- Every part moves the offset of those behind it by its own size, wherever it stands.
  induction parts generalizing offset with
  | nil => rfl
  | cons part parts ih =>
    -- Literal text has no place of its own, and a placeholder moves with its declaration.
    have place : part.place (distance + offset) = (part.place offset).shift distance := by
      cases part with
      | literal text => rfl
      | placeholder declaration =>
        exact congrArg SegmentPart.placeholder (declaration.placeInPath_add distance offset)
    simp only [placeParts, place, Nat.add_assoc, ih, List.map_cons]

/-- Segments side by side are placed later by what stands before them in addition. -/
theorem placeSegments_add (distance offset : Nat) (segments : List (List PlainPart)) :
    placeSegments (distance + offset) segments =
      (placeSegments offset segments).map (shiftSegment distance) := by
  -- Every segment moves the offset of those behind it by its own size, as a part does.
  induction segments generalizing offset with
  | nil => rfl
  | cons parts segments ih =>
    simp only [placeSegments, Nat.add_assoc, ih, placeParts_add, List.map_cons]
    rfl

/-- The declarations of a query are placed later by what stands before them in addition. -/
theorem placeDeclarations_add (distance offset : Nat) (declarations : List PlainDeclaration) :
    placeDeclarations (distance + offset) declarations =
      (placeDeclarations offset declarations).map (shiftDeclaration distance) := by
  -- The ampersand between two declarations is one more byte in the same sum.
  induction declarations generalizing offset with
  | nil => rfl
  | cons declaration declarations ih =>
    simp only [placeDeclarations, declaration.placeInQuery_add, Nat.add_assoc, ih, List.map_cons]

/-- Segments behind others start where the others stop. -/
theorem placeSegments_append (offset : Nat) (first second : List (List PlainPart)) :
    placeSegments offset (first ++ second) = placeSegments offset first ++
      placeSegments (offset + byteSize (first.flatMap fun parts => (segmentSource parts).toList))
        second := by
  -- The first segments add up to the offset of the second.
  induction first generalizing offset with
  | nil => rfl
  | cons parts first ih => simp [placeSegments, ih, Nat.add_assoc]

/-! Trees side by side. -/

namespace PlainTree

/-- A path with a template behind it is written as both side by side. -/
theorem source_append {tree : PlainTree} (bare : tree.query = none) (other : PlainTree) :
    (tree.append other).source = tree.source ++ other.source := by
  -- Only the second tree has a query, and it stands behind all segments.
  have path : (tree.append other).pathSource = tree.pathSource ++ other.pathSource := by
    apply String.toList_inj.mp
    simp [append, pathSource_toList]
  have query : (tree.append other).querySource = other.querySource := rfl
  have nothing : tree.querySource = "" := by simp [querySource, bare]
  simp [source, path, query, nothing, String.append_assoc]

/-- A template behind a path can be written if both can. -/
theorem wellFormed_append {tree other : PlainTree} (front : tree.WellFormed)
    (back : other.WellFormed) : (tree.append other).WellFormed := by
  -- Only the first tree has to have a path, and only the second one has a query.
  refine ⟨?_, ?_, ?_, back.query, back.declarations⟩
  · intro empty
    exact front.path (List.append_eq_nil_iff.mp empty).1
  -- A segment belongs to the one tree or to the other.
  · intro parts member
    rcases List.mem_append.mp member with member | member
    · exact front.parts parts member
    · exact back.parts parts member
  · intro parts member
    rcases List.mem_append.mp member with member | member
    · exact front.apart parts member
    · exact back.apart parts member

/-- The second tree keeps its places, counted from the end of the first. -/
theorem place_append {tree : PlainTree} (bare : tree.query = none) (other : PlainTree) :
    (tree.append other).place =
      tree.place.append (other.place.shift (byteSize tree.source.toList)) := by
  let size := byteSize tree.source.toList
  -- Without a query, the first tree is as long as its segments.
  have path : size = byteSize tree.pathSource.toList := by
    simp [size, source, querySource, bare]
  -- The segments of the second tree are placed behind those of the first.
  have segments : placeSegments 0 (tree.segments ++ other.segments) =
      placeSegments 0 tree.segments ++
        (placeSegments 0 other.segments).map (shiftSegment size) := by
    rw [placeSegments_append, ← tree.pathSource_toList, Nat.zero_add, ← path,
      ← placeSegments_add, Nat.add_zero]
  have start : byteSize (tree.append other).pathSource.toList =
      size + byteSize other.pathSource.toList := by
    simp [path, append, pathSource_toList]
  have stop : byteSize (tree.append other).source.toList =
      size + byteSize other.source.toList := by
    simp [source_append bare, size]
  -- The query moves with the segments before it.
  have query : (tree.append other).place.query = (other.place.shift size).query := by
    have same : (tree.append other).query = other.query := rfl
    cases present : other.query with
    | none => simp [place, TemplateTree.shift, same, present]
    | some declarations =>
      simp [place, TemplateTree.shift, same, present, start, stop, Nat.add_assoc,
        placeDeclarations_add, Located.shift, Span.shift]
  show TemplateTree.mk _ (tree.append other).place.query = _
  rw [query]
  exact congrArg (TemplateTree.mk · _) segments

end PlainTree

/-- Behind an accepted path, an accepted template is read as it is read alone. -/
theorem parseTree_append {first second : String} {tree other : TemplateTree}
    (read : parseTree first = .ok tree) (bare : tree.query = none)
    (found : parseTree second = .ok other) :
    parseTree (first ++ second) = .ok (tree.append (other.shift (byteSize first.toList))) := by
  obtain ⟨plain, wellFormed, rfl, rfl⟩ := parseTree_eq_ok_iff.mp read
  obtain ⟨written, proper, rfl, rfl⟩ := parseTree_eq_ok_iff.mp found
  -- The placed tree has a query exactly if the plain one has.
  have without : plain.query = none := by simpa [PlainTree.place] using bare
  -- An accepted text is a written tree, and the two trees side by side are written as the two
  -- texts.
  apply parseTree_eq_ok_iff.mpr
  exact ⟨plain.append written, PlainTree.wellFormed_append wellFormed proper,
    PlainTree.source_append without written, PlainTree.place_append without written⟩

/-! What is declared behind a path. -/

/-- The names of moved entries are the moved names. -/
@[simp] theorem Entry.names_shift (distance : Nat) (entries : List Entry) :
    Entry.names (entries.map (Entry.shift distance)) =
      (Entry.names entries).map (Located.shift distance id) := by
  simp [Entry.names, Entry.shift, Declaration.shift, Function.comp_def]

/-- Moved entries declare the same names. -/
@[simp] theorem Entry.words_shift (distance : Nat) (entries : List Entry) :
    Entry.words (entries.map (Entry.shift distance)) = Entry.words entries := by
  simp [Entry.words, Located.shift, Function.comp_def]

/-- A moved part declares what it declares, in the moved place. -/
theorem SegmentPart.declaration?_shift (distance : Nat) (part : SegmentPart) :
    (part.shift distance).declaration? = part.declaration?.map (shiftDeclaration distance) := by
  -- Literal text declares nothing, wherever it stands.
  cases part <;> rfl

namespace TemplateTree

/-- The path of a moved tree declares the same, behind so many bytes. -/
theorem pathEntries_shift (distance : Nat) (tree : TemplateTree) :
    (tree.shift distance).pathEntries = tree.pathEntries.map (Entry.shift distance) := by
  -- A part declares something behind the bytes exactly if it does so without them.
  have path : (tree.shift distance).pathDeclarations =
      tree.pathDeclarations.map (shiftDeclaration distance) := by
    simp [pathDeclarations, shift, shiftSegment, Located.shift, List.flatMap_map, List.filterMap_map,
      SegmentPart.declaration?_shift, List.map_flatMap, List.map_filterMap]
  simp [pathEntries, path, Entry.shift, shiftDeclaration, Located.shift, Function.comp_def]

/-- The query of a moved tree declares the same, behind so many bytes. -/
theorem queryEntries_shift (distance : Nat) (tree : TemplateTree) :
    (tree.shift distance).queryEntries = tree.queryEntries.map (Entry.shift distance) := by
  -- There is a query behind the bytes exactly if there is one without them.
  have query : (tree.shift distance).queryDeclarations =
      tree.queryDeclarations.map (shiftDeclaration distance) := by
    cases present : tree.query <;> simp [queryDeclarations, shift, present, Located.shift]
  simp [queryEntries, query, Entry.shift, shiftDeclaration, Located.shift, Function.comp_def]

/-- The paths of both trees declare, in this order. -/
theorem pathEntries_append (tree other : TemplateTree) :
    (tree.append other).pathEntries = tree.pathEntries ++ other.pathEntries := by
  simp [pathEntries, pathDeclarations, append]

/-- Only the second query declares. -/
theorem queryEntries_append (tree other : TemplateTree) :
    (tree.append other).queryEntries = other.queryEntries := rfl

/-- All that the first tree declares comes before what the second declares. -/
theorem entries_append {tree : TemplateTree} (bare : tree.query = none) (other : TemplateTree) :
    (tree.append other).entries = tree.entries ++ other.entries := by
  -- The first tree declares nothing in a query.
  have nothing : tree.queryEntries = [] := by simp [queryEntries, queryDeclarations, bare]
  simp [entries, pathEntries_append, queryEntries_append, nothing]

/-- A moved tree declares the same, behind so many bytes. -/
theorem entries_shift (distance : Nat) (tree : TemplateTree) :
    (tree.shift distance).entries = tree.entries.map (Entry.shift distance) := by
  -- Path and query move alike.
  simp [entries, pathEntries_shift, queryEntries_shift]

end TemplateTree

end TypedRoutes

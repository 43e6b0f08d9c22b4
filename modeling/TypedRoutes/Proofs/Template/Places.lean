import TypedRoutes.Proofs.Param.Resolve
import TypedRoutes.Proofs.Template.RoundTrip

/-! Every place in a tree, and every place that an error names, is where its text stands in the
template. -/

namespace TypedRoutes

/-- A span that covers a part of a text. -/
structure Span.Covers (span : Span) (text part : String) : Prop where
  /-- The span starts and stops between two characters, and the part stands between them. -/
  split : ∃ before after, text.toList = before ++ (part.toList ++ after) ∧
    byteSize before = span.start ∧ byteSize (before ++ part.toList) = span.stop
  /-- The part is cut out with the span. -/
  slice : span.slice text = part

/-- A declaration whose places are those of its texts. Its default, if it has one, goes from the
equals sign behind the word before it to the closing brace. -/
structure Exact (text : String) (declaration : Located Declaration) (source : String)
    (last : Located String) : Prop where
  /-- The place of the type tag. -/
  typeTag : declaration.value.typeTag.span.Covers text declaration.value.typeTag.value
  /-- The place of the name. -/
  name : declaration.value.name.span.Covers text declaration.value.name.value
  /-- The place of the default. -/
  default : ∀ default ∈ declaration.value.default, default.span.Covers text default.value ∧
    (Span.mk last.span.stop (default.span.stop + 1)).Covers text ("=" ++ default.value ++ "\x7d")
  /-- The place of the whole. -/
  whole : declaration.span.Covers text source

/-- Spans that are not empty and go from one offset to another without a gap. -/
def Contiguous (start : Nat) : List Span → Nat → Prop
  | [], stop => start = stop
  | span :: rest, stop => span.start = start ∧ start < span.stop ∧ Contiguous span.stop rest stop

/-- A tree whose places are those of its parts. -/
structure TemplateTree.ExactIn (tree : TemplateTree) (text : String) : Prop where
  /-- Declarations in the path, as they are written there. -/
  path : ∀ declaration ∈ tree.pathDeclarations,
    Exact text declaration declaration.value.plain.pathSource declaration.value.name
  /-- Declarations in the query, as they are written there. -/
  query : ∀ declaration ∈ tree.queryDeclarations,
    Exact text declaration declaration.value.plain.querySource declaration.value.typeTag
  /-- Segments, each with its slash. -/
  segments : ∀ segment ∈ tree.segments,
    segment.span.Covers text (segmentSource (segment.value.map SegmentPart.plain))
  /-- The segments go from the start of the text to the query, or to the end. -/
  tiled : Contiguous 0 (tree.segments.map Located.span)
    (match tree.query with
      | none => byteSize text.toList
      | some query => query.span.start)
  /-- The query goes from its question mark to the end. -/
  rest : ∀ query ∈ tree.query, query.span.stop = byteSize text.toList ∧ query.span.Covers text
    ("?" ++ declarationsSource (query.value.map fun declaration => declaration.value.plain))
  /-- Each name ends before the next one starts. -/
  names : (Entry.names tree.entries).Pairwise fun left right => left.span.stop < right.span.start

/-- An error that points at the text it is about. -/
def TemplateError.PointsInto (error : TemplateError) (text : String) : Prop :=
  match error with
  | unknownType token _ | invalidName token _ => error.span.Covers text token
  | repeatedName name first again =>
    error.span = again ∧ again.Covers text name ∧ first.Covers text name ∧ first.stop < again.start
  | noPath | malformed _ => True

/-! Places in written text. -/

/-- A part between two others is covered by the span of its own size behind the first. -/
theorem Span.covers_of_split {text part : String} {span : Span} (before after : List Char)
    (split : text.toList = before ++ (part.toList ++ after)) (start : span.start = byteSize before)
    (stop : span.stop = span.start + byteSize part.toList) : span.Covers text part := by
  -- What is cut out begins behind the first part and is as long as the second.
  refine ⟨⟨before, after, split, start.symm, by simp [stop, start]⟩, ?_⟩
  have size : span.stop - span.start = byteSize part.toList := by omega
  rw [slice, size, split, start, dropBytes_byteSize_append, takeBytes_byteSize_append,
    String.ofList_toList]

/-- A covering span is as long as what it covers. -/
theorem Span.Covers.stop_eq {span : Span} {text part : String} (covers : span.Covers text part) :
    span.stop = span.start + byteSize part.toList := by
  -- Both ends are sizes of texts, and they differ by the part.
  obtain ⟨before, after, -, start, stop⟩ := covers.split
  rw [byteSize_append] at stop
  omega

/-- A default that stands behind its equals sign covers what it should. -/
theorem covers_default {text value : String} {offset : Nat} (before after : List Char)
    (split : text.toList = before ++ ('=' :: (value.toList ++ '}' :: after)))
    (start : offset = byteSize before) :
    (locateText (offset + 1) value).span.Covers text value ∧
      (Span.mk offset ((locateText (offset + 1) value).span.stop + 1)).Covers text
        ("=" ++ value ++ "\x7d") := by
  -- The text alone is what the default holds; with the mark and the brace around it, it is what is
  -- written for it.
  constructor
  · apply Span.covers_of_split (before ++ ['=']) ('}' :: after)
    · simp [split]
    · simp [locateText, start, Char.utf8Size]
    · rfl
  · apply Span.covers_of_split before after
    · simp [split]
    · exact start
    · simp [locateText, Char.utf8Size]
      omega

namespace PlainDeclaration

/-- A declaration in the path is placed where it is written. -/
theorem exact_placeInPath (declaration : PlainDeclaration) {text : String}
    {before after : List Char} {offset : Nat}
    (split : text.toList = before ++ (declaration.pathSource.toList ++ after))
    (start : offset = byteSize before) :
    Exact text (declaration.placeInPath offset) (declaration.placeInPath offset).value.plain.pathSource
      (declaration.placeInPath offset).value.name := by
  rw [plain_placeInPath]
  have written : text.toList = before ++ ('{' :: (declaration.typeTag.toList ++ ':' ::
      (declaration.name.toList ++ (declaration.defaultSource.toList ++ '}' :: after)))) := by
    simp [split, pathSource]
  -- Each text starts behind the texts and marks before it.
  refine ⟨?_, ?_, ?_, ?_⟩
  -- The tag stands behind the brace.
  · apply Span.covers_of_split (before ++ ['{'])
    · simp only [written, List.append_assoc, List.cons_append, List.nil_append]
      rfl
    · simp [placeInPath, locateText, start, Char.utf8Size]
    · rfl
  -- The name stands behind the tag and the colon.
  · apply Span.covers_of_split (before ++ '{' :: declaration.typeTag.toList ++ [':'])
    · simp only [written, List.append_assoc, List.cons_append, List.nil_append]
      rfl
    · simp [placeInPath, locateText, start, Char.utf8Size]
      omega
    · rfl
  -- A default stands behind both words, up to the closing brace.
  · intro default member
    obtain ⟨value, present, rfl⟩ := Option.map_eq_some_iff.mp member
    apply covers_default
      (before ++ '{' :: declaration.typeTag.toList ++ ':' :: declaration.name.toList) after
    · simp [written, defaultSource, present]
    · simp [locateText, start, Char.utf8Size]
      omega
  · exact Span.covers_of_split before after split start rfl

/-- A declaration in the query is placed where it is written. -/
theorem exact_placeInQuery (declaration : PlainDeclaration) {text : String}
    {before after : List Char} {offset : Nat}
    (split : text.toList = before ++ (declaration.querySource.toList ++ after))
    (start : offset = byteSize before) :
    Exact text (declaration.placeInQuery offset) (declaration.placeInQuery offset).value.plain.querySource
      (declaration.placeInQuery offset).value.typeTag := by
  rw [plain_placeInQuery]
  have written : text.toList = before ++ (declaration.name.toList ++ '=' :: '{' ::
      (declaration.typeTag.toList ++ (declaration.defaultSource.toList ++ '}' :: after))) := by
    simp [split, querySource]
  -- As in the path, with the name in front.
  refine ⟨?_, ?_, ?_, ?_⟩
  · apply Span.covers_of_split (before ++ declaration.name.toList ++ ['=', '{'])
    · simp only [written, List.append_assoc, List.cons_append, List.nil_append]
      rfl
    · simp [placeInQuery, locateText, start, Char.utf8Size]
      omega
    · rfl
  · exact Span.covers_of_split before _ written start rfl
  · intro default member
    obtain ⟨value, present, rfl⟩ := Option.map_eq_some_iff.mp member
    apply covers_default
      (before ++ declaration.name.toList ++ '=' :: '{' :: declaration.typeTag.toList) after
    · simp [written, defaultSource, present]
    · simp [locateText, start, Char.utf8Size]
      omega
  · exact Span.covers_of_split before after split start rfl

end PlainDeclaration

/-- The declarations among some parts are placed where they are written. -/
theorem exact_placeParts {text : String} {parts : List PlainPart} (before after : List Char)
    (offset : Nat)
    (split : text.toList = before ++ ((parts.flatMap fun part => part.source.toList) ++ after))
    (start : offset = byteSize before) :
    ∀ declaration ∈ (placeParts offset parts).filterMap SegmentPart.declaration?,
      Exact text declaration declaration.value.plain.pathSource declaration.value.name := by
  -- Each part moves the place of those behind it by its own size.
  induction parts generalizing before offset with
  | nil => simp [placeParts]
  | cons part parts ih =>
    rw [List.flatMap_cons, List.append_assoc] at split
    have later := ih (before ++ part.source.toList) (offset + byteSize part.source.toList)
      (by simpa using split) (by simp [start])
    intro declaration member
    cases part with
    | literal text => exact later declaration member
    | placeholder declared =>
      rcases List.mem_cons.mp member with rfl | member
      · exact declared.exact_placeInPath split start
      · exact later declaration member

/-- Segments are placed where they are written, and so are their declarations. -/
theorem exact_placeSegments {text : String} {segments : List (List PlainPart)}
    (before after : List Char) (offset : Nat)
    (split : text.toList =
      before ++ ((segments.flatMap fun parts => (segmentSource parts).toList) ++ after))
    (start : offset = byteSize before) :
    ∀ segment ∈ placeSegments offset segments,
      segment.span.Covers text (segmentSource (segment.value.map SegmentPart.plain)) ∧
      ∀ declaration ∈ segment.value.filterMap SegmentPart.declaration?,
        Exact text declaration declaration.value.plain.pathSource declaration.value.name := by
  -- The segments before a segment are the text before it, whose size is its offset.
  induction segments generalizing before offset with
  | nil => simp [placeSegments]
  | cons parts segments ih =>
    rw [List.flatMap_cons, List.append_assoc] at split
    intro segment member
    rcases List.mem_cons.mp member with rfl | member
    · rw [plain_placeParts]
      refine ⟨Span.covers_of_split before _ split start rfl, ?_⟩
      -- The parts stand behind the slash.
      apply exact_placeParts (before ++ ['/'])
      · simp only [split, segmentSource, String.toList_append, String.toList_join, List.flatMap_map,
          List.append_assoc]
        rfl
      · simp [start, Char.utf8Size]
    · apply ih (before ++ (segmentSource parts).toList) _ (by simpa using split) _ segment member
      simp [start]

/-- The declarations of a query are placed where they are written. -/
theorem exact_placeDeclarations {text : String} {declarations : List PlainDeclaration}
    (before after : List Char) (offset : Nat)
    (split : text.toList = before ++ ((declarationsSource declarations).toList ++ after))
    (start : offset = byteSize before) :
    ∀ declaration ∈ placeDeclarations offset declarations,
      Exact text declaration declaration.value.plain.querySource declaration.value.typeTag := by
  -- Each declaration moves those behind it by its own size and an ampersand.
  induction declarations generalizing before offset with
  | nil => simp [placeDeclarations]
  | cons declared declarations ih =>
    intro declaration member
    cases declarations with
    | nil =>
      rw [placeDeclarations, placeDeclarations, List.mem_singleton] at member
      subst member
      exact declared.exact_placeInQuery (by simpa [declarationsSource] using split) start
    | cons next others =>
      have written : text.toList = before ++ (declared.querySource.toList ++
          ('&' :: ((declarationsSource (next :: others)).toList ++ after))) := by
        simpa [declarationsSource] using split
      rcases List.mem_cons.mp member with rfl | member
      · exact declared.exact_placeInQuery written start
      · apply ih (before ++ declared.querySource.toList ++ ['&']) _ _ _ declaration member
        · simp [written]
        · simp [start, Char.utf8Size]
          omega

/-- Segments side by side leave no gap. -/
theorem contiguous_placeSegments (offset : Nat) (segments : List (List PlainPart)) :
    Contiguous offset ((placeSegments offset segments).map Located.span)
      (offset + byteSize (segments.flatMap fun parts => (segmentSource parts).toList)) := by
  -- Each segment starts where the one before it stops.
  induction segments generalizing offset with
  | nil => simp [placeSegments, Contiguous]
  | cons parts segments ih =>
    have later := ih (offset + byteSize (segmentSource parts).toList)
    -- A segment has at least its slash.
    have slash := Char.utf8Size_pos '/'
    have size : byteSize (segmentSource parts).toList =
        '/'.utf8Size + byteSize (String.join (parts.map PlainPart.source)).toList := by
      rw [segmentSource, String.toList_append]
      rfl
    refine ⟨rfl, ?_, ?_⟩
    · show offset < offset + byteSize (segmentSource parts).toList
      omega
    · simpa [Nat.add_assoc] using later

/-! The order of tags and names. -/

/-- The tag and the name of a declaration, in the order in which they are written. -/
def Entry.written (entry : Entry) : List (Located String) :=
  match entry.source with
  | .path => [entry.declaration.typeTag, entry.declaration.name]
  | .query => [entry.declaration.name, entry.declaration.typeTag]

/-- Words that stand one behind the other between two offsets. -/
structure Rising (low : Nat) (words : List (Located String)) (high : Nat) : Prop where
  /-- There is room for them. -/
  ordered : low ≤ high
  /-- All of them stand there. -/
  inside : ∀ word ∈ words, low ≤ word.span.start ∧ word.span.stop < high
  /-- Each ends before the next one starts. -/
  apart : words.Pairwise fun left right => left.span.stop < right.span.start

namespace Rising

/-- No words rise between any two offsets with room for them. -/
theorem nil {low high : Nat} (ordered : low ≤ high) : Rising low [] high :=
  ⟨ordered, by simp, .nil⟩

/-- Words that rise up to an offset and words that rise from it on rise together. -/
theorem append {low middle high : Nat} {first second : List (Located String)}
    (begun : Rising low first middle) (ended : Rising middle second high) :
    Rising low (first ++ second) high := by
  have lower := begun.ordered
  have upper := ended.ordered
  refine ⟨by omega, ?_, ?_⟩
  · intro name member
    rcases List.mem_append.mp member with member | member
    · have bounds := begun.inside name member
      omega
    · have bounds := ended.inside name member
      omega
  -- A name of the first ends before the middle, where the second begins.
  · refine List.pairwise_append.mpr ⟨begun.apart, ended.apart, ?_⟩
    intro left member right behind
    have early := begun.inside left member
    have late := ended.inside right behind
    omega

/-- Words that rise between two offsets rise between every two around them. -/
theorem mono {low floor high top : Nat} {names : List (Located String)}
    (rising : Rising floor names top) (lower : low ≤ floor) (upper : top ≤ high) :
    Rising low names high := by
  -- There are no words in the room that is added on either side.
  have room := (nil lower).append (rising.append (nil upper))
  simpa using room

end Rising

/-- Some of the words rise as all of them do. -/
theorem Rising.sublist {low high : Nat} {words some : List (Located String)}
    (rising : Rising low words high) (part : some.Sublist words) : Rising low some high :=
  -- Leaving words out brings no others closer together.
  ⟨rising.ordered, fun word member => rising.inside word (part.subset member),
    rising.apart.sublist part⟩

/-- Tag and name of a declaration in the path stand inside its braces. -/
theorem rising_placeInPath (declaration : PlainDeclaration) (offset : Nat) :
    Rising offset (Entry.written ⟨.path, (declaration.placeInPath offset).value⟩)
      (offset + byteSize declaration.pathSource.toList) := by
  -- The brace behind the name is a byte, and so are the marks before it.
  have marks : byteSize "\x7b".toList = 1 ∧ byteSize ":".toList = 1 ∧ byteSize "\x7d".toList = 1 := by
    decide
  refine ⟨by omega, ?_, ?_⟩
  · simp only [Entry.written, List.mem_cons, List.not_mem_nil, or_false]
    rintro word (rfl | rfl)
    all_goals
      simp only [PlainDeclaration.placeInPath, locateText, PlainDeclaration.pathSource,
        String.toList_append, byteSize_append]
      omega
  -- The colon keeps them apart.
  · simp only [Entry.written, List.pairwise_pair, PlainDeclaration.placeInPath, locateText]
    omega

/-- Name and tag of a declaration in the query stand before its closing brace. -/
theorem rising_placeInQuery (declaration : PlainDeclaration) (offset : Nat) :
    Rising offset (Entry.written ⟨.query, (declaration.placeInQuery offset).value⟩)
      (offset + byteSize declaration.querySource.toList) := by
  -- The equals sign and the two braces are a byte each.
  have marks : byteSize "=\x7b".toList = 2 ∧ byteSize "\x7d".toList = 1 := by decide
  refine ⟨by omega, ?_, ?_⟩
  · simp only [Entry.written, List.mem_cons, List.not_mem_nil, or_false]
    rintro word (rfl | rfl)
    all_goals
      simp only [PlainDeclaration.placeInQuery, locateText, PlainDeclaration.querySource,
        String.toList_append, byteSize_append]
      omega
  -- The equals sign and the brace keep them apart.
  · simp only [Entry.written, List.pairwise_pair, PlainDeclaration.placeInQuery, locateText]
    omega

/-- Tags and names of the declarations among some parts rise within the parts. -/
theorem rising_placeParts (offset : Nat) (parts : List PlainPart) :
    Rising offset (((placeParts offset parts).filterMap SegmentPart.declaration?).flatMap
        fun declaration => Entry.written ⟨.path, declaration.value⟩)
      (offset + byteSize (parts.flatMap fun part => part.source.toList)) := by
  -- Literal text moves the words behind it, and a placeholder adds its own in front of them.
  induction parts generalizing offset with
  | nil => exact .nil (by omega)
  | cons part parts ih =>
    have later := ih (offset + byteSize part.source.toList)
    rw [List.flatMap_cons, byteSize_append, ← Nat.add_assoc]
    cases part with
    | literal text => exact later.mono (by omega) (by omega)
    | placeholder declared => exact (rising_placeInPath declared offset).append later

/-- Tags and names of the declarations of the path rise within its segments. -/
theorem rising_placeSegments (offset : Nat) (segments : List (List PlainPart)) :
    Rising offset (((placeSegments offset segments).flatMap fun segment =>
        segment.value.filterMap SegmentPart.declaration?).flatMap fun declaration =>
          Entry.written ⟨.path, declaration.value⟩)
      (offset + byteSize (segments.flatMap fun parts => (segmentSource parts).toList)) := by
  -- Each segment is a room of its own, behind the segments before it.
  induction segments generalizing offset with
  | nil => exact .nil (by omega)
  | cons parts segments ih =>
    have later := ih (offset + byteSize (segmentSource parts).toList)
    -- The slash is one byte, behind which the parts stand.
    have inside : Rising offset _ (offset + byteSize (segmentSource parts).toList) :=
      (rising_placeParts (offset + 1) parts).mono (by omega)
        (by simp [segmentSource, List.flatMap_map, Char.utf8Size, Nat.add_assoc])
    have both := inside.append later
    simpa [placeSegments, Nat.add_assoc] using both

/-- Names and tags of the declarations of a query rise within it. -/
theorem rising_placeDeclarations (offset : Nat) (declarations : List PlainDeclaration) :
    Rising offset ((placeDeclarations offset declarations).flatMap fun declaration =>
        Entry.written ⟨.query, declaration.value⟩)
      (offset + byteSize (declarationsSource declarations).toList) := by
  -- Each declaration is a room of its own, and the ampersands lie between the rooms.
  induction declarations generalizing offset with
  | nil => exact .nil (by omega)
  | cons declared declarations ih =>
    have first := rising_placeInQuery declared offset
    cases declarations with
    | nil => simpa [placeDeclarations, declarationsSource] using first
    | cons next others =>
      -- An ampersand stands between the first declaration and the next.
      have later := ih (offset + byteSize declared.querySource.toList + 1)
      have both := (first.mono (Nat.le_refl _) (Nat.le_succ _)).append later
      simpa [placeDeclarations, declarationsSource, Char.utf8Size, Nat.add_assoc] using both

/-! Whole trees. -/

/-- The written path of a tree, character by character. -/
theorem PlainTree.pathSource_toList (plain : PlainTree) :
    plain.pathSource.toList = plain.segments.flatMap fun parts => (segmentSource parts).toList := by
  -- Joining texts puts their characters side by side.
  simp [pathSource, List.flatMap_map]

/-- The tags and names of a tree, as its declarations have them. -/
theorem TemplateTree.written_entries (tree : TemplateTree) :
    tree.entries.flatMap Entry.written =
      (tree.pathDeclarations.flatMap fun declaration => Entry.written ⟨.path, declaration.value⟩) ++
        tree.queryDeclarations.flatMap fun declaration =>
          Entry.written ⟨.query, declaration.value⟩ := by
  -- The entries of the path come before those of the query.
  simp [entries, pathEntries, queryEntries, List.flatMap_map]

/-- The names are some of the tags and names. -/
theorem Entry.names_sublist_written (entries : List Entry) :
    (Entry.names entries).Sublist (entries.flatMap Entry.written) := by
  -- Each entry keeps one word of two.
  induction entries with
  | nil => exact .slnil
  | cons entry rest ih =>
    obtain ⟨source, declaration⟩ := entry
    cases source with
    | path => exact (ih.cons_cons declaration.name).cons declaration.typeTag
    | query => exact (ih.cons declaration.typeTag).cons_cons declaration.name

/-- The tags and names of a written template stand one behind the other. -/
theorem PlainTree.rising_source (plain : PlainTree) :
    Rising 0 (plain.place.entries.flatMap Entry.written) (byteSize plain.source.toList) := by
  -- The path is one room, and the query behind it another.
  have early := rising_placeSegments 0 plain.segments
  rw [Nat.zero_add, ← plain.pathSource_toList] at early
  change Rising 0 (plain.place.pathDeclarations.flatMap _) _ at early
  rw [TemplateTree.written_entries]
  cases present : plain.query with
  | none =>
    have none : plain.place.queryDeclarations = [] := by
      simp [TemplateTree.queryDeclarations, place, present]
    simpa [none, source, querySource, present] using early
  -- Those of the query stand behind the path and the question mark.
  | some declarations =>
    let start := byteSize plain.pathSource.toList
    have declared : plain.place.queryDeclarations = placeDeclarations (start + 1) declarations := by
      simp [TemplateTree.queryDeclarations, place, present, start]
    have late := rising_placeDeclarations (start + 1) declarations
    rw [declared]
    have both := early.append (late.mono (Nat.le_succ start) (Nat.le_refl _))
    simpa [source, querySource, present, start, Char.utf8Size, Nat.add_assoc] using both

/-- The tree of a written template has its parts where they are written. -/
theorem PlainTree.exactIn_source (plain : PlainTree) : plain.place.ExactIn plain.source := by
  -- The text is the path and, where there is one, the query behind it.
  have path : plain.source.toList = [] ++
      ((plain.segments.flatMap fun parts => (segmentSource parts).toList) ++
        plain.querySource.toList) := by
    simp [source, pathSource_toList]
  have segments := exact_placeSegments [] plain.querySource.toList 0 path rfl
  -- The segments cover the path from its start to its end.
  have tiled : Contiguous 0 (plain.place.segments.map Located.span)
      (byteSize plain.pathSource.toList) := by
    have contiguous := contiguous_placeSegments 0 plain.segments
    rwa [Nat.zero_add, ← plain.pathSource_toList] at contiguous
  have apart := (plain.rising_source.sublist (Entry.names_sublist_written _)).apart
  -- A declaration of the path belongs to one of the segments.
  have inPath : ∀ declaration ∈ plain.place.pathDeclarations,
      Exact plain.source declaration declaration.value.plain.pathSource declaration.value.name := by
    intro declaration member
    obtain ⟨segment, inside, found⟩ := List.mem_flatMap.mp member
    exact (segments segment inside).2 declaration found
  cases present : plain.query with
  | none =>
    have absent : plain.place.query = none := by simp [place, present]
    have none : plain.place.queryDeclarations = [] := by
      simp [TemplateTree.queryDeclarations, absent]
    refine ⟨inPath, by simp [none], fun segment member => (segments segment member).1, ?_,
      by simp [absent], apart⟩
    simpa [absent, source, querySource, present] using tiled
  | some declarations =>
    -- The declarations stand behind the path and the question mark.
    let start := byteSize plain.pathSource.toList
    have given : plain.place.query = some ⟨placeDeclarations (start + 1) declarations,
        ⟨start, byteSize plain.source.toList⟩⟩ := by
      simp [place, present, start]
    have declared : plain.place.queryDeclarations = placeDeclarations (start + 1) declarations := by
      simp [TemplateTree.queryDeclarations, given]
    have written : plain.source.toList =
        plain.pathSource.toList ++ '?' :: (declarationsSource declarations).toList := by
      simp [source, querySource, present]
    refine ⟨inPath, ?_, fun segment member => (segments segment member).1, ?_, ?_, apart⟩
    · rw [declared]
      apply exact_placeDeclarations (plain.pathSource.toList ++ ['?']) []
      · simp [written]
      · simp [start, Char.utf8Size]
    · simpa [given] using tiled
    · intro query member
      rw [given] at member
      cases member
      rw [plain_placeDeclarations]
      refine ⟨rfl, ?_⟩
      apply Span.covers_of_split plain.pathSource.toList []
      · simp [written]
      · rfl
      · simp [written, start, Char.utf8Size]

/-- An entry is a declaration of the tree, and its tag and name are where they are written. -/
theorem TemplateTree.ExactIn.covers_entry {tree : TemplateTree} {text : String}
    (exact : tree.ExactIn text) {entry : Entry} (member : entry ∈ tree.entries) :
    entry.declaration.typeTag.span.Covers text entry.declaration.typeTag.value ∧
      entry.declaration.name.span.Covers text entry.declaration.name.value := by
  -- Each source has its own order of tag and name, but both words are covered either way.
  rcases List.mem_append.mp member with member | member
  · obtain ⟨declaration, inside, rfl⟩ := List.mem_map.mp member
    have placed := exact.path declaration inside
    exact ⟨placed.typeTag, placed.name⟩
  · obtain ⟨declaration, inside, rfl⟩ := List.mem_map.mp member
    have placed := exact.query declaration inside
    exact ⟨placed.typeTag, placed.name⟩

/-- Names and tags that are reported with their start are covered by the span of the error. -/
theorem Span.Covers.of_start {span : Span} {text part : String} (covers : span.Covers text part) :
    (Span.mk span.start (span.start + byteSize part.toList)).Covers text part := by
  rw [← covers.stop_eq]
  exact covers

/-- The error of a tree points at the text of the tree. -/
theorem TemplateTree.ExactIn.pointsInto {tree : TemplateTree} {text : String}
    (exact : tree.ExactIn text) {error : TemplateError} (failed : tree.resolve = .error error) :
    error.PointsInto text := by
  obtain ⟨before, faulty, first, cause⟩ := TemplateTree.firstFault_of_resolve failed
  -- The faulty entry is an entry of the tree, and so are those before it.
  obtain ⟨after, split⟩ := first.split
  have member : faulty ∈ tree.entries := by simp [split]
  obtain ⟨tag, name⟩ := exact.covers_entry member
  -- An error names the tag or the name of the faulty entry, and a repeated name also that of an
  -- earlier entry.
  cases cause with
  | pathType declaration => exact tag.of_start
  | pathName declaration => exact name.of_start
  | queryName declaration => exact name.of_start
  | queryType declaration => exact tag.of_start
  | repeated entry original earlier later _ _ whole same =>
    have present : original ∈ tree.entries := by simp [split, whole]
    have covered := (exact.covers_entry present).2
    rw [same] at covered
    refine ⟨rfl, name, covered, ?_⟩
    -- The first name stands before the second in the order of declaration.
    have rising := exact.names
    rw [split, whole] at rising
    simp only [Entry.names, List.append_assoc, List.cons_append, List.map_append, List.map_cons,
      List.pairwise_append, List.pairwise_cons] at rising
    exact rising.2.1.1 _ (by simp)

/-- All places of a tree are exact, and an error of a declaration points at the tag or name that it
is about. -/
theorem parseTree_exact (text : String) :
    (∀ tree, parseTree text = .ok tree → tree.ExactIn text) ∧
    (∀ error, parseParams text = .error error → error.PointsInto text) := by
  -- An accepted text is the source of a tree, whose places are those of the source.
  have exact : ∀ tree, parseTree text = .ok tree → tree.ExactIn text := by
    intro tree read
    obtain ⟨plain, -, rfl, rfl⟩ := parseTree_eq_ok_iff.mp read
    exact plain.exactIn_source
  refine ⟨exact, ?_⟩
  intro error failed
  unfold parseParams at failed
  cases read : parseTree text with
  | ok tree =>
    rw [read] at failed
    exact (exact tree read).pointsInto failed
  -- Syntax errors are not about declarations.
  | error other =>
    rw [read] at failed
    cases failed
    unfold parseTree at read
    split at read
    · cases read
      trivial
    · split at read
      · cases read
      · cases read
        trivial

/-- A template with a default of two-byte characters, in which a name is declared twice. -/
def twiceTree : PlainTree :=
  ⟨[[.placeholder ⟨"int", "id", some "é="⟩], [.literal "é"]], some [⟨"string", "id", none⟩]⟩

/-- The places of a tree with characters of two bytes, and those of the error for its second
declaration. -/
theorem parseTree_exact_twice :
    parseTree "/\x7bint:id=é=\x7d/é?id=\x7bstring\x7d" = .ok twiceTree.place ∧
      parseParams "/\x7bint:id=é=\x7d/é?id=\x7bstring\x7d" =
        .error (.repeatedName "id" ⟨6, 8⟩ ⟨17, 19⟩) ∧
      twiceTree.place.ExactIn "/\x7bint:id=é=\x7d/é?id=\x7bstring\x7d" ∧
      (TemplateError.repeatedName "id" ⟨6, 8⟩ ⟨17, 19⟩).PointsInto
        "/\x7bint:id=é=\x7d/é?id=\x7bstring\x7d" := by
  have read : parseTree "/\x7bint:id=é=\x7d/é?id=\x7bstring\x7d" = .ok twiceTree.place := by rfl
  have failed : parseParams "/\x7bint:id=é=\x7d/é?id=\x7bstring\x7d" =
      .error (.repeatedName "id" ⟨6, 8⟩ ⟨17, 19⟩) := by rfl
  have both := parseTree_exact "/\x7bint:id=é=\x7d/é?id=\x7bstring\x7d"
  exact ⟨read, failed, both.1 _ read, both.2 _ failed⟩

end TypedRoutes

import TypedRoutes.Proofs.Template.Written
import TypedRoutes.Proofs.Template.Steps

/-! Reading the text of a well-formed tree gives that tree, with the places of its parts. -/

namespace TypedRoutes

/-- Adding text leaves at least one part. -/
theorem Segment.addText_ne_nil (parts : Segment) (text : String) :
    Segment.addText parts text ≠ [] := by
  -- Each of its cases gives a first part.
  fun_cases Segment.addText parts text <;> simp

/-- Literal text may be added at once or bit by bit. -/
theorem Segment.addText_addText (parts : Segment) (first second : String) :
    Segment.addText (Segment.addText parts first) second =
      Segment.addText parts (first ++ second) := by
  -- The text goes to the same part both times, since no part is added behind it.
  fun_induction Segment.addText parts first with
  | case1 text => simp [Segment.addText]
  | case2 before text => simp [Segment.addText, String.append_assoc]
  | case3 part rest text notLast ih =>
    rw [Segment.addText.eq_3 _ part rest notLast, Segment.addText.eq_3, ih]
    intro before _ empty
    exact absurd empty (Segment.addText_ne_nil rest text)

/-- Behind a placeholder, literal text is a part of its own. -/
theorem Segment.addText_eq_append {parts : Segment} {text : String}
    (apart : ∀ before, parts.getLast? ≠ some (.literal before)) :
    Segment.addText parts text = parts ++ [.literal text] := by
  -- The text passes by every part, since the last one is no literal.
  fun_induction Segment.addText parts text with
  | case1 text => rfl
  | case2 before text => exact absurd rfl (apart before)
  | case3 part rest text notLast ih =>
    cases rest with
    | nil => rfl
    | cons next others =>
      rw [ih (fun before => by simpa [List.getLast?_cons_cons] using apart before)]
      rfl

/-- Literal text may be added to a path at once or bit by bit. -/
theorem OpenPath.addText_addText (path : OpenPath) (first second : Located String) :
    (path.addText first).addText second =
      path.addText ⟨first.value ++ second.value, ⟨first.span.start, second.span.stop⟩⟩ := by
  simp [addText, Segment.addText_addText]

/-- The path with further parts in its last segment. -/
def OpenPath.extend (path : OpenPath) (parts : Segment) (stop : Nat) : OpenPath :=
  ⟨path.segments, path.parts ++ parts, ⟨path.span.start, stop⟩⟩

/-- Literal text is cut into tokens that are literal text. -/
theorem Token.isLiteral_of_mem_cut {text : String}
    (free : FilledWithout ['/', '?', '{', '}'] text) {token : Token} (member : token ∈ cut text) :
    token.IsLiteral := by
  -- The other tokens would bring one of the four characters into the text.
  have inside : ∀ c ∈ token.source.toList, c ∉ ['/', '?', '{', '}'] :=
    fun c found => free.2 c (source_subset member c found)
  cases token <;> simp_all [IsLiteral, isRun, source]

/-- A default is cut into tokens that defaults are made of. -/
theorem Token.isDefault_of_mem_cut {text : String} (free : FilledWithout ['{', '}'] text)
    {token : Token} (member : token ∈ cut text) : token.IsDefault := by
  -- A brace would be a character of the text.
  have inside : ∀ c ∈ token.source.toList, c ∉ ['{', '}'] :=
    fun c found => free.2 c (source_subset member c found)
  cases token <;> simp_all [IsDefault, source]

namespace State

/-- Tokens of literal text are added to the segment. -/
theorem steps_literal (before : OpenPath) (defaulted : Option Span) (offset : Nat)
    {tokens : List Token} (filled : tokens ≠ [])
    (literal : ∀ token ∈ tokens, token.IsLiteral) :
    (path before defaulted).steps (Token.locate offset tokens) =
      some (path (before.addText (locateText offset (String.ofList (Token.spell tokens)))) none) := by
  -- Each token is added to what the tokens before it have left.
  induction tokens generalizing before defaulted offset with
  | nil => exact absurd rfl filled
  | cons token others ih =>
    have stepped (span : Span) : (path before defaulted).step ⟨token, span⟩ =
        some (path (before.addText ⟨token.source, span⟩) none) := by
      have kind := literal token (by simp)
      cases token <;> simp_all [Token.IsLiteral, Token.isRun, step]
    rw [Token.locate, steps_cons, stepped, Option.bind_some]
    cases others with
    | nil => simp [Token.locate, locateText]
    | cons next others =>
      -- Two texts that are added one after the other are added as one.
      rw [ih _ _ _ (by simp) (fun other member => literal other (by simp [member])),
        OpenPath.addText_addText]
      simp [locateText, Nat.add_assoc]

/-- Tokens inside a default are added to it. -/
theorem steps_defaultText (site : Site) (begun : Nat) (typeTag called : Located String)
    (value : String) (start offset : Nat) {tokens : List Token}
    (inside : ∀ token ∈ tokens, token.IsDefault) :
    (defaultText site begun typeTag called ⟨value, ⟨start, offset⟩⟩).steps
        (Token.locate offset tokens) =
      some (defaultText site begun typeTag called ⟨value ++ String.ofList (Token.spell tokens),
        ⟨start, offset + byteSize (Token.spell tokens)⟩⟩) := by
  -- The default keeps its start, and its stop is always the offset that was reached.
  induction tokens generalizing value offset with
  | nil => simp [Token.locate]
  | cons token others ih =>
    have stepped (span : Span) :
        (defaultText site begun typeTag called ⟨value, ⟨start, offset⟩⟩).step ⟨token, span⟩ =
          some (defaultText site begun typeTag called
            ⟨value ++ token.source, ⟨start, span.stop⟩⟩) := by
      have kind := inside token (by simp)
      cases token <;> simp_all [Token.IsDefault, step]
    rw [Token.locate, steps_cons, stepped, Option.bind_some,
      ih _ _ (fun other member => inside other (by simp [member]))]
    simp [String.append_assoc, Nat.add_assoc]

/-- The tokens behind an equals sign are the default. -/
theorem steps_defaultStart (site : Site) (begun : Nat) (typeTag called : Located String)
    (offset : Nat) {tokens : List Token} (filled : tokens ≠ [])
    (inside : ∀ token ∈ tokens, token.IsDefault) :
    (defaultStart site begun typeTag called).steps (Token.locate offset tokens) =
      some (defaultText site begun typeTag called
        (locateText offset (String.ofList (Token.spell tokens)))) := by
  -- The first token starts the text of the default, and the others are added to it.
  cases tokens with
  | nil => exact absurd rfl filled
  | cons token others =>
    have stepped (span : Span) : (defaultStart site begun typeTag called).step ⟨token, span⟩ =
        some (defaultText site begun typeTag called ⟨token.source, span⟩) := by
      have kind := inside token (by simp)
      cases token <;> simp_all [Token.IsDefault, step]
    rw [Token.locate, steps_cons, stepped, Option.bind_some,
      steps_defaultText _ _ _ _ _ _ _ (fun other member => inside other (by simp [member]))]
    simp [locateText, Nat.add_assoc]

/-- The default of a declaration and its closing brace complete the declaration. -/
theorem steps_declarationEnd (site : Site) (begun : Nat) (typeTag called : Located String)
    {declaration : PlainDeclaration} (wellFormed : declaration.WellFormed) (offset : Nat) :
    ∃ defaulted, (tail site begun typeTag called).steps
        (Token.locate offset (declaration.defaultTokens ++ [.closeBrace])) =
      some (site.close ⟨⟨typeTag, called, declaration.default.map (locateText (offset + 1))⟩,
        ⟨begun, offset + byteSize declaration.defaultSource.toList + 1⟩⟩ defaulted) := by
  unfold PlainDeclaration.defaultTokens PlainDeclaration.defaultSource
  cases present : declaration.default with
  -- Without a default the closing brace is the next token.
  | none => exact ⟨none, rfl⟩
  | some text =>
    have free := wellFormed.default text present
    let stop := offset + 1 + byteSize text.toList
    refine ⟨some ⟨stop, stop + 1⟩, ?_⟩
    have value : String.ofList (Token.spell (Token.cut text)) = text := by simp
    -- The equals sign, the tokens of the default and the brace are read in turn.
    have equals (span : Span) : (tail site begun typeTag called).step ⟨.equals, span⟩ =
        some (defaultStart site begun typeTag called) := rfl
    rw [List.cons_append, Token.locate, steps_cons, equals, Option.bind_some,
      Token.locate_append, steps_append,
      steps_defaultStart _ _ _ _ _ (Token.cut_ne_nil free.1)
        (fun token member => Token.isDefault_of_mem_cut free member), Option.bind_some, value]
    simp [Token.locate, step, locateText, Token.source, stop, Char.utf8Size, Nat.add_assoc]

/-- A declaration in the path is added to the segment. -/
theorem steps_placeholder (before : OpenPath) (opened : Option Span)
    {declaration : PlainDeclaration} (wellFormed : declaration.WellFormed) (offset : Nat) :
    ∃ defaulted, (path before opened).steps (Token.locate offset declaration.pathTokens) =
      some (path (before.addPlaceholder (declaration.placeInPath offset)) defaulted) := by
  let typeTag := locateText (offset + 1) declaration.typeTag
  let called := locateText (typeTag.span.stop + 1) declaration.name
  obtain ⟨defaulted, ended⟩ :=
    steps_declarationEnd (.path before) offset typeTag called wellFormed called.span.stop
  refine ⟨defaulted, ?_⟩
  -- The head of the declaration is four tokens, and its end has been read already.
  rw [PlainDeclaration.pathTokens, Token.locate_append, steps_append]
  have head : (path before opened).steps (Token.locate offset
      [.openBrace, .text declaration.typeTag, .colon, .text declaration.name]) =
        some (tail (.path before) offset typeTag called) := by
    simp [Token.locate, step, Token.source, typeTag, called, locateText, Char.utf8Size]
  -- The name ends where the end of the declaration starts, and the brace ends the whole.
  have reached : offset + byteSize (Token.spell
      [.openBrace, .text declaration.typeTag, .colon, .text declaration.name]) =
        called.span.stop := by
    simp [Token.source, typeTag, called, locateText, Char.utf8Size, Nat.add_assoc]
  have stop : called.span.stop + byteSize declaration.defaultSource.toList + 1 =
      offset + byteSize declaration.pathSource.toList := by
    simp [PlainDeclaration.pathSource, typeTag, called, locateText, Char.utf8Size, Nat.add_assoc]
  rw [head, Option.bind_some, reached, ended, stop]
  rfl

/-- A declaration in the query is added to the query. -/
theorem steps_queryDeclaration (before : OpenQuery) {declaration : PlainDeclaration}
    (wellFormed : declaration.WellFormed) (offset : Nat) :
    ∃ defaulted, (queryName before).steps (Token.locate offset declaration.queryTokens) =
      some (query (before.add (declaration.placeInQuery offset)) defaulted) := by
  let called := locateText offset declaration.name
  let typeTag := locateText (called.span.stop + 2) declaration.typeTag
  obtain ⟨defaulted, ended⟩ :=
    steps_declarationEnd (.query before) offset typeTag called wellFormed typeTag.span.stop
  refine ⟨defaulted, ?_⟩
  -- As in the path, but the name comes first and two characters stand before the type tag.
  rw [PlainDeclaration.queryTokens, Token.locate_append, steps_append]
  have head : (queryName before).steps (Token.locate offset
      [.text declaration.name, .equals, .openBrace, .text declaration.typeTag]) =
        some (tail (.query before) offset typeTag called) := by
    simp [Token.locate, step, Token.source, typeTag, called, locateText, Char.utf8Size]
  -- Here it is the type tag that ends there.
  have reached : offset + byteSize (Token.spell
      [.text declaration.name, .equals, .openBrace, .text declaration.typeTag]) =
        typeTag.span.stop := by
    simp [Token.source, typeTag, called, locateText, Char.utf8Size]
    omega
  have stop : typeTag.span.stop + byteSize declaration.defaultSource.toList + 1 =
      offset + byteSize declaration.querySource.toList := by
    simp [PlainDeclaration.querySource, typeTag, called, locateText, Char.utf8Size]
    omega
  rw [head, Option.bind_some, reached, ended, stop]
  rfl

/-- A part is added to the segment. -/
theorem steps_part (before : OpenPath) (opened : Option Span) {part : PlainPart}
    (wellFormed : part.WellFormed) (apart : ∀ last ∈ before.parts.getLast?, last.plain.Apart part)
    (offset : Nat) :
    ∃ defaulted, (path before opened).steps (Token.locate offset part.tokens) =
      some (path (before.extend [part.place offset] (offset + byteSize part.source.toList))
        defaulted) := by
  cases part with
  | literal text =>
    -- No literal stands before this one, so it becomes a part of its own.
    have separate : ∀ earlier, before.parts.getLast? ≠ some (.literal earlier) := by
      intro earlier last
      exact apart _ last ⟨rfl, rfl⟩
    refine ⟨none, ?_⟩
    rw [PlainPart.tokens, steps_literal _ _ _ (Token.cut_ne_nil wellFormed.1)
      (fun token member => Token.isLiteral_of_mem_cut wellFormed member)]
    simp [OpenPath.addText, Segment.addText_eq_append separate, OpenPath.extend, PlainPart.place,
      PlainPart.source, locateText]
  | placeholder declaration => exact steps_placeholder before opened wellFormed offset

/-- Parts side by side are added to the segment. -/
theorem steps_parts (before : OpenPath) (opened : Option Span) {parts : List PlainPart}
    (wellFormed : ∀ part ∈ parts, part.WellFormed)
    (apart : (before.parts.map SegmentPart.plain ++ parts).IsChain PlainPart.Apart) (offset : Nat)
    (reached : before.span.stop = offset) :
    ∃ defaulted, (path before opened).steps
        (Token.locate offset (parts.flatMap PlainPart.tokens)) =
      some (path (before.extend (placeParts offset parts)
        (offset + byteSize (parts.flatMap fun part => part.source.toList))) defaulted) := by
  -- What was read before stays in front, so the next part must stand apart from its last part.
  induction parts generalizing before opened offset with
  | nil =>
    refine ⟨opened, ?_⟩
    simp [Token.locate, placeParts, OpenPath.extend, ← reached]
  | cons part others ih =>
    have alone : ∀ last ∈ before.parts.getLast?, last.plain.Apart part := by
      intro last final
      have pair := (List.isChain_append.mp apart).2.2
      exact pair last.plain (by simpa using ⟨last, final, rfl⟩) part (by simp)
    obtain ⟨middle, first⟩ := steps_part before opened (wellFormed part (by simp)) alone offset
    -- The part that was just read is now the last one.
    obtain ⟨defaulted, later⟩ := ih
      (before.extend [part.place offset] (offset + byteSize part.source.toList)) middle
      (fun other member => wellFormed other (by simp [member]))
      (by simpa [OpenPath.extend] using apart) (offset + byteSize part.source.toList) rfl
    refine ⟨defaulted, ?_⟩
    rw [List.flatMap_cons, Token.locate_append, steps_append, first, Option.bind_some,
      PlainPart.spell_tokens, later]
    simp [OpenPath.extend, placeParts, Nat.add_assoc]

/-- A segment is read where a slash opens one. -/
theorem steps_segment {state : State} (closed : List (Located Segment)) {parts : List PlainPart}
    (wellFormed : ∀ part ∈ parts, part.WellFormed) (apart : parts.IsChain PlainPart.Apart)
    (offset : Nat)
    (opens : ∀ span, state.step ⟨.slash, span⟩ = some (path ⟨closed, [], span⟩ none)) :
    ∃ defaulted, state.steps (Token.locate offset (segmentTokens parts)) =
      some (path ⟨closed, placeParts (offset + 1) parts,
        ⟨offset, offset + byteSize (segmentSource parts).toList⟩⟩ defaulted) := by
  -- The slash leaves an empty segment, to which the parts are added.
  obtain ⟨defaulted, inside⟩ := steps_parts ⟨closed, [], ⟨offset, offset + 1⟩⟩ none wellFormed
    (by simpa using apart) (offset + 1) rfl
  refine ⟨defaulted, ?_⟩
  have slash : byteSize Token.slash.source.toList = 1 := rfl
  rw [segmentTokens, Token.locate, steps_cons, opens, Option.bind_some, slash, inside]
  simp [OpenPath.extend, segmentSource, List.flatMap_map, Char.utf8Size, Nat.add_assoc]

/-- Segments side by side are added to the path. -/
theorem steps_segments (before : OpenPath) (opened : Option Span)
    {segments : List (List PlainPart)}
    (wellFormed : ∀ parts ∈ segments, ∀ part ∈ parts, part.WellFormed)
    (apart : ∀ parts ∈ segments, parts.IsChain PlainPart.Apart) (offset : Nat) :
    ∃ after defaulted, after.close = before.close ++ placeSegments offset segments ∧
      (path before opened).steps (Token.locate offset (segments.flatMap segmentTokens)) =
        some (path after defaulted) := by
  -- Each slash closes the segment before it, whatever that segment holds.
  induction segments generalizing before opened offset with
  | nil => exact ⟨before, opened, by simp [placeSegments], rfl⟩
  | cons parts others ih =>
    have opens (span : Span) : (path before opened).step ⟨.slash, span⟩ =
        some (path ⟨before.close, [], span⟩ none) := rfl
    obtain ⟨middle, first⟩ := steps_segment before.close (wellFormed parts (by simp))
      (apart parts (by simp)) offset opens
    -- Behind the segment the path goes on from what was closed and the new segment.
    let behind : OpenPath := ⟨before.close, placeParts (offset + 1) parts,
      ⟨offset, offset + byteSize (segmentSource parts).toList⟩⟩
    obtain ⟨after, defaulted, closed, later⟩ := ih behind middle
      (fun other member => wellFormed other (by simp [member]))
      (fun other member => apart other (by simp [member]))
      (offset + byteSize (segmentSource parts).toList)
    refine ⟨after, defaulted, ?_, ?_⟩
    · rw [closed]
      simp [OpenPath.close, placeSegments, behind]
    · rw [List.flatMap_cons, Token.locate_append, steps_append, first, Option.bind_some,
        spell_segmentTokens, later]

/-- The declarations of a query are added to it. -/
theorem steps_declarations (before : OpenQuery) {declarations : List PlainDeclaration}
    (filled : declarations ≠ [])
    (wellFormed : ∀ declaration ∈ declarations, declaration.WellFormed) (offset : Nat) :
    ∃ defaulted,
      (queryName before).steps (Token.locate offset (declarationsTokens declarations)) =
        some (query { before with
          declarations := before.declarations ++ placeDeclarations offset declarations }
            defaulted) := by
  -- The recursion of the tokens tells the last declaration from those with an ampersand behind.
  induction declarations using declarationsTokens.induct generalizing before offset with
  | case1 => exact absurd rfl filled
  | case2 declaration =>
    exact steps_queryDeclaration before (wellFormed declaration (by simp)) offset
  | case3 declaration others several ih =>
    cases others with
    | nil => exact absurd rfl several
    | cons next others =>
      -- The declaration is read, then its ampersand, then the others.
      obtain ⟨middle, first⟩ :=
        steps_queryDeclaration before (wellFormed declaration (by simp)) offset
      obtain ⟨defaulted, later⟩ := ih (before.add (declaration.placeInQuery offset)) (by simp)
        (fun other member => wellFormed other (List.mem_cons_of_mem _ member))
        (offset + byteSize declaration.querySource.toList + 1)
      refine ⟨defaulted, ?_⟩
      have ampersand (span : Span) :
          (query (before.add (declaration.placeInQuery offset)) middle).step ⟨.ampersand, span⟩ =
            some (queryName (before.add (declaration.placeInQuery offset))) := rfl
      have width : byteSize Token.ampersand.source.toList = 1 := rfl
      rw [declarationsTokens, Token.locate_append, steps_append, first, Option.bind_some,
        PlainDeclaration.spell_queryTokens, Token.locate, steps_cons, ampersand,
        Option.bind_some, width, later]
      · simp [OpenQuery.add, placeDeclarations]
      · exact several

/-- The question mark closes the path, and the declarations are read behind it. -/
theorem steps_query (before : OpenPath) (opened : Option Span)
    {declarations : List PlainDeclaration} (filled : declarations ≠ [])
    (wellFormed : ∀ declaration ∈ declarations, declaration.WellFormed) (offset : Nat) :
    ∃ defaulted, (path before opened).steps
        (Token.locate offset (.question :: declarationsTokens declarations)) =
      some (query ⟨before.close, offset, placeDeclarations (offset + 1) declarations⟩
        defaulted) := by
  -- Behind the question mark nothing has been declared yet.
  have question (span : Span) : (path before opened).step ⟨.question, span⟩ =
      some (queryName ⟨before.close, span.start, []⟩) := rfl
  have width : byteSize Token.question.source.toList = 1 := rfl
  obtain ⟨defaulted, read⟩ :=
    steps_declarations ⟨before.close, offset, []⟩ filled wellFormed (offset + 1)
  refine ⟨defaulted, ?_⟩
  rw [Token.locate, steps_cons, question, Option.bind_some, width, read]
  simp

end State

/-- The last declaration of a query ends where the query ends. -/
theorem stop_placeDeclarations {declarations : List PlainDeclaration} (filled : declarations ≠ [])
    (offset : Nat) :
    ∃ last ∈ (placeDeclarations offset declarations).getLast?,
      last.span.stop = offset + byteSize (declarationsSource declarations).toList := by
  -- As the declarations are written, with one byte for each ampersand.
  induction declarations using declarationsTokens.induct generalizing offset with
  | case1 => exact absurd rfl filled
  | case2 declaration =>
    exact ⟨declaration.placeInQuery offset, rfl, by
      simp [PlainDeclaration.placeInQuery, declarationsSource]⟩
  | case3 declaration others several ih =>
    cases others with
    | nil => exact absurd rfl several
    | cons next others =>
      obtain ⟨last, final, stop⟩ :=
        ih (by simp) (offset + byteSize declaration.querySource.toList + 1)
      refine ⟨last, ?_, ?_⟩
      · simpa [placeDeclarations, List.getLast?_cons_cons] using final
      · rw [stop]
        simp [declarationsSource, Char.utf8Size, Nat.add_assoc]

/-- The path is read from its first slash. -/
theorem State.steps_path {segments : List (List PlainPart)} (filled : segments ≠ [])
    (wellFormed : ∀ parts ∈ segments, ∀ part ∈ parts, part.WellFormed)
    (apart : ∀ parts ∈ segments, parts.IsChain PlainPart.Apart) :
    ∃ after defaulted, after.close = placeSegments 0 segments ∧
      start.steps (Token.locate 0 (segments.flatMap segmentTokens)) =
        some (path after defaulted) := by
  cases segments with
  | nil => exact absurd rfl filled
  | cons parts others =>
    -- The first slash opens the path instead of closing a segment.
    have opens (span : Span) : start.step ⟨.slash, span⟩ = some (path ⟨[], [], span⟩ none) := rfl
    obtain ⟨middle, first⟩ := steps_segment [] (wellFormed parts (by simp))
      (apart parts (by simp)) 0 opens
    -- From here on every slash closes a segment.
    let behind : OpenPath := ⟨[], placeParts (0 + 1) parts,
      ⟨0, 0 + byteSize (segmentSource parts).toList⟩⟩
    obtain ⟨after, defaulted, closed, later⟩ := steps_segments behind middle
      (fun other (member : other ∈ others) => wellFormed other (by simp [member]))
      (fun other member => apart other (by simp [member]))
      (0 + byteSize (segmentSource parts).toList)
    refine ⟨after, defaulted, ?_, ?_⟩
    · rw [closed]
      simp [OpenPath.close, placeSegments, behind]
    · rw [List.flatMap_cons, Token.locate_append, steps_append, first, Option.bind_some,
        spell_segmentTokens, later]

/-- Reading the tokens of a well-formed tree gives the tree with its places. -/
theorem PlainTree.run_tokens {tree : PlainTree} (wellFormed : tree.WellFormed) (size : Nat) :
    State.start.run size (Token.locate 0 tree.tokens) = .ok tree.place := by
  obtain ⟨after, defaulted, closed, path⟩ :=
    State.steps_path wellFormed.path wellFormed.parts wellFormed.apart
  rw [tokens, Token.locate_append, State.run_append path]
  unfold queryTokens
  -- Without a query the template ends with its path.
  cases present : tree.query with
  | none => simp [Token.locate, State.run, State.finish?, closed, place, present]
  | some declarations =>
    have filled : declarations ≠ [] := by
      rintro rfl
      exact wellFormed.query present
    let begun := byteSize tree.pathSource.toList
    obtain ⟨ended, query⟩ := State.steps_query after defaulted filled
      (wellFormed.declarations declarations present) begun
    -- The query ends with its last declaration, which is the end of the text.
    obtain ⟨last, final, stop⟩ := stop_placeDeclarations filled (begun + 1)
    have finished : (OpenQuery.mk after.close begun (placeDeclarations (begun + 1) declarations)).stop =
        byteSize tree.source.toList := by
      rw [OpenQuery.stop, final]
      simp [stop, PlainTree.source, querySource, present, begun, Char.utf8Size, Nat.add_assoc]
    rw [closed] at query finished
    have read : (State.path after defaulted).run size
        (Token.locate begun (.question :: declarationsTokens declarations)) = .ok tree.place := by
      rw [← List.append_nil (Token.locate _ _), State.run_append query]
      simp [State.run, State.finish?, OpenQuery.tree, place, present]
      exact ⟨rfl, rfl, finished⟩
    rw [tree.spell_pathTokens, Nat.zero_add, read]

end TypedRoutes

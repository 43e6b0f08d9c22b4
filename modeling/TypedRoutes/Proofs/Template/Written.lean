import TypedRoutes.Proofs.Template.Plain

/-! The tokens of a written tree: a well-formed tree is cut at the boundaries it was written with. -/

namespace TypedRoutes

namespace PlainDeclaration

/-- The tokens of a default with its equals sign. -/
def defaultTokens (declaration : PlainDeclaration) : List Token :=
  match declaration.default with
  | none => []
  | some text => .equals :: Token.cut text

/-- The tokens of a declaration in the path. -/
def pathTokens (declaration : PlainDeclaration) : List Token :=
  [.openBrace, .text declaration.typeTag, .colon, .text declaration.name] ++
    (declaration.defaultTokens ++ [.closeBrace])

/-- The tokens of a declaration in the query. -/
def queryTokens (declaration : PlainDeclaration) : List Token :=
  [.text declaration.name, .equals, .openBrace, .text declaration.typeTag] ++
    (declaration.defaultTokens ++ [.closeBrace])

end PlainDeclaration

/-- The tokens of a part. -/
def PlainPart.tokens : PlainPart → List Token
  | literal text => Token.cut text
  | placeholder declaration => declaration.pathTokens

/-- The tokens of a segment with its slash. -/
def segmentTokens (parts : List PlainPart) : List Token :=
  .slash :: parts.flatMap PlainPart.tokens

/-- The tokens of the declarations of a query, with ampersands between them. -/
def declarationsTokens : List PlainDeclaration → List Token
  | [] => []
  | [declaration] => declaration.queryTokens
  | declaration :: rest => declaration.queryTokens ++ .ampersand :: declarationsTokens rest

namespace PlainTree

/-- The tokens of a query with its question mark. -/
def queryTokens (tree : PlainTree) : List Token :=
  match tree.query with
  | none => []
  | some declarations => .question :: declarationsTokens declarations

/-- The tokens of a tree. -/
def tokens (tree : PlainTree) : List Token :=
  tree.segments.flatMap segmentTokens ++ tree.queryTokens

end PlainTree

/-! The tokens of a tree spell what is written for it. -/

/-- The tokens of a default spell it with its equals sign. -/
@[simp] theorem PlainDeclaration.spell_defaultTokens (declaration : PlainDeclaration) :
    Token.spell declaration.defaultTokens = declaration.defaultSource.toList := by
  -- Without a default there is nothing on either side.
  unfold defaultTokens defaultSource
  cases declaration.default <;> simp [Token.source]

/-- The tokens of a declaration in the path spell it. -/
@[simp] theorem PlainDeclaration.spell_pathTokens (declaration : PlainDeclaration) :
    Token.spell declaration.pathTokens = declaration.pathSource.toList := by
  -- Words and marks follow each other in the same order.
  simp [pathTokens, pathSource, Token.source]

/-- The tokens of a declaration in the query spell it. -/
@[simp] theorem PlainDeclaration.spell_queryTokens (declaration : PlainDeclaration) :
    Token.spell declaration.queryTokens = declaration.querySource.toList := by
  -- As in the path, with the name in front.
  simp [queryTokens, querySource, Token.source]

/-- The tokens of a part spell it. -/
@[simp] theorem PlainPart.spell_tokens (part : PlainPart) :
    Token.spell part.tokens = part.source.toList := by
  -- Literal text is spelled by its own cut, and a placeholder is a declaration of the path.
  cases part <;> simp [tokens, source]

/-- The tokens of a segment spell it with its slash. -/
@[simp] theorem spell_segmentTokens (parts : List PlainPart) :
    Token.spell (segmentTokens parts) = (segmentSource parts).toList := by
  -- The parts are spelled side by side, and the slash goes in front.
  have inside : Token.spell (parts.flatMap PlainPart.tokens) =
      (String.join (parts.map PlainPart.source)).toList := by
    induction parts with
    | nil => rfl
    | cons part rest ih => simp [ih]
  simp [segmentTokens, segmentSource, Token.source, inside]

/-- The tokens of the declarations of a query spell them. -/
@[simp] theorem spell_declarationsTokens (declarations : List PlainDeclaration) :
    Token.spell (declarationsTokens declarations) = (declarationsSource declarations).toList := by
  -- The tokens follow the same recursion as the text, with an ampersand before each further one.
  induction declarations using declarationsTokens.induct with
  | case1 => rfl
  | case2 declaration => simp [declarationsTokens, declarationsSource]
  | case3 declaration rest several ih =>
    cases rest with
    | nil => exact absurd rfl several
    | cons next others =>
      simp [declarationsTokens, ih, Token.source]
      simp [declarationsSource]

/-- The tokens of a path spell it. -/
theorem PlainTree.spell_pathTokens (tree : PlainTree) :
    Token.spell (tree.segments.flatMap segmentTokens) = tree.pathSource.toList := by
  -- Segment by segment, each with its slash.
  unfold pathSource
  induction tree.segments with
  | nil => rfl
  | cons parts rest ih => simp [ih]

/-- The tokens of a tree spell it. -/
theorem PlainTree.spell_tokens (tree : PlainTree) : Token.spell tree.tokens = tree.source.toList := by
  -- A tree is written as its path and its query.
  have query : Token.spell tree.queryTokens = tree.querySource.toList := by
    unfold queryTokens querySource
    cases tree.query <;> simp [Token.source]
  simp [tokens, PlainTree.source, tree.spell_pathTokens, query]

/-! A written tree is cut at its own boundaries. -/

/-- Plain characters are those that are not structural. -/
theorem Token.isPlain_iff {c : Char} :
    IsPlain c ↔ c ∉ ['/', '?', '&', '{', '}', ':', '='] := by
  -- The lookup knows just these seven characters.
  unfold IsPlain ofStructural?
  split_ifs <;> simp_all

/-- A structural character cannot lengthen a run. -/
theorem Token.breaks_cons {c : Char} (structural : ¬ IsPlain c) (rest : List Char) :
    Breaks (c :: rest) := by
  -- The only character that could lengthen the run is the first one.
  intro first member
  simp only [List.head?_cons, Option.mem_def, Option.some.injEq] at member
  exact member ▸ structural

/-- A word is one token before characters that cannot lengthen it. -/
theorem Token.scan_word {run : String}
    (filled : FilledWithout ['/', '?', '&', '{', '}', ':', '='] run) {more : List Char}
    (breaks : Breaks more) : scan [] (run.toList ++ more) = text run :: scan [] more := by
  -- All characters of the word are gathered, and the run ends behind them.
  have reversed : run.toList.reverse ≠ [] := by simpa using filled.1
  rw [scan_plain (fun c member => isPlain_iff.mpr (filled.2 c member)), scan_breaks breaks,
    List.append_nil, ofRun_of_ne_nil reversed]
  simp

/-- A text is cut alike before characters that cannot lengthen its last run. -/
theorem Token.scan_cut (run : String) {more : List Char} (breaks : Breaks more) :
    scan [] (run.toList ++ more) = cut run ++ scan [] more := by
  -- The text is the spelling of its own settled tokens.
  have whole := scan_spell_append (settled_cut run) (fun _ _ _ => breaks)
  rwa [spell_cut] at whole

/-- A default and the brace behind it are cut at the brace. -/
theorem PlainDeclaration.scan_defaultSource (declaration : PlainDeclaration) (more : List Char) :
    Token.scan [] (declaration.defaultSource.toList ++ '}' :: more) =
      declaration.defaultTokens ++ .closeBrace :: Token.scan [] more := by
  have brace : Token.Breaks ('}' :: more) := Token.breaks_cons (by decide) more
  have closing : Token.scan [] ('}' :: more) = .closeBrace :: Token.scan [] more := rfl
  unfold defaultSource defaultTokens
  cases declaration.default with
  | none => simp [closing]
  -- The equals sign stands alone, and the text is cut as it would be without the brace.
  | some text =>
    have begun : Token.scan [] ('=' :: (text.toList ++ '}' :: more)) =
        .equals :: Token.scan [] (text.toList ++ '}' :: more) := rfl
    simp [begun, Token.scan_cut text brace, closing]

/-- A default or the brace behind it cannot lengthen a word. -/
theorem PlainDeclaration.breaks_defaultSource (declaration : PlainDeclaration)
    (more : List Char) : Token.Breaks (declaration.defaultSource.toList ++ '}' :: more) := by
  -- The next character is the equals sign or the brace itself.
  unfold defaultSource
  cases declaration.default with
  | none => exact Token.breaks_cons (by decide) more
  | some text =>
    have equals : ∀ behind, Token.Breaks ('=' :: behind) := Token.breaks_cons (by decide)
    simpa using equals _

/-- A declaration in the path is cut into its tokens. -/
theorem PlainDeclaration.scan_pathSource {declaration : PlainDeclaration}
    (wellFormed : declaration.WellFormed) (more : List Char) :
    Token.scan [] (declaration.pathSource.toList ++ more) =
      declaration.pathTokens ++ Token.scan [] more := by
  -- The brace, the colon and what ends the name separate the two words.
  have name := Token.scan_word wellFormed.name (declaration.breaks_defaultSource more)
  have colon : Token.Breaks (':' :: (declaration.name.toList ++
      (declaration.defaultSource.toList ++ '}' :: more))) := Token.breaks_cons (by decide) _
  have typeTag := Token.scan_word wellFormed.typeTag colon
  -- From the left, each step cuts off what is complete.
  calc Token.scan [] (declaration.pathSource.toList ++ more)
      = .openBrace :: Token.scan [] (declaration.typeTag.toList ++ ':' :: (declaration.name.toList ++
          (declaration.defaultSource.toList ++ '}' :: more))) := by
        simp [pathSource]
        rfl
    _ = .openBrace :: .text declaration.typeTag :: .colon :: Token.scan [] (declaration.name.toList ++
          (declaration.defaultSource.toList ++ '}' :: more)) := by
        rw [typeTag]
        rfl
    _ = declaration.pathTokens ++ Token.scan [] more := by
        rw [name, declaration.scan_defaultSource]
        simp [pathTokens]

/-- A declaration in the query is cut into its tokens. -/
theorem PlainDeclaration.scan_querySource {declaration : PlainDeclaration}
    (wellFormed : declaration.WellFormed) (more : List Char) :
    Token.scan [] (declaration.querySource.toList ++ more) =
      declaration.queryTokens ++ Token.scan [] more := by
  -- The equals sign and what ends the type tag separate the two words.
  have typeTag := Token.scan_word wellFormed.typeTag (declaration.breaks_defaultSource more)
  have equals : Token.Breaks ('=' :: '{' :: (declaration.typeTag.toList ++
      (declaration.defaultSource.toList ++ '}' :: more))) := Token.breaks_cons (by decide) _
  have name := Token.scan_word wellFormed.name equals
  -- From the left, as in the path.
  calc Token.scan [] (declaration.querySource.toList ++ more)
      = Token.scan [] (declaration.name.toList ++ '=' :: '{' :: (declaration.typeTag.toList ++
          (declaration.defaultSource.toList ++ '}' :: more))) := by
        simp [querySource]
    _ = .text declaration.name :: .equals :: .openBrace :: Token.scan []
          (declaration.typeTag.toList ++ (declaration.defaultSource.toList ++ '}' :: more)) := by
        rw [name]
        rfl
    _ = declaration.queryTokens ++ Token.scan [] more := by
        rw [typeTag, declaration.scan_defaultSource]
        simp [queryTokens]

/-- A part is cut into its tokens, where nothing behind it lengthens literal text. -/
theorem PlainPart.scan_source {part : PlainPart} (wellFormed : part.WellFormed) {more : List Char}
    (breaks : part.isLiteral = true → Token.Breaks more) :
    Token.scan [] (part.source.toList ++ more) = part.tokens ++ Token.scan [] more := by
  -- A declaration ends with its brace, so only literal text depends on what follows.
  cases part with
  | literal text => exact Token.scan_cut text (breaks rfl)
  | placeholder declaration => exact PlainDeclaration.scan_pathSource wellFormed more

/-- Parts side by side are cut into their tokens. -/
theorem scan_parts {parts : List PlainPart} (wellFormed : ∀ part ∈ parts, part.WellFormed)
    (apart : parts.IsChain PlainPart.Apart) {more : List Char} (breaks : Token.Breaks more) :
    Token.scan [] (parts.flatMap (fun part => part.source.toList) ++ more) =
      parts.flatMap PlainPart.tokens ++ Token.scan [] more := by
  -- Behind literal text there is a placeholder, whose brace cannot lengthen it.
  induction parts with
  | nil => rfl
  | cons part rest ih =>
    obtain ⟨first, chained⟩ := List.isChain_cons.mp apart
    have later := ih (fun other member => wellFormed other (by simp [member])) chained
    rw [List.flatMap_cons, List.append_assoc, PlainPart.scan_source (wellFormed part (by simp)), later]
    · simp
    -- Literal text is followed by a placeholder or by what stands behind all parts.
    · intro literal
      cases rest with
      | nil => exact breaks
      | cons next others =>
        cases next with
        | literal text => exact absurd ⟨literal, rfl⟩ (first (.literal text) (by simp))
        | placeholder declaration =>
          have brace : ∀ behind, Token.Breaks ('{' :: behind) := Token.breaks_cons (by decide)
          simpa [PlainPart.source, PlainDeclaration.pathSource] using brace _

/-- Segments side by side are cut into their tokens. -/
theorem scan_segments {segments : List (List PlainPart)}
    (wellFormed : ∀ parts ∈ segments, ∀ part ∈ parts, part.WellFormed)
    (apart : ∀ parts ∈ segments, parts.IsChain PlainPart.Apart) {more : List Char}
    (breaks : Token.Breaks more) :
    Token.scan [] (segments.flatMap (fun parts => (segmentSource parts).toList) ++ more) =
      segments.flatMap segmentTokens ++ Token.scan [] more := by
  -- Every segment starts with a slash, which cannot lengthen the literal text before it.
  induction segments with
  | nil => rfl
  | cons parts rest ih =>
    have later := ih (fun other member => wellFormed other (by simp [member]))
      (fun other member => apart other (by simp [member]))
    -- Behind the segment there is the slash of the next one, or what follows the path.
    have next : Token.Breaks
        (rest.flatMap (fun parts => (segmentSource parts).toList) ++ more) := by
      cases rest with
      | nil => exact breaks
      | cons next others =>
        have slash : ∀ behind, Token.Breaks ('/' :: behind) := Token.breaks_cons (by decide)
        simpa [segmentSource] using slash _
    have inside := scan_parts (wellFormed parts (by simp)) (apart parts (by simp)) next
    have slash (behind : List Char) :
        Token.scan [] ('/' :: behind) = .slash :: Token.scan [] behind := rfl
    -- The slash is cut off first, then the parts, then the other segments.
    simp only [List.flatMap_cons, List.append_assoc, segmentSource, String.toList_append,
      String.toList_join, List.flatMap_map, segmentTokens, List.cons_append] at later inside ⊢
    rw [← later, ← inside]
    exact slash _

/-- The declarations of a query are cut into their tokens. -/
theorem scan_declarations {declarations : List PlainDeclaration}
    (wellFormed : ∀ declaration ∈ declarations, declaration.WellFormed) :
    Token.scan [] (declarationsSource declarations).toList = declarationsTokens declarations := by
  have ampersand (behind : List Char) :
      Token.scan [] ('&' :: behind) = .ampersand :: Token.scan [] behind := rfl
  -- The recursion is that of the tokens: nothing, the last declaration, or one with an ampersand
  -- behind it.
  induction declarations using declarationsTokens.induct with
  | case1 => rfl
  -- The last declaration ends the text.
  | case2 declaration =>
    have whole := PlainDeclaration.scan_querySource (wellFormed declaration (by simp)) []
    simpa [declarationsSource, declarationsTokens, Token.scan, Token.ofRun] using whole
  | case3 declaration rest several ih =>
    cases rest with
    | nil => exact absurd rfl several
    | cons next others =>
      have later := ih (fun other member => wellFormed other (List.mem_cons_of_mem _ member))
      -- The ampersand is the first character behind the declaration.
      have first := PlainDeclaration.scan_querySource (wellFormed declaration (by simp))
        ('&' :: (declarationsSource (next :: others)).toList)
      rw [ampersand, later] at first
      simpa [declarationsSource, declarationsTokens] using first

/-- The text of a well-formed tree is cut into the tokens of the tree. -/
theorem PlainTree.cut_source {tree : PlainTree} (wellFormed : tree.WellFormed) :
    Token.cut tree.source = tree.tokens := by
  -- The query starts with a question mark, which ends the path.
  have query : Token.Breaks tree.querySource.toList ∧
      Token.scan [] tree.querySource.toList = tree.queryTokens := by
    unfold querySource queryTokens
    cases present : tree.query with
    | none => exact ⟨by simp [Token.Breaks], rfl⟩
    | some declarations =>
      have mark : ∀ behind, Token.Breaks ('?' :: behind) := Token.breaks_cons (by decide)
      have question (behind : List Char) :
          Token.scan [] ('?' :: behind) = .question :: Token.scan [] behind := rfl
      refine ⟨by simpa using mark _, ?_⟩
      simp [question, scan_declarations (wellFormed.declarations declarations present)]
  -- With the query cut, the path before it is cut as well.
  have path := scan_segments wellFormed.parts wellFormed.apart query.1
  rw [query.2] at path
  simpa [Token.cut_eq, PlainTree.source, pathSource, tokens, List.flatMap_map] using path

end TypedRoutes

import TypedRoutes.Proofs.Template.Derivation
import TypedRoutes.Proofs.Template.Reading

/-! Writing and reading are inverse: the accepted texts are the written forms of the well-formed
trees, and reading gives the tree that was written. -/

namespace TypedRoutes

open Grammar

namespace Grammar

/-- Literal text is read off its tokens. -/
theorem literalToken_eq : literalToken = single Token.IsLiteral := by
  -- The rule lists the four kinds of literal tokens in another order.
  ext tokens
  simp only [literalToken, word, only, Language.mem_add, mem_single, Token.IsLiteral]
  constructor
  · rintro (((⟨token, kind, rfl⟩ | ⟨token, kind, rfl⟩) | ⟨token, kind, rfl⟩) | ⟨token, kind, rfl⟩)
    all_goals exact ⟨token, by simp [kind], rfl⟩
  · rintro ⟨token, kind, rfl⟩
    simpa [or_assoc, or_comm, or_left_comm] using kind

end Grammar

/-- A proper run is a word. -/
theorem Token.filledWithout_of_proper {run : String} (proper : (text run).Proper) :
    FilledWithout ['/', '?', '&', '{', '}', ':', '='] run :=
  ⟨proper.1, fun c member => isPlain_iff.mp (proper.2 c member)⟩

/-- Literal tokens spell literal text. -/
theorem Token.source_of_isLiteral {token : Token} (proper : token.Proper)
    (literal : token.IsLiteral) : FilledWithout ['/', '?', '{', '}'] token.source := by
  cases token with
  -- The characters of a run are none of the seven, so they are none of these four.
  | text run =>
    have free := filledWithout_of_proper proper
    exact ⟨free.1, fun c member => by have := free.2 c member; simp_all⟩
  | ampersand | colon | equals => exact by decide
  | _ => simp [IsLiteral, isRun] at literal

/-- The tokens of a default spell no braces. -/
theorem Token.source_of_isDefault {token : Token} (proper : token.Proper)
    (inside : token.IsDefault) : FilledWithout ['{', '}'] token.source := by
  cases token with
  -- A run has no structural characters, and the other tokens are no braces.
  | text run =>
    have free := filledWithout_of_proper proper
    exact ⟨free.1, fun c member => by have := free.2 c member; simp_all⟩
  | slash | question | ampersand | colon | equals => exact by decide
  | _ => simp [IsDefault] at inside

/-- Tokens without forbidden characters spell a text without them. -/
theorem filledWithout_spell {forbidden : List Char} {tokens : List Token} (filled : tokens ≠ [])
    (free : ∀ token ∈ tokens, FilledWithout forbidden token.source) :
    FilledWithout forbidden (String.ofList (Token.spell tokens)) := by
  constructor
  · cases tokens with
    | nil => exact absurd rfl filled
    | cons token rest =>
      have first := (free token (by simp)).1
      simp [first]
  -- Each character belongs to one of the tokens.
  · intro c member
    rw [String.toList_ofList] at member
    obtain ⟨token, inside, found⟩ := List.mem_flatMap.mp member
    exact (free token inside).2 c found

/-- Tokens of literal text are the tokens of one literal. -/
theorem exists_literal {tokens : List Token} (settled : Token.Settled tokens)
    (filled : tokens ≠ []) (literal : ∀ token ∈ tokens, token.IsLiteral) :
    ∃ text, (PlainPart.literal text).WellFormed ∧ Token.cut text = tokens :=
  ⟨String.ofList (Token.spell tokens),
    filledWithout_spell filled fun token member =>
      Token.source_of_isLiteral (settled.proper token member) (literal token member),
    Token.cut_ofList_spell settled⟩

/-- The default of a declaration is read off its tokens. -/
theorem exists_default {tokens : List Token} (settled : Token.Settled tokens)
    (derived : tokens ∈ defaultClause) (typeTag name : String) :
    ∃ default, (∀ text ∈ default, FilledWithout ['{', '}'] text) ∧
      (PlainDeclaration.mk typeTag name default).defaultTokens = tokens := by
  rcases mem_optional.mp derived with rfl | derived
  · exact ⟨none, by simp, rfl⟩
  -- Behind the equals sign, the tokens spell the default.
  · obtain ⟨token, rest, rfl, rfl, behind⟩ := mem_single_mul.mp derived
    obtain ⟨filled, inside⟩ := mem_oneOrMore_single.mp behind
    have tail := settled.part (List.suffix_cons .equals rest).isInfix
    refine ⟨some (String.ofList (Token.spell rest)), ?_, ?_⟩
    · intro text same
      simp only [Option.mem_def, Option.some.injEq] at same
      rw [← same]
      exact filledWithout_spell filled fun token member =>
        Token.source_of_isDefault (tail.proper token member) (inside token member)
    · simp [PlainDeclaration.defaultTokens, Token.cut_ofList_spell tail]

/-- The end of a declaration is its default and its closing brace. -/
theorem exists_declaration (head : List Token) (typeTag name : String)
    (tagged : .text typeTag ∈ head) (named : .text name ∈ head) {tokens : List Token}
    (settled : Token.Settled (head ++ tokens))
    (derived : tokens ∈ defaultClause * only .closeBrace) :
    ∃ declaration : PlainDeclaration, declaration.WellFormed ∧ declaration.typeTag = typeTag ∧
      declaration.name = name ∧ declaration.defaultTokens ++ [.closeBrace] = tokens := by
  obtain ⟨clause, given, closing, ⟨token, rfl, rfl⟩, rfl⟩ := Language.mem_mul.mp derived
  have part : Token.Settled clause :=
    settled.part ⟨head, [.closeBrace], by simp⟩
  obtain ⟨default, free, same⟩ := exists_default part given typeTag name
  -- Tag and name are runs of the head, and runs are words.
  have proper (run : String) (inside : .text run ∈ head) :
      FilledWithout ['/', '?', '&', '{', '}', ':', '='] run :=
    Token.filledWithout_of_proper (settled.proper _ (List.mem_append_left _ inside))
  exact ⟨⟨typeTag, name, default⟩, ⟨proper typeTag tagged, proper name named, free⟩, rfl, rfl,
    by rw [same]⟩

/-- A declaration in the path is read off its tokens. -/
theorem exists_placeholder {tokens : List Token} (settled : Token.Settled tokens)
    (derived : tokens ∈ placeholder) :
    ∃ declaration : PlainDeclaration, declaration.WellFormed ∧
      declaration.pathTokens = tokens := by
  -- Four tokens of known kinds come first, and two of them are runs.
  simp only [placeholder, mul_assoc, only, word, mem_single_mul] at derived
  obtain ⟨_, _, rfl, rfl, _, _, rfl, isTag, _, _, rfl, rfl, _, rest, rfl, isName, ended⟩ := derived
  obtain ⟨typeTag, rfl⟩ := Token.exists_run isTag
  obtain ⟨name, rfl⟩ := Token.exists_run isName
  obtain ⟨declaration, wellFormed, rfl, rfl, rfl⟩ := exists_declaration
    [.openBrace, .text typeTag, .colon, .text name] typeTag name (by simp) (by simp) settled ended
  exact ⟨declaration, wellFormed, rfl⟩

/-- A declaration in the query is read off its tokens. -/
theorem exists_queryDeclaration {tokens : List Token} (settled : Token.Settled tokens)
    (derived : tokens ∈ queryDeclaration) :
    ∃ declaration : PlainDeclaration, declaration.WellFormed ∧
      declaration.queryTokens = tokens := by
  -- As in the path, with the name in front.
  simp only [queryDeclaration, mul_assoc, only, word, mem_single_mul] at derived
  obtain ⟨_, _, rfl, isName, _, _, rfl, rfl, _, _, rfl, rfl, _, rest, rfl, isTag, ended⟩ := derived
  obtain ⟨name, rfl⟩ := Token.exists_run isName
  obtain ⟨typeTag, rfl⟩ := Token.exists_run isTag
  obtain ⟨declaration, wellFormed, rfl, rfl, rfl⟩ := exists_declaration
    [.text name, .equals, .openBrace, .text typeTag] typeTag name (by simp) (by simp) settled ended
  exact ⟨declaration, wellFormed, rfl⟩

/-- The parts of a segment are read off its tokens, with every run of literal tokens as one part. -/
theorem exists_parts {words : List (List Token)} (settled : Token.Settled words.flatten)
    (derived : ∀ word ∈ words, word ∈ literalToken + placeholder) :
    ∃ parts : List PlainPart, (∀ part ∈ parts, part.WellFormed) ∧
      parts.IsChain PlainPart.Apart ∧ parts.flatMap PlainPart.tokens = words.flatten := by
  -- From the right: a literal token joins the literal behind it, if there is one.
  induction words with
  | nil => exact ⟨[], by simp, by simp, rfl⟩
  | cons word others ih =>
    obtain ⟨parts, wellFormed, apart, same⟩ :=
      ih (settled.part (List.suffix_append word others.flatten).isInfix)
        (fun other member => derived other (by simp [member]))
    rw [List.flatten_cons] at settled ⊢
    -- The word is one literal token or a whole placeholder.
    rcases derived word (by simp) with literal | declared
    · rw [literalToken_eq] at literal
      obtain ⟨token, kind, rfl⟩ := literal
      have alone : ∃ text, (PlainPart.literal text).WellFormed ∧ Token.cut text = [token] :=
        exists_literal (settled.part (List.prefix_append [token] others.flatten).isInfix)
          (by simp) (by simpa using kind)
      cases parts with
      | nil =>
        obtain ⟨text, free, cut⟩ := alone
        exact ⟨[.literal text], by simpa using free, by simp, by simp [PlainPart.tokens, cut, ← same]⟩
      | cons next behind =>
        cases next with
        | placeholder declaration =>
          obtain ⟨text, free, cut⟩ := alone
          refine ⟨.literal text :: .placeholder declaration :: behind, ?_, ?_, ?_⟩
          · simpa using ⟨free, by simpa using wellFormed⟩
          · exact List.isChain_cons_cons.mpr ⟨by simp [PlainPart.Apart, PlainPart.isLiteral], apart⟩
          · rw [← same]
            simp [PlainPart.tokens, cut]
        | literal earlier =>
          -- The token goes in front of the literal's own tokens.
          have tokens : token :: Token.cut earlier ++ behind.flatMap PlainPart.tokens =
              [token] ++ others.flatten := by
            rw [← same]
            rfl
          rw [← tokens] at settled
          have inside : ∀ other ∈ token :: Token.cut earlier, other.IsLiteral := by
            intro other member
            rcases List.mem_cons.mp member with first | later
            · exact first ▸ kind
            · exact Token.isLiteral_of_mem_cut (wellFormed (.literal earlier) (by simp)) later
          obtain ⟨text, free, cut⟩ := exists_literal
            (settled.part (List.prefix_append _ _).isInfix) (by simp) inside
          have later : ∀ part ∈ behind, part.WellFormed := fun part member =>
            wellFormed part (List.mem_cons_of_mem _ member)
          refine ⟨.literal text :: behind, ?_, ?_, ?_⟩
          · simpa using ⟨free, later⟩
          · obtain ⟨first, tail⟩ := List.isChain_cons.mp apart
            exact List.isChain_cons.mpr ⟨fun part final => first part final, tail⟩
          · rw [← tokens, List.flatMap_cons, PlainPart.tokens, cut]
    · obtain ⟨declaration, proper, rfl⟩ := exists_placeholder
        (settled.part (List.prefix_append word others.flatten).isInfix) declared
      refine ⟨.placeholder declaration :: parts, ?_, ?_, ?_⟩
      · simpa using ⟨proper, wellFormed⟩
      · exact List.isChain_cons.mpr ⟨by simp [PlainPart.Apart, PlainPart.isLiteral], apart⟩
      · simp [PlainPart.tokens, same]

/-- The segments of a path are read off their tokens. -/
theorem exists_segments {words : List (List Token)} (settled : Token.Settled words.flatten)
    (derived : ∀ word ∈ words, word ∈ Grammar.segment) :
    ∃ segments : List (List PlainPart), (∀ parts ∈ segments, ∀ part ∈ parts, part.WellFormed) ∧
      (∀ parts ∈ segments, parts.IsChain PlainPart.Apart) ∧
      segments.map segmentTokens = words := by
  -- Every segment is its slash and its parts.
  induction words with
  | nil => exact ⟨[], by simp, by simp, rfl⟩
  | cons word others ih =>
    obtain ⟨segments, wellFormed, apart, rfl⟩ :=
      ih (settled.part (List.suffix_append word others.flatten).isInfix)
        (fun other member => derived other (by simp [member]))
    obtain ⟨_, inside, rfl, rfl, several⟩ := mem_single_mul.mp (derived word (by simp))
    -- The parts of a segment are literal tokens and placeholders in any order.
    rw [many_segmentPart] at several
    obtain ⟨words, rfl, each⟩ := Language.mem_kstar.mp several
    have within : words.flatten <:+: (.slash :: words.flatten) ++
        (segments.map segmentTokens).flatten := ⟨[.slash], (segments.map segmentTokens).flatten, rfl⟩
    obtain ⟨parts, proper, separate, same⟩ := exists_parts (settled.part within) each
    refine ⟨parts :: segments, ?_, ?_, ?_⟩
    · simpa using ⟨proper, wellFormed⟩
    · simpa using ⟨separate, apart⟩
    · simp [segmentTokens, same]

/-- The declarations of a query are read off their tokens. -/
theorem exists_declarations {first : List Token} {words : List (List Token)}
    (settled : Token.Settled (first ++ words.flatten)) (begun : first ∈ queryDeclaration)
    (derived : ∀ word ∈ words, word ∈ only .ampersand * queryDeclaration) :
    ∃ declarations : List PlainDeclaration, declarations ≠ [] ∧
      (∀ declaration ∈ declarations, declaration.WellFormed) ∧
      declarationsTokens declarations = first ++ words.flatten := by
  induction words generalizing first with
  | nil =>
    obtain ⟨declaration, wellFormed, rfl⟩ := exists_queryDeclaration
      (settled.part (List.prefix_append first _).isInfix) begun
    exact ⟨[declaration], by simp, by simpa using wellFormed, by simp [declarationsTokens]⟩
  -- The ampersand separates the declaration from the next, which goes on as a first one.
  | cons word others ih =>
    obtain ⟨_, next, rfl, rfl, declared⟩ := mem_single_mul.mp (derived word (by simp))
    obtain ⟨declaration, wellFormed, rfl⟩ := exists_queryDeclaration
      (settled.part (List.prefix_append first _).isInfix) begun
    have behind : next ++ others.flatten <:+:
        declaration.queryTokens ++ (.ampersand :: next) ++ others.flatten :=
      ⟨declaration.queryTokens ++ [.ampersand], [], by simp⟩
    -- What is behind the ampersand is settled by itself.
    obtain ⟨declarations, filled, proper, same⟩ :=
      ih (settled.part (by simpa using behind)) declared
        (fun other member => derived other (by simp [member]))
    refine ⟨declaration :: declarations, by simp, ?_, ?_⟩
    · simpa using ⟨wellFormed, proper⟩
    · rw [declarationsTokens, same]
      · simp
      · exact filled

/-- The query of a template is read off its tokens. -/
theorem exists_query {tokens : List Token} (settled : Token.Settled tokens)
    (derived : tokens ∈ optional query) :
    ∃ written : Option (List PlainDeclaration), written ≠ some [] ∧
      (∀ declarations ∈ written, ∀ declaration ∈ declarations, declaration.WellFormed) ∧
      (PlainTree.mk [] written).queryTokens = tokens := by
  rcases mem_optional.mp derived with rfl | derived
  · exact ⟨none, by simp, by simp, rfl⟩
  -- Behind the question mark there is a declaration, and others with ampersands.
  · rw [query, mul_assoc] at derived
    obtain ⟨_, inside, rfl, rfl, several⟩ := mem_single_mul.mp derived
    obtain ⟨first, begun, others, starred, rfl⟩ := Language.mem_mul.mp several
    obtain ⟨words, rfl, each⟩ := Language.mem_kstar.mp starred
    obtain ⟨declarations, filled, wellFormed, same⟩ := exists_declarations
      (settled.part (List.suffix_cons Token.question _).isInfix) begun each
    exact ⟨some declarations, by simpa using filled, by simpa using wellFormed, by
      simp [PlainTree.queryTokens, same]⟩

/-- Every text that follows the grammar is the written form of a well-formed tree. -/
theorem exists_tree {text : String} (derived : Token.cut text ∈ template) :
    ∃ tree : PlainTree, tree.WellFormed ∧ tree.source = text := by
  have settled := Token.settled_cut text
  -- The tokens are those of the path and those of the query.
  obtain ⟨path, several, behind, ending, joined⟩ := Language.mem_mul.mp derived
  rw [← joined] at settled
  obtain ⟨first, begun, others, starred, rfl⟩ := Language.mem_mul.mp several
  obtain ⟨words, rfl, each⟩ := Language.mem_kstar.mp starred
  have segmented : ∀ word ∈ first :: words, word ∈ Grammar.segment := by simpa using ⟨begun, each⟩
  obtain ⟨segments, wellFormed, apart, same⟩ := exists_segments
    (settled.part (List.prefix_append (first :: words).flatten behind).isInfix) segmented
  obtain ⟨written, filled, declared, query⟩ :=
    exists_query (settled.part (List.suffix_append _ behind).isInfix) ending
  have path : segments ≠ [] := by
    rintro rfl
    simp at same
  refine ⟨⟨segments, written⟩, ⟨path, wellFormed, apart, filled, declared⟩, ?_⟩
  -- The tree has the tokens of the text, and both are spelled alike.
  have tokens : (PlainTree.mk segments written).tokens = Token.cut text := by
    rw [← joined, PlainTree.tokens, List.flatMap_def, same, List.flatten_cons]
    exact congrArg _ query
  apply String.toList_inj.mp
  rw [← PlainTree.spell_tokens, tokens, Token.spell_cut]

/-- A well-formed tree is read back from its written form, with the places of its parts. -/
theorem parseTree_source {tree : PlainTree} (wellFormed : tree.WellFormed) :
    parseTree tree.source = .ok tree.place := by
  -- The text has the tokens of the tree, and a text that is read starts with a slash.
  have read := tree.run_tokens wellFormed (byteSize tree.source.toList)
  rw [← tree.cut_source wellFormed, ← Token.tokenize_eq] at read
  have accepted : Token.cut tree.source ∈ template := by
    have whole := (State.run_ok_iff _ .start (Token.tokenize tree.source)).mp ⟨_, read⟩
    rwa [Token.tokenize_eq, Token.map_value_locate, State.rest] at whole
  rw [parseTree, lacksPath_of_slash (head_of_mem_template accepted), read]
  rfl

/-- Reading gives a tree exactly when the text is its written form and its parts stand where they
are written. -/
theorem parseTree_eq_ok_iff {text : String} {tree : TemplateTree} :
    parseTree text = .ok tree ↔
      ∃ plain : PlainTree, plain.WellFormed ∧ plain.source = text ∧ plain.place = tree := by
  constructor
  -- The text follows the grammar, so it is written for some tree, which is then read.
  · intro read
    obtain ⟨plain, wellFormed, rfl⟩ := exists_tree ((parseTree_ok_iff text).mp ⟨tree, read⟩)
    rw [parseTree_source wellFormed, Except.ok.injEq] at read
    exact ⟨plain, wellFormed, rfl, read⟩
  · rintro ⟨plain, wellFormed, rfl, rfl⟩
    exact parseTree_source wellFormed

/-- Writing the tree of a text gives the text back, and a well-formed tree is read back from what is
written for it. -/
theorem parseTree_source_inverse (text : String) (tree : TemplateTree) (plain : PlainTree) :
    (parseTree text = .ok tree → tree.plain.source = text) ∧
    (plain.WellFormed → ∃ read, parseTree plain.source = .ok read ∧ read.plain = plain) := by
  constructor
  -- The tree that was read is a plain one with places, and it was written as the text.
  · intro read
    obtain ⟨written, _, rfl, rfl⟩ := parseTree_eq_ok_iff.mp read
    rw [PlainTree.plain_place]
  · intro wellFormed
    exact ⟨plain.place, parseTree_source wellFormed, plain.plain_place⟩

/-- A tree with literal text, a default that holds separators, and a query. -/
def usersTree : PlainTree :=
  ⟨[[.literal "a:b", .placeholder ⟨"int", "id", some "?/&"⟩], []], some [⟨"string", "q", none⟩]⟩

/-- A colon in literal text and separators in a default are read back, and so is an empty segment.
-/
theorem parseTree_source_inverse_users :
    parseTree "/a:b\x7bint:id=?/&\x7d/?q=\x7bstring\x7d" = .ok usersTree.place ∧ usersTree.WellFormed ∧
      usersTree.place.plain.source = "/a:b\x7bint:id=?/&\x7d/?q=\x7bstring\x7d" ∧
      ∃ read, parseTree usersTree.source = .ok read ∧ read.plain = usersTree := by
  have read : parseTree "/a:b\x7bint:id=?/&\x7d/?q=\x7bstring\x7d" = .ok usersTree.place := by rfl
  have wellFormed : usersTree.WellFormed := by decide
  have both := parseTree_source_inverse "/a:b\x7bint:id=?/&\x7d/?q=\x7bstring\x7d" usersTree.place usersTree
  exact ⟨read, wellFormed, both.1 read, both.2 wellFormed⟩

end TypedRoutes

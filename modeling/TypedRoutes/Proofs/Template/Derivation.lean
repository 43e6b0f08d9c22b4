import TypedRoutes.Proofs.Template.Grammar
import TypedRoutes.Template.Parser

/-! The reader accepts exactly the token sequences that the grammar derives. -/

namespace TypedRoutes

open Grammar

namespace Grammar

/-- What may follow inside or behind a segment of the path. -/
def afterPart : Rule := many segmentPart * (many segment * optional query)

/-- What may follow a declaration of the query. -/
def afterDeclaration : Rule := many (only .ampersand * queryDeclaration)

/-- The end of a declaration and what may follow it. -/
def declarationEnd (after : Rule) : Rule := defaultClause * (only .closeBrace * after)

/-- A declaration of the query, from its name on, and what may follow it. -/
def queryRest : Rule :=
  word * (only .equals * (only .openBrace * (word * declarationEnd afterDeclaration)))

end Grammar

/-- What may follow a declaration that belongs here. -/
def Site.rest : Site → Rule
  | path _ => afterPart
  | query _ => afterDeclaration

/-- What may follow in a state, by the grammar. -/
def State.rest : State → Rule
  | start => template
  | path _ _ => afterPart
  | tag _ _ => word * (only .colon * (word * declarationEnd afterPart))
  | colon _ _ _ => only .colon * (word * declarationEnd afterPart)
  | name _ _ _ => word * declarationEnd afterPart
  | queryName _ => queryRest
  | queryEquals _ _ => only .equals * (only .openBrace * (word * declarationEnd afterDeclaration))
  | queryBrace _ _ => only .openBrace * (word * declarationEnd afterDeclaration)
  | queryTag _ _ => word * declarationEnd afterDeclaration
  | tail site _ _ _ => declarationEnd site.rest
  | defaultStart site _ _ _ => defaultTokens * (only .closeBrace * site.rest)
  | defaultText site _ _ _ _ => many defaultToken * (only .closeBrace * site.rest)
  | query _ _ => afterDeclaration

namespace Grammar

/-- A placeholder before a rule, token by token. -/
theorem placeholder_mul (after : Rule) :
    placeholder * after =
      only .openBrace * (word * (only .colon * (word * declarationEnd after))) := by
  -- The products are only put in brackets from the right.
  simp only [placeholder, declarationEnd, mul_assoc]

/-- A declaration of the query before a rule, token by token. -/
theorem queryDeclaration_mul (after : Rule) :
    queryDeclaration * after =
      word * (only .equals * (only .openBrace * (word * declarationEnd after))) := by
  -- As for a placeholder.
  simp only [queryDeclaration, declarationEnd, mul_assoc]

/-- A segment starts with its slash, behind which stands what may follow a part. -/
theorem segment_mul : segment * (many segment * optional query) = only .slash * afterPart := by
  simp only [segment, afterPart, mul_assoc]

/-- A query is a question mark and the rest of a query. -/
theorem query_eq : query = only .question * queryRest := by
  -- The first declaration and those behind an ampersand are the rest.
  rw [query, queryRest, mul_assoc, afterDeclaration, ← queryDeclaration_mul]

/-- Behind a part of a segment there is more of the segment, a segment, the query, or the end. -/
theorem cons_mem_afterPart {token : Token} {tokens : List Token} :
    token :: tokens ∈ afterPart ↔
      (token = .slash ∧ tokens ∈ afterPart) ∨
      (token = .question ∧ tokens ∈ queryRest) ∨
      (token = .openBrace ∧ tokens ∈ word * (only .colon * (word * declarationEnd afterPart))) ∨
      ((token.isRun = true ∨ token = .colon ∨ token = .equals ∨ token = .ampersand) ∧
        tokens ∈ afterPart) := by
  -- Reading literals token by token leaves one alternative for each kind of token.
  have unfolded : token :: tokens ∈ afterPart ↔
      ((token :: tokens ∈ optional query ∨ token :: tokens ∈ only .slash * afterPart) ∨
        token :: tokens ∈ literalToken * afterPart ∨ token :: tokens ∈ placeholder * afterPart) := by
    conv_lhs => rw [afterPart, many_segmentPart, mem_many_mul, mem_many_mul, mem_add_mul,
      ← many_segmentPart, segment_mul]
    rfl
  rw [unfolded, mem_optional, query_eq, placeholder_mul, literalToken]
  simp only [mem_add_mul, only, word, cons_mem_single_mul]
  -- A token is of one kind only, so one alternative is left for it.
  cases token <;> simp [Token.isRun]

/-- Behind a declaration of the query there is an ampersand and another one, or the end. -/
theorem cons_mem_afterDeclaration {token : Token} {tokens : List Token} :
    token :: tokens ∈ afterDeclaration ↔ token = .ampersand ∧ tokens ∈ queryRest := by
  -- One more repetition starts with its ampersand.
  conv_lhs => rw [afterDeclaration, many_eq, Language.mem_add, Language.mem_one, mul_assoc]
  rw [queryDeclaration_mul]
  simp [only, queryRest, afterDeclaration]

/-- A declaration ends with its brace, or its default comes first. -/
theorem cons_mem_declarationEnd {after : Rule} {token : Token} {tokens : List Token} :
    token :: tokens ∈ declarationEnd after ↔
      (token = .closeBrace ∧ tokens ∈ after) ∨
      (token = .equals ∧ tokens ∈ defaultTokens * (only .closeBrace * after)) := by
  -- The default is there or not, and each way starts with a token of its own.
  rw [declarationEnd, defaultClause, mem_optional_mul, mul_assoc]
  simp [only]

/-- A default goes on with any token but a brace, and a closing brace ends it. -/
theorem cons_mem_many_defaultToken {after : Rule} {token : Token} {tokens : List Token} :
    token :: tokens ∈ many defaultToken * (only .closeBrace * after) ↔
      (token = .closeBrace ∧ tokens ∈ after) ∨
      ((token ≠ .openBrace ∧ token ≠ .closeBrace) ∧
        tokens ∈ many defaultToken * (only .closeBrace * after)) := by
  -- The repetition ends at a closing brace, which no default holds.
  conv_lhs => rw [mem_many_mul]
  simp [only, defaultToken]

/-- A default starts with any token but a brace. -/
theorem cons_mem_defaultTokens {after : Rule} {token : Token} {tokens : List Token} :
    token :: tokens ∈ defaultTokens * (only .closeBrace * after) ↔
      (token ≠ .openBrace ∧ token ≠ .closeBrace) ∧
        tokens ∈ many defaultToken * (only .closeBrace * after) := by
  -- A default is one token and any number of others.
  rw [defaultTokens, oneOrMore, mul_assoc]
  simp [defaultToken]

/-- A template starts with a slash. -/
theorem cons_mem_template {token : Token} {tokens : List Token} :
    token :: tokens ∈ template ↔ token = .slash ∧ tokens ∈ afterPart := by
  -- The first segment and those behind it start with a slash each.
  rw [template, oneOrMore, mul_assoc, segment_mul]
  simp [only]

end Grammar

/-- A token may follow exactly where the reader takes it, and then what may follow it may follow. -/
theorem State.cons_mem_rest (state : State) (token : Located Token) (tokens : List Token) :
    token.value :: tokens ∈ state.rest ↔
      ∃ next, state.step token = some next ∧ tokens ∈ next.rest := by
  obtain ⟨value, span⟩ := token
  -- Each state compares the rule for its rest with the tokens that it takes.
  cases state with
  | start =>
    rw [rest, cons_mem_template]
    cases value <;> simp [step, rest]
  | path before defaulted =>
    rw [rest, cons_mem_afterPart]
    cases value <;> simp [step, rest, Token.isRun]
  | tag before opened =>
    cases value <;> simp [step, rest, word, Token.isRun]
  | colon before opened typeTag =>
    cases value <;> simp [step, rest, only]
  | name before opened typeTag =>
    cases value <;> simp [step, rest, word, Token.isRun, Site.rest]
  | queryName before =>
    cases value <;> simp [step, rest, queryRest, word, Token.isRun, Site.rest]
  | queryEquals before called =>
    cases value <;> simp [step, rest, only]
  | queryBrace before called =>
    cases value <;> simp [step, rest, only]
  | queryTag before called =>
    cases value <;> simp [step, rest, word, Token.isRun, Site.rest]
  -- From here on the site decides where the declaration ends up.
  | tail site begun typeTag called =>
    rw [rest, cons_mem_declarationEnd]
    cases site <;> cases value <;> simp [step, rest, Site.close, Site.rest]
  | defaultStart site begun typeTag called =>
    rw [rest, cons_mem_defaultTokens]
    cases value <;> simp [step, rest]
  | defaultText site begun typeTag called default =>
    rw [rest, cons_mem_many_defaultToken]
    cases site <;> cases value <;> simp [step, rest, Site.close, Site.rest]
  | query before defaulted =>
    rw [rest, cons_mem_afterDeclaration]
    cases value <;> simp [step, rest]

/-- The template may end exactly where the reader takes the end. -/
theorem State.nil_mem_rest (state : State) :
    [] ∈ state.rest ↔ ∃ tree, state.finish? = some tree := by
  -- Only the path and a complete declaration of the query may be the last thing.
  cases state with
  | start => simp [rest, finish?, template, oneOrMore, mul_assoc, segment_mul, only]
  | path before defaulted =>
    simp [rest, finish?, afterPart, mem_many_mul, mem_optional]
  | query before defaulted =>
    rw [rest, afterDeclaration, many_eq]
    simp [finish?, Language.mem_add]
  | tail site begun typeTag called =>
    simp [rest, finish?, declarationEnd, defaultClause, mem_optional_mul, mul_assoc, only]
  | defaultStart site begun typeTag called =>
    simp [rest, finish?, defaultTokens, oneOrMore, mul_assoc, defaultToken]
  -- A repetition may be empty, but its closing brace is still to come.
  | defaultText site begun typeTag called default =>
    rw [rest, mem_many_mul]
    simp [finish?, only, defaultToken]
  | _ => simp [rest, finish?, queryRest, word, only]

/-- From any state, the reader gets through exactly what may follow by the grammar. -/
theorem State.run_ok_iff (size : Nat) (state : State) (tokens : List (Located Token)) :
    (∃ tree, state.run size tokens = .ok tree) ↔ tokens.map Located.value ∈ state.rest := by
  -- One token at a time, reading and deriving agree on whether it fits and on what may follow.
  induction tokens generalizing state with
  -- At the end the state decides.
  | nil =>
    rw [List.map_nil, state.nil_mem_rest]
    cases finished : state.finish? <;> simp [run, finished]
  | cons token tokens ih =>
    rw [List.map_cons, state.cons_mem_rest]
    cases stepped : state.step token with
    | none => simp [run, stepped]
    | some next => simp [run, stepped, ih]

/-- A template that follows the grammar starts with a slash. -/
theorem head_of_mem_template {text : String} (derived : Token.cut text ∈ template) :
    text.toList.head? = some '/' := by
  -- The first token is a slash, and it is spelled first.
  have spelled := Token.spell_cut text
  cases tokens : Token.cut text with
  | nil =>
    rw [tokens] at derived
    exact absurd ((State.nil_mem_rest .start).mp derived) (by simp [State.finish?])
  | cons token rest =>
    rw [tokens] at derived spelled
    obtain ⟨rfl, -⟩ := cons_mem_template.mp derived
    simp [← spelled, Token.source]

/-- A text that starts with a slash has a path. -/
theorem lacksPath_of_slash {text : String} (slash : text.toList.head? = some '/') :
    lacksPath text = false := by
  -- A slash is neither blank nor a question mark.
  cases chars : text.toList with
  | nil => simp [chars] at slash
  | cons first rest =>
    simp only [chars, List.head?_cons, Option.some.injEq] at slash
    subst first
    simp [lacksPath, chars, isBlank]

/-- A text is read exactly when its tokens follow the grammar. -/
theorem parseTree_ok_iff (text : String) :
    (∃ tree, parseTree text = .ok tree) ↔ Token.cut text ∈ template := by
  have read := State.run_ok_iff (byteSize text.toList) .start (Token.tokenize text)
  rw [Token.tokenize_eq, Token.map_value_locate, State.rest] at read
  -- A text without a path does not follow the grammar either.
  cases lacking : lacksPath text with
  | true =>
    have refused : Token.cut text ∉ template := by
      intro derived
      simp [lacksPath_of_slash (head_of_mem_template derived)] at lacking
    simp [parseTree, lacking, refused]
  | false =>
    rw [← read, parseTree, Token.tokenize_eq]
    cases result : State.start.run (byteSize text.toList) (Token.locate 0 (Token.cut text)) <;>
      simp [lacking]

/-- A text lacks a path exactly when it is blank or starts with a question mark. -/
theorem lacksPath_iff (text : String) :
    lacksPath text = true ↔
      (∀ c ∈ text.toList, isBlank c = true) ∨ text.toList.head? = some '?' := by
  simp [lacksPath]

/-- The three outcomes of reading a text. -/
theorem parseTree_outcome (text : String) :
    (parseTree text = .error .noPath ↔
      (∀ c ∈ text.toList, isBlank c = true) ∨ text.toList.head? = some '?') ∧
    ((∃ tree, parseTree text = .ok tree) ↔ Token.cut text ∈ template) ∧
    ((∃ error, parseTree text = .error (.malformed error)) ↔
      ¬ ((∀ c ∈ text.toList, isBlank c = true) ∨ text.toList.head? = some '?') ∧
        Token.cut text ∉ template) := by
  rw [← parseTree_ok_iff, ← lacksPath_iff]
  refine ⟨?_, Iff.rfl, ?_⟩
  -- The path is looked for first, and only then the tokens are read.
  all_goals
    unfold parseTree
    cases lacksPath text <;>
      cases State.start.run (byteSize text.toList) (Token.tokenize text) <;> simp

end TypedRoutes

import TypedRoutes.Proofs.Template.Viable

/-! What has been read in a state, by the grammar: whether the tokens stop inside a default, and
whether they end with a declaration that has one. -/

namespace TypedRoutes

open Grammar

namespace Grammar

/-- Token sequences that end in something the rule derives. -/
def endsIn (rule : Rule) : Rule := {tokens | ∃ before behind, behind ∈ rule ∧ before ++ behind = tokens}

/-- A declaration up to its default, in the path or in the query. -/
def declarationHead : Rule :=
  only .openBrace * word * only .colon * word + word * only .equals * only .openBrace * word

/-- A declaration that stops somewhere inside its default. -/
def openDefault : Rule := declarationHead * only .equals * many defaultToken

/-- A complete declaration that has a default. -/
def defaulted : Rule := declarationHead * only .equals * defaultTokens * only .closeBrace

/-- What ends in a rule ends in every rule that derives as much. -/
theorem endsIn_mono {rule wider : Rule} (wide : ∀ tokens ∈ rule, tokens ∈ wider)
    {tokens : List Token} (read : tokens ∈ endsIn rule) : tokens ∈ endsIn wider := by
  obtain ⟨before, behind, derived, joined⟩ := read
  exact ⟨before, behind, wide behind derived, joined⟩

/-- A further token extends what was derived at the end. -/
theorem concat_mem_endsIn {rule : Rule} {kind : Token → Prop} {tokens : List Token} {token : Token}
    (read : tokens ∈ endsIn rule) (fits : kind token) :
    tokens ++ [token] ∈ endsIn (rule * single kind) := by
  obtain ⟨before, behind, derived, rfl⟩ := read
  refine ⟨before, behind ++ [token], ?_, by simp⟩
  exact Language.mem_mul.mpr ⟨behind, derived, [token], ⟨token, fits, rfl⟩, rfl⟩

/-- A rule that derives more derives more behind another. -/
theorem mem_mul_of_wider {first rule wider : Rule} (wide : ∀ tokens ∈ rule, tokens ∈ wider)
    {tokens : List Token} (derived : tokens ∈ first * rule) : tokens ∈ first * wider := by
  obtain ⟨before, begun, behind, ended, rfl⟩ := Language.mem_mul.mp derived
  exact Language.mem_mul.mpr ⟨before, begun, behind, wide behind ended, rfl⟩

/-- A default may be a single token. -/
theorem mem_defaultTokens_of_single {tokens : List Token} (derived : tokens ∈ defaultToken) :
    tokens ∈ defaultTokens := by
  obtain ⟨token, free, rfl⟩ := derived
  exact mem_oneOrMore_single.mpr ⟨by simp, by simpa using free⟩

/-- A default may be followed by more of it. -/
theorem mem_defaultTokens_of_mul {tokens : List Token}
    (derived : tokens ∈ defaultTokens * defaultToken) : tokens ∈ defaultTokens := by
  obtain ⟨before, begun, last, ⟨token, free, rfl⟩, rfl⟩ := Language.mem_mul.mp derived
  obtain ⟨filled, inside⟩ := mem_oneOrMore_single.mp begun
  -- The tokens of the default and the one behind are none of them braces.
  refine mem_oneOrMore_single.mpr ⟨by simp, ?_⟩
  intro other member
  rcases List.mem_append.mp member with early | late
  · exact inside other early
  · exact List.mem_singleton.mp late ▸ free

/-- Every sequence ends in the empty one. -/
theorem mem_endsIn_one (tokens : List Token) : tokens ∈ endsIn 1 :=
  ⟨tokens, [], rfl, by simp⟩

end Grammar

namespace State

/-- Whether a default is being read. -/
def inDefault : State → Bool
  | defaultStart _ _ _ _ | defaultText _ _ _ _ _ => true
  | _ => false

/-- The brace that was read last, if it closed a declaration with a default. -/
def closing? : State → Option Span
  | path _ defaulted | query _ defaulted => defaulted
  | _ => none

/-- The brace that a state remembers is the token that led there. -/
theorem closing_of_step {state next : State} {token : Located Token}
    (stepped : state.step token = some next) :
    ∀ span ∈ next.closing?, token = ⟨.closeBrace, span⟩ := by
  intro span closing
  obtain ⟨value, place⟩ := token
  -- Only a closing brace behind the text of a default is remembered.
  cases state with
  | defaultText site begun typeTag called default =>
    cases value with
    | closeBrace =>
      cases stepped
      cases site <;> simp_all [closing?, Site.close]
    | _ => cases stepped <;> simp [closing?] at closing
  -- A declaration without a default ends the same way, but leaves nothing behind.
  | tail site begun typeTag called =>
    cases value <;> cases stepped
    all_goals cases site <;> simp [closing?, Site.close] at closing
  | _ => cases value <;> cases stepped <;> simp [closing?] at closing

/-- The brace that a state remembers was read last. -/
theorem closing_of_steps {state : State} {before : List (Located Token)} {span : Span}
    (read : start.steps before = some state) (closing : state.closing? = some span) :
    ∃ earlier, before = earlier ++ [⟨.closeBrace, span⟩] := by
  rcases List.eq_nil_or_concat before with rfl | ⟨earlier, token, rfl⟩
  -- At the start nothing is remembered.
  · cases read
    simp [closing?] at closing
  -- The last step left the brace behind.
  · rw [List.concat_eq_append, steps_concat] at read
    obtain ⟨middle, -, stepped⟩ := read
    exact ⟨earlier, by rw [closing_of_step stepped span closing, List.concat_eq_append]⟩

/-- What the tokens behind a state end in, as far as errors depend on it. -/
def past : State → Rule
  | tag _ _ => endsIn (only .openBrace)
  | colon _ _ _ => endsIn (only .openBrace * word)
  | name _ _ _ => endsIn (only .openBrace * word * only .colon)
  | queryEquals _ _ => endsIn word
  | queryBrace _ _ => endsIn (word * only .equals)
  | queryTag _ _ => endsIn (word * only .equals * only .openBrace)
  | tail _ _ _ _ => endsIn declarationHead
  | defaultStart _ _ _ _ => endsIn (declarationHead * only .equals)
  | defaultText _ _ _ _ _ => endsIn (declarationHead * only .equals * defaultTokens)
  | path _ (some _) | query _ (some _) => endsIn defaulted
  | start | path _ none | queryName _ | query _ none => endsIn 1

/-- A declaration that ends is behind what its site remembers of it. -/
theorem mem_past_close (site : Site) (declaration : Located Declaration) (closing : Option Span)
    {tokens : List Token} (ended : closing.isSome = true → tokens ∈ endsIn defaulted) :
    tokens ∈ (site.close declaration closing).past := by
  -- Both sites remember the brace only where there is one.
  cases site <;> cases closing
  all_goals first | exact mem_endsIn_one tokens | exact ended rfl

/-- One step keeps track of what the tokens end in. -/
theorem concat_mem_past {state next : State} {token : Located Token} {tokens : List Token}
    (read : tokens ∈ state.past) (stepped : state.step token = some next) :
    tokens ++ [token.value] ∈ next.past := by
  obtain ⟨value, span⟩ := token
  cases state with
  | start | query =>
    cases value <;> cases stepped
    exact mem_endsIn_one _
  | path before defaulted =>
    -- Only the opening brace begins something that errors depend on.
    cases value with
    | openBrace =>
      cases stepped
      exact ⟨tokens, [.openBrace], ⟨_, rfl, rfl⟩, rfl⟩
    | closeBrace => cases stepped
    | _ =>
      cases stepped
      exact mem_endsIn_one _
  | queryName before =>
    cases value <;> cases stepped
    exact ⟨tokens, [.text _], ⟨_, rfl, rfl⟩, rfl⟩
  | tag | colon | queryEquals | queryBrace =>
    -- Each token of a head extends the head.
    cases value <;> cases stepped
    exact concat_mem_endsIn read rfl
  | name before opened typeTag =>
    -- The head is complete, and it is one of the path.
    cases value <;> cases stepped
    exact endsIn_mono (fun _ => Or.inl) (concat_mem_endsIn read rfl)
  | queryTag before called =>
    cases value <;> cases stepped
    exact endsIn_mono (fun _ => Or.inr) (concat_mem_endsIn read rfl)
  | tail site begun typeTag called =>
    -- Without a default, nothing is remembered of the declaration.
    cases value with
    | equals =>
      cases stepped
      exact concat_mem_endsIn read rfl
    | closeBrace =>
      cases stepped
      exact mem_past_close _ _ _ (by simp)
    | _ => cases stepped
  | defaultStart site begun typeTag called =>
    have longer : ∀ tokens ∈ declarationHead * only .equals * defaultToken,
        tokens ∈ declarationHead * only .equals * defaultTokens :=
      fun _ => mem_mul_of_wider fun _ => mem_defaultTokens_of_single
    cases value <;> cases stepped
    all_goals exact endsIn_mono longer (concat_mem_endsIn read (by simp))
  | defaultText site begun typeTag called default =>
    have longer : ∀ tokens ∈ declarationHead * only .equals * defaultTokens * defaultToken,
        tokens ∈ declarationHead * only .equals * defaultTokens := by
      intro tokens derived
      rw [mul_assoc (declarationHead * only .equals)] at derived
      exact mem_mul_of_wider (fun _ => mem_defaultTokens_of_mul) derived
    cases value with
    | openBrace => cases stepped
    | closeBrace =>
      cases stepped
      exact mem_past_close _ _ _ fun _ => concat_mem_endsIn read rfl
    | _ =>
      cases stepped
      exact endsIn_mono longer (concat_mem_endsIn read (by simp))

/-- Reading keeps track of what the tokens end in. -/
theorem append_mem_past {state next : State} {tokens : List (Located Token)}
    {before : List Token} (begun : before ∈ state.past) (read : state.steps tokens = some next) :
    before ++ tokens.map Located.value ∈ next.past := by
  -- One step after the other.
  induction tokens generalizing state before with
  | nil =>
    cases read
    simpa using begun
  | cons token rest ih =>
    rw [steps_cons] at read
    obtain ⟨middle, stepped, later⟩ := Option.bind_eq_some_iff.mp read
    simpa using ih (concat_mem_past begun stepped) later

/-- Behind the head of a declaration and its equals sign a default starts. -/
theorem steps_head {state next : State} {head : List Token} {offset : Nat}
    (declared : head ∈ declarationHead * only .equals)
    (read : state.steps (Token.locate offset head) = some next) :
    ∃ site begun typeTag called, next = defaultStart site begun typeTag called := by
  rw [declarationHead, mem_add_mul] at declared
  simp only [mul_assoc, only, word, mem_single_mul, mem_single] at declared
  rcases declared with path | query
  -- A head with a colon can only be read in the path.
  · obtain ⟨_, _, rfl, rfl, _, _, rfl, isTag, _, _, rfl, rfl, _, _, rfl, isName, _, rfl, rfl⟩ := path
    -- With its five tokens known, every other state refuses one of them.
    obtain ⟨typeTag, rfl⟩ := Token.exists_run isTag
    obtain ⟨name, rfl⟩ := Token.exists_run isName
    cases state with
    | path before defaulted => exact ⟨_, _, _, _, (Option.some.inj read).symm⟩
    | _ => cases read
  -- A head with an equals sign before its brace can only be read in the query.
  · obtain ⟨_, _, rfl, isName, _, _, rfl, rfl, _, _, rfl, rfl, _, _, rfl, isTag, _, rfl, rfl⟩ := query
    obtain ⟨name, rfl⟩ := Token.exists_run isName
    obtain ⟨typeTag, rfl⟩ := Token.exists_run isTag
    cases state with
    | queryName before => exact ⟨_, _, _, _, (Option.some.inj read).symm⟩
    | _ => cases read

/-- A default goes on over its tokens. -/
theorem steps_body {state next : State} {body : List Token} {offset : Nat}
    (inside : state.inDefault = true) (free : ∀ token ∈ body, token.IsDefault)
    (read : state.steps (Token.locate offset body) = some next) :
    next.inDefault = true ∧
      (body ≠ [] → ∃ site begun typeTag called default,
        next = defaultText site begun typeTag called default) := by
  induction body generalizing state offset with
  | nil =>
    cases read
    exact ⟨inside, by simp⟩
  | cons token rest ih =>
    rw [Token.locate, steps_cons] at read
    obtain ⟨middle, stepped, later⟩ := Option.bind_eq_some_iff.mp read
    -- The first token leads into the text of the default, where the others stay.
    have entered : ∃ site begun typeTag called default,
        middle = defaultText site begun typeTag called default := by
      obtain ⟨opens, closes⟩ := free token (by simp)
      cases state with
      | defaultStart | defaultText =>
        cases token <;> simp at opens closes
        all_goals exact ⟨_, _, _, _, _, (Option.some.inj stepped).symm⟩
      | _ => simp [inDefault] at inside
    obtain ⟨site, begun, typeTag, called, default, rfl⟩ := entered
    obtain ⟨still, text⟩ := ih rfl (fun other member => free other (by simp [member])) later
    -- A single token has led into the text itself.
    refine ⟨still, fun _ => ?_⟩
    cases rest with
    | nil => exact ⟨site, begun, typeTag, called, default, (Option.some.inj later).symm⟩
    | cons other others => exact text (by simp)

/-- Behind a head and some of its default, the reader is inside the default. -/
theorem steps_openDefault {state : State} {before head body : List Token}
    (read : start.steps (Token.locate 0 (before ++ (head ++ body))) = some state)
    (declared : head ∈ declarationHead * only .equals) (free : ∀ token ∈ body, token.IsDefault) :
    state.inDefault = true ∧
      (body ≠ [] → ∃ site begun typeTag called default,
        state = defaultText site begun typeTag called default) := by
  -- Whatever was read before, the head leads to the start of a default.
  rw [Token.locate_append, steps_append, Token.locate_append] at read
  obtain ⟨earlier, -, declaration⟩ := Option.bind_eq_some_iff.mp read
  rw [steps_append] at declaration
  obtain ⟨middle, opened, later⟩ := Option.bind_eq_some_iff.mp declaration
  obtain ⟨site, begun, typeTag, called, rfl⟩ := steps_head declared opened
  -- From there on it goes on over the body.
  exact steps_body rfl free later

/-- The reader is inside a default exactly when the tokens stop inside one. -/
theorem inDefault_iff {state : State} {tokens : List Token}
    (read : start.steps (Token.locate 0 tokens) = some state) :
    state.inDefault = true ↔ tokens ∈ endsIn openDefault := by
  constructor
  -- The past of the two states says so.
  · intro inside
    have past := append_mem_past (mem_endsIn_one []) read
    rw [List.nil_append, Token.map_value_locate] at past
    cases state with
    | defaultStart site begun typeTag called =>
      refine endsIn_mono (fun read derived => ?_) past
      exact Language.mem_mul.mpr ⟨read, derived, [], mem_many_single.mpr (by simp), by simp⟩
    | defaultText site begun typeTag called default =>
      exact endsIn_mono (fun _ => mem_mul_of_wider fun _ several =>
        mem_many_single.mpr (mem_oneOrMore_single.mp several).2) past
    | _ => simp [inDefault] at inside
  -- Reading them again leads there.
  · rintro ⟨before, behind, derived, rfl⟩
    obtain ⟨head, declared, body, several, rfl⟩ := Language.mem_mul.mp derived
    exact (steps_openDefault read declared (mem_many_single.mp several)).1

/-- The reader remembers a brace exactly when the tokens end with a declaration with a default. -/
theorem isSome_closing_iff {state : State} {tokens : List Token}
    (read : start.steps (Token.locate 0 tokens) = some state) :
    state.closing?.isSome = true ↔ tokens ∈ endsIn defaulted := by
  constructor
  -- The past of the state says so.
  · intro closed
    have past := append_mem_past (mem_endsIn_one []) read
    rw [List.nil_append, Token.map_value_locate] at past
    cases state with
    | path before defaulted | query before defaulted =>
      cases defaulted with
      | none => simp [closing?] at closed
      | some span => exact past
    | _ => simp [closing?] at closed
  · rintro ⟨before, behind, derived, rfl⟩
    obtain ⟨declaration, inside, _, ⟨brace, rfl, rfl⟩, rfl⟩ := Language.mem_mul.mp derived
    obtain ⟨head, declared, body, several, rfl⟩ := Language.mem_mul.mp inside
    obtain ⟨filled, free⟩ := mem_oneOrMore_single.mp several
    -- Before the brace the reader is in the text of the default.
    rw [← List.append_assoc, Token.locate_append, steps_append] at read
    obtain ⟨earlier, reached, closes⟩ := Option.bind_eq_some_iff.mp read
    obtain ⟨-, text⟩ := steps_openDefault reached declared free
    obtain ⟨site, begun, typeTag, called, default, rfl⟩ := text filled
    cases site <;> cases closes <;> rfl

end State

end TypedRoutes

import TypedRoutes.Proofs.Template.Misfit

/-! What a syntax error lists as expected are real continuations of what stands before the first
misfit. -/

namespace TypedRoutes

open Grammar

/-! The states. -/

namespace State

/-- What is listed besides the end and any token is a structural token that the reader takes. -/
theorem step_of_mem_expected {state : State} {token : Token}
    (listed : .token token ∈ state.expected) (span : Span) :
    token.isRun = false ∧ ∃ next, state.step ⟨token, span⟩ = some next := by
  -- No state lists more than three tokens.
  cases state <;> simp only [expected, List.mem_cons, List.not_mem_nil, or_false,
    Expectation.token.injEq, reduceCtorEq, or_self, false_or] at listed
  case path =>
    rcases listed with rfl | rfl | rfl <;> exact ⟨rfl, _, rfl⟩
  case tail =>
    rcases listed with rfl | rfl <;> exact ⟨rfl, _, rfl⟩
  all_goals
    subst listed
    exact ⟨rfl, _, rfl⟩

/-- The end is listed in the states in which the template may end. -/
theorem endOfTemplate_mem_expected {state : State} :
    .endOfTemplate ∈ state.expected ↔ ∃ tree, state.finish? = some tree := by
  -- The list of a state and its way to finish are read off together.
  cases state <;> simp [expected, finish?]

/-- Any token is listed inside a default. -/
theorem anyToken_mem_expected {state : State} :
    .anyToken ∈ state.expected ↔ state.inDefault = true := by
  -- Only the two states inside a default list it.
  cases state <;> simp [expected, inDefault]

/-- Inside a default a brace is refused without a list. -/
theorem expected_rejectToken (state : State) (token : Located Token) :
    (state.rejectToken token).expected = if state.inDefault then [] else state.expected := by
  -- The two states that know of a default list the same with and without it.
  cases state with
  | path before defaulted | query before defaulted => cases defaulted <;> rfl
  | _ => rfl

end State

/-! The words of the list. -/

/-- Only a structural token is shown as a single character between quotes. -/
theorem describe_eq_quoted_iff {expectation : Expectation} {c : Char} :
    expectation.describe = "'" ++ String.singleton c ++ "'" ↔
      ∃ token, expectation = .token token ∧ token.source = String.singleton c ∧
        token.isRun = false := by
  -- The marks have one character between their quotes, and every other description is longer.
  cases expectation with
  | token token =>
    cases token <;> simp [Expectation.describe, Token.describe, Token.isRun, Token.source,
      String.ext_iff]
  | _ => simp [Expectation.describe, String.ext_iff]

/-- Only the end is shown as the end. -/
theorem describe_eq_end_iff {expectation : Expectation} :
    expectation.describe = "end of template" ↔ expectation = .endOfTemplate := by
  -- No token is described in these words.
  cases expectation with
  | token token =>
    cases token <;> simp [Expectation.describe, Token.describe, Token.source, String.ext_iff]
  | _ => simp [Expectation.describe]

/-- Only any token is shown as any token. -/
theorem describe_eq_any_iff {expectation : Expectation} :
    expectation.describe = "any token" ↔ expectation = .anyToken := by
  -- Nor in these.
  cases expectation with
  | token token =>
    cases token <;> simp [Expectation.describe, Token.describe, Token.source, String.ext_iff]
  | _ => simp [Expectation.describe]

/-! The list. -/

/-- What a list names can stand behind the first tokens of a template. -/
structure Continuations (template : String) (index : Nat) (listed : List String) : Prop where
  /-- A character between quotes goes on with what stands before it, and some template starts with
  that. -/
  quoted : ∀ c, "'" ++ String.singleton c ++ "'" ∈ listed →
    Extendable (leading template index ++ String.singleton c)
  /-- The end is listed exactly if what stands before it is a template. -/
  ended : "end of template" ∈ listed ↔ ∃ tree, parseTree (leading template index) = .ok tree
  /-- Any token is listed exactly if the template ends inside a default or where one starts. -/
  any : "any token" ∈ listed ↔
    index = (Token.cut template).length ∧ Token.cut template ∈ endsIn openDefault
  /-- There is nothing else in the list. -/
  only : ∀ entry ∈ listed, entry = "end of template" ∨ entry = "any token" ∨
    ∃ c, entry = "'" ++ String.singleton c ++ "'"

section

variable {template : String} {before after : List (Located Token)} {state : State}

/-- All tokens that were read are the first ones of the template. -/
theorem take_cut_length (split : Token.tokenize template = before ++ after) :
    (Token.cut template).take before.length = before.map Located.value := by
  -- Taking as many tokens as were read leaves none of them out.
  rw [take_cut split le_rfl, List.take_length]

/-- The tokens that were read keep their boundaries. -/
theorem settled_read (split : Token.tokenize template = before ++ after) :
    Token.Settled (before.map Located.value) := by
  -- They are the first tokens of a text.
  rw [← take_cut_length split]
  exact (Token.settled_cut template).part (List.take_prefix _ _).isInfix

/-- What was read can go on with every structural token that the reader takes. -/
theorem extendable_of_step (split : Token.tokenize template = before ++ after)
    (reached : State.start.steps before = some state) {token : Token}
    (structural : token.isRun = false) {span : Span} {next : State}
    (stepped : state.step ⟨token, span⟩ = some next) :
    Extendable (leading template before.length ++ token.source) := by
  -- The tokens that were read and the new one are the cut of a text that the reader gets through,
  -- so the text can be extended.
  let read := before ++ [⟨token, span⟩]
  have taken : State.start.steps read = some next :=
    State.steps_concat.mpr ⟨state, reached, stepped⟩
  have tokens : read.map Located.value = before.map Located.value ++ [token] := by simp [read]
  -- A structural token touches no run before it.
  have single : Token.Settled [token] :=
    Token.settled_singleton (Token.proper_of_structural structural)
  have settled : Token.Settled (read.map Located.value) := by
    rw [tokens]
    refine (settled_read split).append single fun left _ right first => ?_
    obtain rfl : token = right := by simpa using first
    simp [Token.Apart, structural]
  have longer := extendable_of_steps settled taken
  rw [tokens, Token.spell_append, String.ofList_append] at longer
  simpa [leading, take_cut_length split] using longer

/-- What was read is a template if the reader takes the end behind it. -/
theorem parseTree_leading_iff (split : Token.tokenize template = before ++ after)
    (reached : State.start.steps before = some state) :
    (∃ tree, parseTree (leading template before.length) = .ok tree) ↔
      ∃ tree, state.finish? = some tree := by
  -- A text is accepted exactly if no tokens may follow the state that it leads to.
  have follows := State.start.append_mem_rest before []
  rw [List.append_nil, State.rest] at follows
  rw [parseTree_ok_iff, leading, take_cut_length split, Token.cut_ofList_spell (settled_read split),
    ← state.nil_mem_rest]
  simpa [reached] using follows

/-- A list continues what was read if it is that of the state, or if it leaves out what a default
goes on with. -/
theorem continuations_of_steps (split : Token.tokenize template = before ++ after)
    (reached : State.start.steps before = some state) {listed : List Expectation}
    (inside : ∀ expectation ∈ listed, expectation ∈ state.expected)
    (ended : .endOfTemplate ∈ listed ↔ .endOfTemplate ∈ state.expected)
    (any : .anyToken ∈ listed ↔
      before.length = (Token.cut template).length ∧ Token.cut template ∈ endsIn openDefault) :
    Continuations template before.length (listed.map Expectation.describe) where
  -- A quoted character stands for a token that is listed, and the reader takes such a token.
  quoted c member := by
    obtain ⟨expectation, shown, described⟩ := List.mem_map.mp member
    obtain ⟨token, rfl, source, structural⟩ := describe_eq_quoted_iff.mp described
    obtain ⟨-, next, stepped⟩ := State.step_of_mem_expected (inside _ shown) ⟨0, 0⟩
    exact source ▸ extendable_of_step split reached structural stepped
  -- The end is described by its own words only, so it is listed by name.
  ended := by
    rw [parseTree_leading_iff split reached, ← State.endOfTemplate_mem_expected, ← ended]
    simp [describe_eq_end_iff]
  any := by
    rw [← any]
    simp [describe_eq_any_iff]
  -- A token is a structural one, whose source is a single character.
  only entry member := by
    obtain ⟨expectation, shown, rfl⟩ := List.mem_map.mp member
    cases expectation with
    | token token =>
      obtain ⟨structural, -⟩ := State.step_of_mem_expected (inside _ shown) ⟨0, 0⟩
      obtain ⟨c, source, -⟩ := Token.ofStructural_source structural
      have single : token.source = String.singleton c := by simpa [String.ext_iff] using source
      exact Or.inr (Or.inr ⟨c, describe_eq_quoted_iff.mpr ⟨token, rfl, single, structural⟩⟩)
    | anyToken => exact Or.inr (Or.inl rfl)
    | endOfTemplate => exact Or.inl rfl

end

/-- What the error for a template lists as expected can stand in the place of the first misfit. -/
theorem parseTree_expected {template : String} {error : SyntaxError}
    (failed : parseTree template = .error (.malformed error)) :
    ∃ index, FirstMisfit template index ∧
      Continuations template index (error.expected.map Expectation.describe) := by
  obtain ⟨before, after, state, split, reached, refused⟩ :=
    State.exists_of_run_error (run_of_malformed failed)
  rcases refused with ⟨rfl, rfl⟩ | ⟨token, behind, rfl, refused, rfl⟩
  -- All tokens were read, and the list is that of the last state.
  · have whole : Token.tokenize template = before := by simpa using split
    have count : before.length = (Token.cut template).length := by
      rw [Token.cut, List.length_map, whole]
    have read : State.start.steps (Token.locate 0 (Token.cut template)) = some state := by
      rwa [← Token.tokenize_eq, whole]
    have misfit : FirstMisfit template before.length :=
      count ▸ firstMisfit_of_read (whole ▸ reached)
    refine ⟨before.length, misfit, continuations_of_steps split reached ?_ Iff.rfl ?_⟩
    · exact fun _ shown => shown
    · rw [← State.inDefault_iff read, ← State.anyToken_mem_expected]
      exact (and_iff_right count).symm
  -- A brace inside a default comes without a list, and every other token with that of its state.
  · have fewer : before.length ≠ (Token.cut template).length := by simp [Token.cut, split]
    refine ⟨before.length, firstMisfit_of_refused split reached refused,
      continuations_of_steps split reached ?_ ?_ ?_⟩
    all_goals rw [State.expected_rejectToken]
    · intro expectation shown
      split at shown
      · cases shown
      · exact shown
    · split
      · rename_i inside
        cases state <;> simp_all [State.inDefault, State.expected]
      · exact Iff.rfl
    · refine iff_of_false (fun shown => ?_) fun both => fewer both.1
      split at shown
      · cases shown
      · rename_i outside
        exact outside (State.anyToken_mem_expected.mp shown)

/-- A template that ends inside a default. -/
theorem parseTree_expected_open_default :
    ∃ error, parseTree "/a\x7bint:id=1" = .error (.malformed error) ∧
      error.expected.map Expectation.describe = ["any token", "'\x7d'"] ∧
      ∃ index, FirstMisfit "/a\x7bint:id=1" index ∧
        Continuations "/a\x7bint:id=1" index (error.expected.map Expectation.describe) := by
  have failed : parseTree "/a\x7bint:id=1" =
      .error (.malformed ⟨⟨11, 11⟩, none, [.anyToken, .token .closeBrace]⟩) := by rfl
  exact ⟨_, failed, by decide, parseTree_expected failed⟩

end TypedRoutes

import TypedRoutes.Proofs.Template.Past

/-! Syntax errors point at the first token that no template can have in its place. -/

namespace TypedRoutes

open Grammar

namespace State

/-- The error for a token names the token outside of defaults, and shows the brace before it if that
closed a declaration with a default. -/
theorem rejectToken_eq (state : State) (token : Located Token) :
    (state.rejectToken token).found = (if state.inDefault then none else some token.value) ∧
      (state.rejectToken token).span = state.closing?.getD token.span := by
  -- The states differ in what they expect, which the two fields do not show.
  cases state with
  | path before defaulted | query before defaulted => cases defaulted <;> exact ⟨rfl, rfl⟩
  | _ => exact ⟨rfl, rfl⟩

/-- Inside a default only braces are refused. -/
theorem brace_of_inDefault {state : State} {token : Located Token} (inside : state.inDefault = true)
    (refused : state.step token = none) :
    token.value = .openBrace ∨ token.value = .closeBrace := by
  obtain ⟨value, span⟩ := token
  -- A default takes every token but a brace, and of the braces only the closing one behind some
  -- text.
  cases state with
  | defaultStart | defaultText => cases value <;> simp [step] at refused ⊢
  | _ => simp [inDefault] at inside

end State

/-- The text of the first tokens of a template. -/
def leading (template : String) (count : Nat) : String :=
  String.ofList (Token.spell ((Token.cut template).take count))

/-- The index of the first token that no template can have in its place, or else the number of
tokens. -/
structure FirstMisfit (template : String) (index : Nat) : Prop where
  /-- The index is that of a token or of the end. -/
  bound : index ≤ (Token.cut template).length
  /-- Every token before it can stand in its place. -/
  earlier : ∀ i < index, Extendable (leading template (i + 1))
  /-- A token there cannot. -/
  misfit : index < (Token.cut template).length → ¬ Extendable (leading template (index + 1))

/-- There is only one first misfit. -/
theorem FirstMisfit.unique {template : String} {index other : Nat}
    (first : FirstMisfit template index) (second : FirstMisfit template other) : index = other := by
  -- A misfit before the other one would be both possible and impossible in its place.
  rcases Nat.lt_trichotomy index other with less | same | greater
  · exact absurd (second.earlier index less) (first.misfit (Nat.lt_of_lt_of_le less second.bound))
  · exact same
  · exact absurd (first.earlier other greater)
      (second.misfit (Nat.lt_of_lt_of_le greater first.bound))

/-- What an error says about the token at an index: how it is called, and which place is shown. -/
structure Reported (template : String) (index : Nat) (what : String) (place : Span) : Prop where
  /-- A template that ends too early is reported at its end. -/
  ended : index = (Token.cut template).length →
    what = "end of template" ∧ place = ⟨byteSize template.toList, byteSize template.toList⟩
  /-- A brace that stops a default counts as the end of the template. -/
  stopped : ∀ token ∈ (Token.tokenize template)[index]?,
    token.value = .openBrace ∨ token.value = .closeBrace →
    (Token.cut template).take index ∈ endsIn openDefault → what = "end of template"
  /-- Every other token is named. -/
  named : ∀ token ∈ (Token.tokenize template)[index]?,
    ¬ ((token.value = .openBrace ∨ token.value = .closeBrace) ∧
      (Token.cut template).take index ∈ endsIn openDefault) → what = token.value.describe
  /-- The place of the token is shown, -/
  placed : ∀ token ∈ (Token.tokenize template)[index]?,
    (Token.cut template).take index ∉ endsIn defaulted → place = token.span
  /-- except behind a declaration with a default, where its closing brace is shown. -/
  closed : ∀ token ∈ (Token.tokenize template)[index]?,
    (Token.cut template).take index ∈ endsIn defaulted →
    ∃ before brace, (Token.tokenize template).take index = before ++ [brace] ∧
      brace.value = .closeBrace ∧ place = brace.span

section

variable {template : String} {before after : List (Located Token)} {state : State}

/-- The first tokens of a template are the first of those that were read. -/
theorem take_cut (split : Token.tokenize template = before ++ after) {count : Nat}
    (within : count ≤ before.length) :
    (Token.cut template).take count = (before.take count).map Located.value := by
  -- The tokens that were read are the first ones of the template.
  rw [Token.cut, split, ← List.map_take, List.take_append_of_le_length within]

/-- The tokens that were read stand in their places from the start. -/
theorem locate_of_split (split : Token.tokenize template = before ++ after) :
    Token.locate 0 ((Token.cut template).take before.length) = before := by
  -- The place of a token depends only on the tokens before it.
  rw [← Token.take_locate, ← Token.tokenize_eq, split, List.take_left]

/-- As far as the reader gets, some template starts with what it has read. -/
theorem extendable_leading (split : Token.tokenize template = before ++ after)
    (reached : State.start.steps before = some state) {count : Nat}
    (within : count ≤ before.length) : Extendable (leading template count) := by
  -- Fewer tokens are read as well, and they are settled as part of the template.
  obtain ⟨middle, early⟩ := State.steps_take reached count
  have settled := (Token.settled_cut template).part
    (List.take_prefix count (Token.cut template)).isInfix
  rw [leading, take_cut split within]
  rw [take_cut split within] at settled
  exact extendable_of_steps settled early

/-- A token that the reader refuses is the first misfit. -/
theorem firstMisfit_of_refused {token : Located Token} {behind : List (Located Token)}
    (split : Token.tokenize template = before ++ token :: behind)
    (reached : State.start.steps before = some state) (refused : state.step token = none) :
    FirstMisfit template before.length := by
  have tokens : Token.cut template =
      before.map Located.value ++ token.value :: behind.map Located.value := by
    rw [Token.cut, split, List.map_append, List.map_cons]
  refine ⟨by simp [tokens], fun i less => extendable_leading split reached less, fun _ => ?_⟩
  -- Up to the token, the template is what was read and the token itself.
  have cut : (Token.cut template).take (before.length + 1) =
      before.map Located.value ++ [token.value] := by
    simp [tokens, List.take_append]
  have settled := (Token.settled_cut template).part
    (List.take_prefix (before.length + 1) (Token.cut template)).isInfix
  rw [cut] at settled
  rw [leading, cut]
  -- What the reader refuses cannot be extended, and what it has read can.
  exact not_extendable_of_step_eq_none settled reached refused

/-- Where the reader gets through all tokens, there is no misfit but the end. -/
theorem firstMisfit_of_read (read : State.start.steps (Token.tokenize template) = some state) :
    FirstMisfit template (Token.cut template).length := by
  -- Nothing is left that could be refused.
  have split : Token.tokenize template = Token.tokenize template ++ [] := by simp
  have count : (Token.cut template).length = (Token.tokenize template).length := by
    simp [Token.cut]
  exact ⟨le_rfl, fun i less => extendable_leading split read (count ▸ less),
    fun less => absurd less (Nat.lt_irrefl _)⟩

end

/-- Where reading fails, every token is still to be read. -/
theorem run_of_malformed {template : String} {error : SyntaxError}
    (failed : parseTree template = .error (.malformed error)) :
    State.start.run (byteSize template.toList) (Token.tokenize template) = .error error := by
  -- The other error is that of a text without a path.
  unfold parseTree at failed
  cases lacking : lacksPath template with
  | true => simp [lacking] at failed
  | false =>
    cases result : State.start.run (byteSize template.toList) (Token.tokenize template) with
    | ok tree => simp [lacking, result] at failed
    | error other =>
      simp only [lacking, result, Bool.false_eq_true, if_false, Except.error.injEq,
        TemplateError.malformed.injEq] at failed
      rw [failed]

/-- A refused token is reported as the brace that stops a default or by its name, and in its own
place or at the brace before it. -/
theorem reported_of_refused {template : String} {before behind : List (Located Token)}
    {token : Located Token} {state : State}
    (split : Token.tokenize template = before ++ token :: behind)
    (reached : State.start.steps before = some state) (refused : state.step token = none) :
    Reported template before.length (state.rejectToken token).foundText
      (state.rejectToken token).span := by
  obtain ⟨found, span⟩ := state.rejectToken_eq token
  -- The token at the index is the one that is refused.
  have here : (Token.tokenize template)[before.length]? = some token := by simp [split]
  have unique : ∀ other ∈ (Token.tokenize template)[before.length]?, token = other := by
    intro other member
    rw [here] at member
    exact Option.some.inj member
  have read := reached
  rw [← locate_of_split split] at read
  refine ⟨?_, ?_, ?_, ?_, ?_⟩
  -- The template has at least one more token than were read.
  · intro ended
    simp [Token.cut, split] at ended
  -- A default has no words for the token that stops it.
  · intro other member _ inside
    rw [← State.inDefault_iff read] at inside
    simp [SyntaxError.foundText, found, inside]
  · intro other member outside
    cases unique other member
    -- Inside a default the token would be a brace.
    have left : state.inDefault = false := by
      rw [← State.inDefault_iff read] at outside
      by_contra inside
      simp only [Bool.not_eq_false] at inside
      exact outside ⟨state.brace_of_inDefault inside refused, inside⟩
    simp [SyntaxError.foundText, found, left]
  -- Behind no default, the reader remembers no brace and shows the token.
  · intro other member unclosed
    cases unique other member
    rw [← State.isSome_closing_iff read] at unclosed
    simp only [Bool.not_eq_true, Option.isSome_eq_false_iff, Option.isNone_iff_eq_none] at unclosed
    simp [span, unclosed]
  · intro other member closed
    rw [← State.isSome_closing_iff read] at closed
    obtain ⟨place, remembered⟩ := Option.isSome_iff_exists.mp closed
    -- The remembered brace is the last token that was read.
    obtain ⟨earlier, last⟩ := State.closing_of_steps reached remembered
    refine ⟨earlier, ⟨.closeBrace, place⟩, ?_, rfl, by simp [span, remembered]⟩
    rw [split, List.take_left, last]

/-- A template that does not follow the grammar is refused at its first misfit. -/
theorem parseTree_misfit {template : String} {error : SyntaxError}
    (failed : parseTree template = .error (.malformed error)) :
    ∃ index what, FirstMisfit template index ∧ Extendable (leading template index) ∧
      error.message = "syntax error at " ++ error.span.describe ++ ": Unexpected " ++ what ∧
      Reported template index what error.span := by
  obtain ⟨before, after, state, split, reached, refused⟩ :=
    State.exists_of_run_error (run_of_malformed failed)
  rcases refused with ⟨rfl, rfl⟩ | ⟨token, behind, rfl, refused, rfl⟩
  -- All tokens were read, and the template ends too early.
  · have whole : Token.tokenize template = before := by simpa using split
    have count : before.length = (Token.cut template).length := by
      rw [Token.cut, List.length_map, whole]
    refine ⟨before.length, "end of template", ?_, extendable_leading split reached le_rfl, rfl, ?_⟩
    · rw [count]
      exact firstMisfit_of_read (whole ▸ reached)
    · have behind : (Token.tokenize template)[before.length]? = none := by simp [whole]
      exact ⟨fun _ => ⟨rfl, rfl⟩, by simp [behind], by simp [behind], by simp [behind],
        by simp [behind]⟩
  -- The first token that is left is refused.
  · exact ⟨before.length, (state.rejectToken token).foundText,
      firstMisfit_of_refused split reached refused, extendable_leading split reached le_rfl, rfl,
      reported_of_refused split reached refused⟩

/-- The brace behind a declaration with a default is shown in place of the one that does not belong
there. -/
theorem parseTree_misfit_second_brace :
    ∃ error, parseTree "/a\x7bint:id=x\x7d\x7d" = .error (.malformed error) ∧
      error.message = "syntax error at 11..12: Unexpected '\x7d'" ∧
      ∃ index what, FirstMisfit "/a\x7bint:id=x\x7d\x7d" index ∧
        Extendable (leading "/a\x7bint:id=x\x7d\x7d" index) ∧
        error.message = "syntax error at " ++ error.span.describe ++ ": Unexpected " ++ what ∧
        Reported "/a\x7bint:id=x\x7d\x7d" index what error.span := by
  have failed : parseTree "/a\x7bint:id=x\x7d\x7d" = .error (.malformed ⟨⟨11, 12⟩, some .closeBrace,
      [.token .openBrace, .token .slash, .token .question, .endOfTemplate]⟩) := by rfl
  exact ⟨_, failed, by decide, parseTree_misfit failed⟩

end TypedRoutes

import TypedRoutes.Proofs.Template.Derivation
import TypedRoutes.Proofs.Template.Steps

/-! Beginnings of templates: the reader gets through a text exactly as long as some template starts
with it. -/

namespace TypedRoutes

open Grammar

namespace State

/-- Some tokens and what follows them may follow exactly where the reader gets through the tokens
and then the others may follow. -/
theorem append_mem_rest (state : State) (first : List (Located Token)) (tokens : List Token) :
    first.map Located.value ++ tokens ∈ state.rest ↔
      ∃ next, state.steps first = some next ∧ tokens ∈ next.rest := by
  -- Each token that is read takes one token off what may follow.
  induction first generalizing state with
  | nil => simp
  | cons token first ih =>
    rw [List.map_cons, List.cons_append, state.cons_mem_rest]
    cases stepped : state.step token <;> simp [stepped, ih]

/-- Tokens that complete a template from a state. -/
def completion : State → List Token
  | start => [.slash]
  | path _ _ | query _ _ => []
  | tag _ _ => [.text "a", .colon, .text "a", .closeBrace]
  | colon _ _ _ => [.colon, .text "a", .closeBrace]
  | name _ _ _ | queryTag _ _ | defaultStart _ _ _ _ => [.text "a", .closeBrace]
  | queryName _ => [.text "a", .equals, .openBrace, .text "a", .closeBrace]
  | queryEquals _ _ => [.equals, .openBrace, .text "a", .closeBrace]
  | queryBrace _ _ => [.openBrace, .text "a", .closeBrace]
  | tail _ _ _ _ | defaultText _ _ _ _ _ => [.closeBrace]

/-- From every state a template can be completed. -/
theorem completion_mem_rest (state : State) : state.completion ∈ state.rest := by
  -- The reader gets through the completion, and the template may end behind it.
  have reached : ∃ next tree, state.steps (Token.locate 0 state.completion) = some next ∧
      next.finish? = some tree := by
    cases state with
    | tail site | defaultStart site | defaultText site =>
      cases site <;> exact ⟨_, _, rfl, rfl⟩
    | _ => exact ⟨_, _, rfl, rfl⟩
  obtain ⟨next, tree, read, finished⟩ := reached
  have ended : [] ∈ next.rest := next.nil_mem_rest.mpr ⟨tree, finished⟩
  have whole := (state.append_mem_rest (Token.locate 0 state.completion) []).mpr ⟨next, read, ended⟩
  rwa [List.append_nil, Token.map_value_locate] at whole

/-- Completions keep their boundaries when they are written. -/
theorem settled_completion (state : State) : Token.Settled state.completion := by
  have word : (Token.text "a").Proper :=
    ⟨by decide, by simp [Token.IsPlain, Token.ofStructural?]⟩
  have structural : Token.Proper .slash ∧ Token.Proper .colon ∧ Token.Proper .equals ∧
      Token.Proper .openBrace ∧ Token.Proper .closeBrace := by simp [Token.Proper]
  -- The only run is a single letter, and no two runs stand side by side.
  constructor
  · cases state <;> simp [completion, word, structural]
  · cases state <;> simp [completion, Token.Apart, Token.isRun]

/-- A completion can be written behind the token that led to its state. -/
theorem apart_completion {state next : State} {token : Located Token}
    (stepped : state.step token = some next) :
    ∀ first ∈ next.completion.head?, token.value.Apart first := by
  obtain ⟨value, span⟩ := token
  intro first member ⟨isRun, firstIsRun⟩
  cases value with
  | text run =>
    -- A run leads to states that go on with a structural token.
    have structural : ∀ first ∈ next.completion.head?, first.isRun = false := by
      cases state with
      | start | colon | queryEquals | queryBrace | tail | query => cases stepped
      | _ =>
        cases stepped
        simp [completion, Token.isRun]
    simp [structural first member] at firstIsRun
  | _ => simp [Token.isRun] at isRun

/-- Whether a token can stand in a state does not depend on its place, nor on what a run says. -/
theorem step_eq_none_of_alike {state : State} {token other : Located Token}
    (alike : Token.Alike token.value other.value) (refused : state.step token = none) :
    state.step other = none := by
  obtain ⟨value, span⟩ := token
  obtain ⟨otherValue, otherSpan⟩ := other
  rcases alike with same | ⟨isRun, otherIsRun⟩
  -- The same token in another place.
  · simp only at same
    subst same
    cases state <;> cases value <;> first | rfl | cases refused
  · obtain ⟨run, rfl⟩ := Token.exists_run isRun
    obtain ⟨longer, rfl⟩ := Token.exists_run otherIsRun
    cases state <;> first | rfl | cases refused

end State

/-- Some template starts with the text. -/
def Extendable (text : String) : Prop := ∃ more tree, parseTree (text ++ more) = .ok tree

/-- A text can be extended to a template if the reader gets through its tokens. -/
theorem extendable_of_steps {tokens : List (Located Token)} {state : State}
    (settled : Token.Settled (tokens.map Located.value))
    (reached : State.start.steps tokens = some state) :
    Extendable (String.ofList (Token.spell (tokens.map Located.value))) := by
  -- The completion of the state is written behind the tokens, and the tokens stay as they are.
  have between : ∀ left ∈ (tokens.map Located.value).getLast?, ∀ right ∈ state.completion.head?,
      left.Apart right := by
    intro left last right first
    -- Without a token nothing stands before the completion.
    rcases List.eq_nil_or_concat tokens with rfl | ⟨before, token, rfl⟩
    · simp at last
    · rw [List.concat_eq_append, State.steps_concat] at reached
      obtain ⟨earlier, -, stepped⟩ := reached
      have final : token.value = left := by simpa using last
      exact final ▸ State.apart_completion stepped right first
  have whole := settled.append state.settled_completion between
  refine ⟨String.ofList (Token.spell state.completion), (parseTree_ok_iff _).mpr ?_⟩
  rw [← String.ofList_append, ← Token.spell_append, Token.cut_ofList_spell whole]
  exact (State.start.append_mem_rest tokens _).mpr ⟨state, reached, state.completion_mem_rest⟩

/-- No template starts with tokens of which the last is refused. -/
theorem not_extendable_of_step_eq_none {before : List (Located Token)} {token : Located Token}
    {state : State} (settled : Token.Settled (before.map Located.value ++ [token.value]))
    (reached : State.start.steps before = some state) (refused : state.step token = none) :
    ¬ Extendable (String.ofList (Token.spell (before.map Located.value ++ [token.value]))) := by
  rintro ⟨more, tree, accepted⟩
  -- However the text goes on, the last token stays in its place, or it becomes a longer run.
  obtain ⟨last, others, cut, alike⟩ := Token.scan_spell_concat settled more.toList
  have derived := (parseTree_ok_iff _).mp ⟨tree, accepted⟩
  rw [Token.cut_eq, String.toList_append, String.toList_ofList, cut] at derived
  obtain ⟨next, read, follows⟩ := (State.start.append_mem_rest before _).mp derived
  rw [reached, Option.some.injEq] at read
  subst next
  -- The reader takes that token, although it refuses the one in the text.
  obtain ⟨next, stepped, -⟩ := (state.cons_mem_rest ⟨last, token.span⟩ others).mp follows
  rw [State.step_eq_none_of_alike alike refused] at stepped
  exact absurd stepped (by simp)

end TypedRoutes

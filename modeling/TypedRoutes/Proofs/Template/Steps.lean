import TypedRoutes.Template.Parser

/-! The states that a reader goes through, token by token. -/

namespace TypedRoutes

namespace State

/-- The state after some tokens, unless one of them cannot stand in its place. -/
def steps (state : State) (tokens : List (Located Token)) : Option State :=
  tokens.foldlM step state

/-- No tokens change no state. -/
@[simp] theorem steps_nil (state : State) : state.steps [] = some state := rfl

/-- The first token decides the state in which the others are read. -/
@[simp] theorem steps_cons (state : State) (token : Located Token) (rest : List (Located Token)) :
    state.steps (token :: rest) = (state.step token).bind fun next => next.steps rest := rfl

/-- Tokens behind others are read in the state that those lead to. -/
theorem steps_append (state : State) (first second : List (Located Token)) :
    state.steps (first ++ second) = (state.steps first).bind fun next => next.steps second :=
  -- Steps are a fold, which may fail at every token.
  List.foldlM_append

/-- Behind tokens that were taken, reading goes on in the state that they led to. -/
theorem run_append {size : Nat} {state next : State} {first : List (Located Token)}
    (read : state.steps first = some next) (rest : List (Located Token)) :
    state.run size (first ++ rest) = next.run size rest := by
  -- Reading takes the same steps, one token after the other.
  induction first generalizing state with
  | nil =>
    cases read
    rfl
  | cons token first ih =>
    rw [steps_cons] at read
    obtain ⟨middle, stepped, later⟩ := Option.bind_eq_some_iff.mp read
    rw [List.cons_append, run]
    simp only [stepped]
    exact ih later

/-- A last token is taken in the state behind those before it. -/
theorem steps_concat {state next : State} {before : List (Located Token)} {token : Located Token} :
    state.steps (before ++ [token]) = some next ↔
      ∃ middle, state.steps before = some middle ∧ middle.step token = some next := by
  -- The last token is a sequence of one behind the others.
  simp [steps_append, Option.bind_eq_some_iff]

/-- Where the reader gets through some tokens, it gets through the first of them. -/
theorem steps_take {state next : State} {tokens : List (Located Token)}
    (read : state.steps tokens = some next) (count : Nat) :
    ∃ middle, state.steps (tokens.take count) = some middle := by
  -- All tokens are the first ones and those behind.
  rw [← List.take_append_drop count tokens, steps_append] at read
  obtain ⟨middle, early, -⟩ := Option.bind_eq_some_iff.mp read
  exact ⟨middle, early⟩

/-- Where reading fails, the tokens before were read, and the next token or the end is refused. -/
theorem exists_of_run_error {size : Nat} {state : State} {tokens : List (Located Token)}
    {error : SyntaxError} (failed : state.run size tokens = .error error) :
    ∃ before after stopped, tokens = before ++ after ∧ state.steps before = some stopped ∧
      ((after = [] ∧ error = stopped.rejectEnd size) ∨
        ∃ token behind, after = token :: behind ∧ stopped.step token = none ∧
          error = stopped.rejectToken token) := by
  -- The tokens that were read are those before the one at which the run stops.
  induction tokens generalizing state with
  | nil =>
    -- Only the end is left, and the state refuses it.
    cases finished : state.finish? with
    | none =>
      simp only [run, finished, Except.error.injEq] at failed
      exact ⟨[], [], state, rfl, rfl, Or.inl ⟨rfl, failed.symm⟩⟩
    | some tree => simp [run, finished] at failed
  | cons token rest ih =>
    cases stepped : state.step token with
    | none =>
      simp only [run, stepped, Except.error.injEq] at failed
      exact ⟨[], token :: rest, state, rfl, rfl, Or.inr ⟨token, rest, rfl, stepped, failed.symm⟩⟩
    | some next =>
      -- The failure lies behind this token, which joins the tokens that were read.
      simp only [run, stepped] at failed
      obtain ⟨before, after, stopped, rfl, reached, refused⟩ := ih failed
      exact ⟨token :: before, after, stopped, rfl, by simp [stepped, reached], refused⟩

end State

end TypedRoutes

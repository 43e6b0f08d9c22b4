import Mathlib.Data.List.Forall2
import Mathlib.Data.List.TakeWhile

/-! Steps that may fail, and lists: items in their middle, items that are related one by one, and
functions that may fail. -/

namespace TypedRoutes

/-! Steps that may fail. -/

section

variable {α β ε δ : Type} {step : Except ε α}

/-- Two steps have a result if the first has one from which the second has one. -/
theorem bind_eq_ok_iff {next : α → Except ε β} {result : β} :
    step >>= next = .ok result ↔ ∃ value, step = .ok value ∧ next value = .ok result := by
  -- An error of the first step is the error of both.
  cases step <;> simp [bind, Except.bind]

/-- Wrapping errors neither makes nor loses a result. -/
theorem mapError_eq_ok_iff {wrap : ε → δ} {result : α} :
    step.mapError wrap = .ok result ↔ step = .ok result := by
  -- Results pass through as they are.
  cases step <;> simp [Except.mapError]

end

/-! Items in the middle. -/

/-- An item stands between those before it and those behind it. -/
theorem exists_split_of_getElem? {α : Type} {items : List α} {index : Nat} {item : α}
    (found : items[index]? = some item) :
    ∃ before after, items = before ++ item :: after ∧ before.length = index := by
  -- What is taken away before the index and what is dropped up to it are the two sides.
  obtain ⟨inside, rfl⟩ := List.getElem?_eq_some_iff.mp found
  refine ⟨items.take index, items.drop (index + 1), ?_, by simp; omega⟩
  rw [List.getElem_cons_drop, List.take_append_drop]

/-- An item of two lists side by side is in the first or in the second. -/
theorem append_eq_append_cons {α : Type} {front back before after : List α} {item : α}
    (same : front ++ back = before ++ item :: after) :
    (∃ rest, front = before ++ item :: rest) ∨
      ∃ rest, before = front ++ rest ∧ back = rest ++ item :: after := by
  -- Either the first list ends before the item, or it goes on at least as far as the item.
  rcases List.append_eq_append_iff.mp same with second | ⟨rest, split, whole⟩
  · exact Or.inr second
  · cases rest with
    -- Where the first list ends right before the item, the second one starts with it.
    | nil => exact Or.inr ⟨[], by simpa using split.symm, whole.symm⟩
    | cons head rest =>
      obtain ⟨rfl, -⟩ := List.cons.inj whole
      exact Or.inl ⟨rest, split⟩

/-- Lists end at the same place if each ends at the first item of some kind. -/
theorem append_inj_of_stop {α : Type} {stop : α → Prop} {first second rest other : List α}
    (free : ∀ c ∈ first, ¬ stop c) (clear : ∀ c ∈ second, ¬ stop c)
    (ends : ∀ c ∈ rest.head?, stop c) (stops : ∀ c ∈ other.head?, stop c)
    (same : first ++ rest = second ++ other) : first = second ∧ rest = other := by
  -- Both lists are followed until one of them ends.
  induction first generalizing second with
  | nil =>
    cases second with
    | nil => exact ⟨rfl, same⟩
    | cons d second =>
      -- The rest would start with an item that the other list goes on with.
      have begun : d ∈ rest.head? := by simp_all
      exact absurd (ends d begun) (clear d (by simp))
  | cons c first ih =>
    cases second with
    | nil =>
      rw [List.cons_append, List.nil_append] at same
      have begun : c ∈ other.head? := by simp [← same]
      exact absurd (stops c begun) (free c (by simp))
    | cons d second =>
      simp only [List.cons_append, List.cons.injEq] at same
      obtain ⟨rfl, tail⟩ := same
      have both := ih (fun d member => free d (by simp [member]))
        (fun d member => clear d (by simp [member])) tail
      exact ⟨congrArg _ both.1, both.2⟩

/-- What stands behind an item of another kind belongs to no run in front of it. -/
theorem takeWhile_append_stop {α : Type} {belongs : α → Bool} (items : List α) {rest : List α}
    (stop : ∀ item ∈ rest.head?, belongs item = false) :
    (items ++ rest).takeWhile belongs = items.takeWhile belongs := by
  -- The run ends among the items, or at the first one behind them.
  induction items with
  | nil =>
    cases rest with
    | nil => rfl
    | cons next rest => simp [stop next rfl]
  | cons head items ih => rw [List.cons_append, List.takeWhile_cons, List.takeWhile_cons, ih]

/-- A run of items of some kind ends where an item of another kind follows. -/
theorem takeWhile_append_of_stop {α : Type} {belongs : α → Bool} {run rest : List α}
    (inside : ∀ item ∈ run, belongs item = true)
    (stop : ∀ item ∈ rest.head?, belongs item = false) :
    (run ++ rest).takeWhile belongs = run ∧ (run ++ rest).dropWhile belongs = rest := by
  -- Nothing ends the run inside, and the first item behind it does.
  rw [List.takeWhile_append_of_pos inside, List.dropWhile_append_of_pos inside]
  cases rest with
  | nil => simp
  | cons next rest => simp [stop next rfl]

/-- A run ends right in front of an item of another kind. -/
theorem takeWhile_run {α : Type} (belongs : α → Bool) {run : List α}
    (inside : ∀ item ∈ run, belongs item = true) {next : α} (stop : belongs next = false)
    (rest : List α) :
    (run ++ next :: rest).takeWhile belongs = run ∧
      (run ++ next :: rest).dropWhile belongs = next :: rest :=
  takeWhile_append_of_stop inside (by simpa using stop)

/-- What follows the longest run of some kind is of another kind. -/
theorem head?_dropWhile {α : Type} (belongs : α → Bool) (items : List α) :
    ∀ item ∈ (items.dropWhile belongs).head?, belongs item = false := by
  -- An item of that kind would have been dropped as well.
  intro item first
  have stops := List.head?_dropWhile_not belongs items
  rwa [Option.mem_def.mp first] at stops

/-- Changing the item behind so many others changes none of those around it. -/
theorem modify_middle {α : Type} (change : α → α) (front : List α) (item : α) (back : List α) :
    (front ++ item :: back).modify front.length change = front ++ change item :: back := by
  -- The induction takes away the items in front, one for each step of the index.
  induction front with
  | nil => rfl
  | cons head front ih => simp [ih]

/-- What is related in order in a sorted list is related wherever the items are in order. -/
theorem rel_of_pairwise_lt {α : Type} [Preorder α] {related : α → α → Prop} {items : List α}
    (sorted : items.Pairwise (· < ·)) (each : items.Pairwise related) {first second : α}
    (member : first ∈ items) (member' : second ∈ items) (less : first < second) :
    related first second := by
  -- The induction takes away the least item until one of the two is reached.
  induction items with
  | nil => cases member
  | cons head items ih =>
    obtain ⟨least, later⟩ := List.pairwise_cons.mp sorted
    obtain ⟨front, behind⟩ := List.pairwise_cons.mp each
    rcases List.mem_cons.mp member with rfl | inside <;>
      rcases List.mem_cons.mp member' with rfl | inside'
    · exact absurd less (lt_irrefl _)
    · exact front second inside'
    -- Nothing behind the head is smaller than it.
    · exact absurd less (lt_asymm (least first inside))
    · exact ih later behind inside inside'

/-! Items that are related one by one. -/

/-- In lists that are related item by item, every item has one to which it is related. -/
theorem exists_of_forall₂ {α β : Type} {related : α → β → Prop} {items : List α} {others : List β}
    (both : List.Forall₂ related items others) {item : α} (member : item ∈ items) :
    ∃ other ∈ others, related item other := by
  -- The partner of an item stands at the same place of the other list.
  induction both with
  | nil => cases member
  | cons first _ ih =>
    rcases List.mem_cons.mp member with rfl | later
    · exact ⟨_, by simp, first⟩
    · obtain ⟨other, inside, second⟩ := ih later
      exact ⟨other, by simp [inside], second⟩

/-- What is related to a list with an item in its middle is split as the list is. -/
theorem exists_split_of_forall₂ {α β : Type} {related : α → β → Prop} {front back : List α}
    {item : α} {others : List β} (both : List.Forall₂ related (front ++ item :: back) others) :
    ∃ before other after, others = before ++ other :: after ∧ List.Forall₂ related front before ∧
      related item other ∧ List.Forall₂ related back after := by
  -- The induction goes along the part in front, for which there is one partner after the other.
  induction front generalizing others with
  | nil =>
    obtain ⟨other, after, same, rest, rfl⟩ := List.forall₂_cons_left_iff.mp both
    exact ⟨[], other, after, rfl, .nil, same, rest⟩
  | cons head front ih =>
    obtain ⟨first, others, same, rest, rfl⟩ := List.forall₂_cons_left_iff.mp both
    obtain ⟨before, other, after, rfl, begun, middle, ended⟩ := ih rest
    exact ⟨first :: before, other, after, rfl, .cons same begun, middle, ended⟩

/-- Where a function has a result for all, there is one for each. -/
theorem forall₂_of_mapM {α β ε : Type} {write : α → Except ε β} {items : List α} {results : List β}
    (written : items.mapM write = .ok results) :
    List.Forall₂ (fun item result => write item = .ok result) items results := by
  -- Each step of the function has a result, since one error would be the error of all.
  induction items generalizing results with
  | nil =>
    cases written
    exact .nil
  | cons item items ih =>
    rw [List.mapM_cons, bind_eq_ok_iff] at written
    obtain ⟨result, first, written⟩ := written
    obtain ⟨rest, behind, written⟩ := bind_eq_ok_iff.mp written
    cases written
    exact .cons first (ih behind)

/-- A function has a result for all items if it has one for each. -/
theorem exists_mapM_iff {α β ε : Type} {write : α → Except ε β} {items : List α} :
    (∃ results, items.mapM write = .ok results) ↔
      ∀ item ∈ items, ∃ result, write item = .ok result := by
  constructor
  · intro whole item member
    obtain ⟨results, written⟩ := whole
    obtain ⟨result, -, own⟩ := exists_of_forall₂ (forall₂_of_mapM written) member
    exact ⟨result, own⟩
  -- The induction puts the results together one by one.
  · intro each
    induction items with
    | nil => exact ⟨[], rfl⟩
    | cons item items ih =>
      obtain ⟨result, first⟩ := each item (by simp)
      obtain ⟨results, behind⟩ := ih fun other member => each other (by simp [member])
      refine ⟨result :: results, ?_⟩
      rw [List.mapM_cons, first]
      show items.mapM write >>= _ = _
      rw [behind]
      rfl

/-- The first item without a result decides the error. -/
theorem mapM_eq_error_iff {α β ε : Type} {write : α → Except ε β} {items : List α} {error : ε} :
    items.mapM write = .error error ↔ ∃ before item after, items = before ++ item :: after ∧
      (∀ other ∈ before, ∃ result, write other = .ok result) ∧ write item = .error error := by
  -- Items with a result are passed over one by one.
  induction items with
  | nil => simp [pure, Except.pure]
  | cons head items ih =>
    rw [List.mapM_cons]
    cases first : write head with
    -- The head has no result, so nothing behind it is looked at.
    | error fault =>
      constructor
      · intro failed
        cases failed
        exact ⟨[], head, items, rfl, by simp, first⟩
      · intro behind
        obtain ⟨before, item, after, split, each, failed⟩ := behind
        cases before with
        | nil =>
          obtain ⟨rfl, -⟩ := List.cons.inj split
          rw [first] at failed
          cases failed
          rfl
        | cons other before =>
          -- The head would have a result.
          obtain ⟨rfl, -⟩ := List.cons.inj split
          obtain ⟨result, own⟩ := each head (by simp)
          rw [first] at own
          cases own
    -- The head has a result, so the error is that of the others.
    | ok result =>
      have step : (do let others ← items.mapM write; pure (result :: others) : Except ε (List β)) =
          .error error ↔ items.mapM write = .error error := by
        cases items.mapM write <;> simp [bind, Except.bind, pure, Except.pure]
      refine step.trans (ih.trans ?_)
      constructor
      · intro behind
        obtain ⟨before, item, after, rfl, each, failed⟩ := behind
        refine ⟨head :: before, item, after, rfl, ?_, failed⟩
        simpa using ⟨⟨result, first⟩, each⟩
      · intro whole
        obtain ⟨before, item, after, split, each, failed⟩ := whole
        cases before with
        | nil =>
          obtain ⟨rfl, -⟩ := List.cons.inj split
          rw [first] at failed
          cases failed
        | cons other before =>
          exact ⟨before, item, after, (List.cons.inj split).2,
            fun another member => each another (by simp [member]), failed⟩

/-- Each result comes from the item in its place. -/
theorem getElem?_of_mapM {α β ε : Type} {write : α → Except ε β} {items : List α}
    {results : List β} (written : items.mapM write = .ok results) (place : Nat) :
    items[place]?.map write = results[place]?.map Except.ok := by
  have each := forall₂_of_mapM written
  -- Only what is related one by one goes into the induction.
  clear written
  induction each generalizing place with
  | nil => rfl
  | cons first _ ih =>
    cases place with
    | zero => simp [first]
    | succ place => simpa using ih place

end TypedRoutes

import TypedRoutes.Proofs.Template.Places

/-! Of several wrong tags and names in a template, the leftmost one is reported, unless it is a
repeated name of the query in front of an unknown tag. -/

namespace TypedRoutes

open Entry

/-- The errors about a tag or a name. -/
def TemplateError.OfWord : TemplateError → Prop
  | unknownType _ _ | invalidName _ _ | repeatedName _ _ _ => True
  | noPath | malformed _ => False

/-- A tag or a name that is wrong, behind the entries before it. -/
inductive Offends (before : List Entry) (entry : Entry) : Located String → Prop where
  /-- The tag names no type. -/
  | tag (unknown : ¬ IsTag entry.declaration.typeTag.value) :
    Offends before entry entry.declaration.typeTag
  /-- The name is no identifier. -/
  | name (improper : ¬ IsName entry.declaration.name.value) :
    Offends before entry entry.declaration.name
  /-- The name was declared before. -/
  | again (repeated : entry.declaration.name.value ∈ words before) :
    Offends before entry entry.declaration.name

/-- A wrong tag or name anywhere in a tree. -/
def TemplateTree.Offending (tree : TemplateTree) (word : Located String) : Prop :=
  ∃ before entry after, tree.entries = before ++ entry :: after ∧ Offends before entry word

/-- A repeated name of the query that is not reported, because the tag behind it is unknown. -/
inductive PassedOver (tree : TemplateTree) : TemplateError → Located String → Prop where
  | name (before after : List Entry) (declaration : Declaration)
    (split : tree.entries = before ++ ⟨.query, declaration⟩ :: after)
    (proper : IsName declaration.name.value)
    (repeated : declaration.name.value ∈ words before)
    (unknown : ¬ IsTag declaration.typeTag.value) :
    PassedOver tree
      (.unknownType declaration.typeTag.value declaration.typeTag.span.start) declaration.name

/-- A wrong tag or name is a fault of its declaration. -/
theorem Offends.faulty {before : List Entry} {entry : Entry} {word : Located String}
    (offends : Offends before entry word) : Faulty before entry := by
  -- The three kinds of offence are the three kinds of fault.
  cases offends with
  | tag unknown => exact Or.inl unknown
  | name improper => exact Or.inr (Or.inl improper)
  | again repeated => exact Or.inr (Or.inr repeated)

/-- Tag and name are the words of a declaration. -/
theorem Offends.mem_written {before : List Entry} {entry : Entry} {word : Located String}
    (offends : Offends before entry word) : word ∈ entry.written := by
  -- Both sources have both words, in one order or the other.
  obtain ⟨source, declaration⟩ := entry
  cases offends <;> cases source <;> simp [written]

/-- What is reported is a wrong tag or name. -/
theorem Reports.exists_offends {before : List Entry} {entry : Entry} {error : TemplateError}
    (reported : Reports before entry error) :
    ∃ word, Offends before entry word ∧ word.span.start = error.span.start := by
  -- An error starts where the tag or the name that it is about starts.
  cases reported with
  | pathType declaration tag => exact ⟨_, .tag tag, rfl⟩
  | pathName declaration tag name => exact ⟨_, .name name, rfl⟩
  | queryName declaration name => exact ⟨_, .name name, rfl⟩
  | queryType declaration name tag => exact ⟨_, .tag tag, rfl⟩
  | repeated _ first earlier later tag name split same unique =>
    have known : entry.declaration.name.value ∈ words before :=
      mem_words_iff.mpr ⟨first, by simp [split], same⟩
    exact ⟨_, .again known, rfl⟩

section

variable {tree : TemplateTree} {before after : List Entry} {entry : Entry}

/-- The two words of a declaration do not overlap, and the words of later declarations stand behind
them. -/
theorem Rising.of_split {size : Nat} (rising : Rising 0 (tree.entries.flatMap written) size)
    (split : tree.entries = before ++ entry :: after) :
    entry.written.Pairwise (fun left right => left.span.stop < right.span.start) ∧
      ∀ left ∈ entry.written, ∀ later ∈ after, ∀ right ∈ later.written,
        left.span.stop < right.span.start := by
  -- The words of the entries before are not needed.
  have apart := rising.apart
  rw [split, List.flatMap_append, List.flatMap_cons] at apart
  obtain ⟨own, -, behind⟩ := List.pairwise_append.mp (List.pairwise_append.mp apart).2.1
  refine ⟨own, fun left member later inside right among => ?_⟩
  exact behind left member right (List.mem_flatMap.mpr ⟨later, inside, among⟩)

/-- The first declaration with a fault decides which wrong word is leftmost. -/
theorem FirstFault.offending_cases (first : FirstFault tree.entries before entry)
    {word : Located String} (offending : tree.Offending word) :
    Offends before entry word ∨ ∃ between later after other,
      tree.entries = before ++ entry :: (between ++ later :: after) ∧ Offends other later word := by
  obtain ⟨front, other, back, split, offends⟩ := offending
  obtain ⟨after, whole⟩ := first.split
  rcases append_eq_append_cons (whole.symm.trans split) with ⟨rest, early⟩ | ⟨rest, front, late⟩
  -- Before the first fault there is none.
  · exact absurd offends.faulty (by simpa using first.sound _ _ _ early)
  -- Otherwise the word belongs to the faulty entry itself or to one behind it.
  · cases rest with
    | nil =>
      cases late
      exact Or.inl (by simpa [front] using offends)
    | cons head rest =>
      cases late
      exact Or.inr ⟨rest, other, back, _, whole, offends⟩

/-- No wrong word of the reported declaration stands before the reported one, unless it is passed
over. -/
theorem Reports.le_or_passedOver {error : TemplateError} {word : Located String}
    (reported : Reports before entry error) (split : tree.entries = before ++ entry :: after)
    (apart : entry.written.Pairwise fun left right => left.span.stop < right.span.start)
    (forward : ∀ word ∈ entry.written, word.span.start ≤ word.span.stop)
    (offends : Offends before entry word) :
    error.span.start ≤ word.span.start ∨ PassedOver tree error word := by
  -- Which of two wrong words comes first depends on the source, and so does the order of the
  -- checks.
  cases reported with
  -- The tag comes first in the path, and the name behind it.
  | pathType declaration tag =>
    simp only [written, List.pairwise_pair, List.mem_cons, List.not_mem_nil, or_false,
      forall_eq_or_imp, forall_eq] at apart forward
    have bounds : declaration.typeTag.span.start ≤ declaration.name.span.start := by omega
    cases offends with
    | tag => exact Or.inl (Nat.le_refl _)
    | name | again => exact Or.inl bounds
  | pathName declaration tag name =>
    cases offends with
    | tag unknown => exact absurd tag unknown
    | name | again => exact Or.inl (Nat.le_refl _)
  -- The name comes first in the query.
  | queryName declaration name =>
    simp only [written, List.pairwise_pair, List.mem_cons, List.not_mem_nil, or_false,
      forall_eq_or_imp, forall_eq] at apart forward
    have bounds : declaration.name.span.start ≤ declaration.typeTag.span.start := by omega
    cases offends with
    | tag => exact Or.inl bounds
    | name | again => exact Or.inl (Nat.le_refl _)
  -- Only a repeated name is left, whose turn comes after that of the tag.
  | queryType declaration name tag =>
    cases offends with
    | tag => exact Or.inl (Nat.le_refl _)
    | name improper => exact absurd name improper
    | again repeated => exact Or.inr (.name before after declaration split name repeated tag)
  | repeated _ original earlier later tag name =>
    cases offends with
    | tag unknown => exact absurd tag unknown
    | name | again => exact Or.inl (Nat.le_refl _)

end

/-- Words that are placed where they are written start before they stop. -/
theorem TemplateTree.ExactIn.start_le_stop {tree : TemplateTree} {text : String}
    (exact : tree.ExactIn text) (entry : Entry) (member : entry ∈ tree.entries) :
    ∀ word ∈ entry.written, word.span.start ≤ word.span.stop := by
  -- A covered word is as long as its text.
  obtain ⟨tag, name⟩ := exact.covers_entry member
  have sizes := And.intro tag.stop_eq name.stop_eq
  obtain ⟨source, declaration⟩ := entry
  cases source with
  | path | query =>
    simp only [written, List.mem_cons, List.not_mem_nil, or_false, forall_eq_or_imp, forall_eq]
    dsimp only at sizes
    omega

/-- An error about a tag or a name is reported at a wrong one. The wrong ones that start before it
are repeated names of the query in front of the unknown tag that is reported. -/
theorem parseParams_leftmost {template : String} {error : TemplateError}
    (failed : parseParams template = .error error) (worded : error.OfWord) :
    ∃ tree, parseTree template = .ok tree ∧
      (∃ word, tree.Offending word ∧ word.span.start = error.span.start) ∧
      ∀ word, (tree.Offending word ∧ word.span.start < error.span.start) ↔
        PassedOver tree error word := by
  -- Errors about words are those of a tree.
  obtain ⟨tree, read, refused⟩ : ∃ tree, parseTree template = .ok tree ∧
      tree.resolve = .error error := by
    rcases parseParams_error_cases failed with rfl | ⟨cause, -, rfl⟩ | refused
    · exact absurd worded id
    · exact absurd worded id
    · exact refused
  obtain ⟨plain, -, rfl, rfl⟩ := parseTree_eq_ok_iff.mp read
  -- All places are those of the written tree.
  have rising := plain.rising_source
  have exact := plain.exactIn_source
  obtain ⟨before, entry, first, reported⟩ := TemplateTree.firstFault_of_resolve refused
  obtain ⟨after, split⟩ := first.split
  obtain ⟨culprit, offends, start⟩ := reported.exists_offends
  refine ⟨plain.place, read, ⟨culprit, ⟨before, entry, after, split, offends⟩, start⟩, ?_⟩
  intro word
  constructor
  · rintro ⟨offending, early⟩
    rcases first.offending_cases offending with own | ⟨between, later, rest, other, whole, behind⟩
    · obtain ⟨apart, -⟩ := rising.of_split split
      have forward := exact.start_le_stop entry (by simp [split])
      rcases reported.le_or_passedOver split apart forward own with late | passed
      · omega
      · exact passed
    -- The words of later declarations start behind the reported one.
    · obtain ⟨-, apart⟩ := rising.of_split whole
      have late := apart culprit offends.mem_written later (by simp) word behind.mem_written
      have forward := exact.start_le_stop entry (by simp [split]) culprit
        offends.mem_written
      omega
  · rintro ⟨front, back, declaration, whole, proper, repeated, unknown⟩
    refine ⟨⟨front, _, back, whole, .again repeated⟩, ?_⟩
    -- In the query the name stands before its tag.
    obtain ⟨apart, -⟩ := rising.of_split whole
    have forward := exact.start_le_stop ⟨.query, declaration⟩ (by simp [whole])
    simp only [written, List.pairwise_pair, List.mem_cons, List.not_mem_nil, or_false,
      forall_eq_or_imp, forall_eq] at apart forward
    show declaration.name.span.start < declaration.typeTag.span.start
    omega

/-- Both declarations are wrong, and the tag in the path is the leftmost of the wrong words. -/
theorem parseParams_leftmost_tag :
    parseParams "/é\x7bfoo:n\x7d?9=\x7bbar\x7d" = .error (.unknownType "foo" 4) ∧
      (TemplateError.unknownType "foo" 4).OfWord ∧
      ∃ tree, parseTree "/é\x7bfoo:n\x7d?9=\x7bbar\x7d" = .ok tree ∧
        (∃ word, tree.Offending word ∧
          word.span.start = (TemplateError.unknownType "foo" 4).span.start) ∧
        ∀ word, (tree.Offending word ∧
            word.span.start < (TemplateError.unknownType "foo" 4).span.start) ↔
          PassedOver tree (.unknownType "foo" 4) word := by
  have failed : parseParams "/é\x7bfoo:n\x7d?9=\x7bbar\x7d" = .error (.unknownType "foo" 4) := by
    rfl
  exact ⟨failed, trivial, parseParams_leftmost failed trivial⟩

/-- A number in the path, and a name of the same spelling in the query with a tag of no type. -/
def repeatedTree : PlainTree :=
  ⟨[[.placeholder ⟨"int", "n", none⟩]], some [⟨"foo", "n", none⟩]⟩

/-- The repeated name in the query stands before the tag that is reported. -/
theorem parseParams_passes_over :
    parseParams "/\x7bint:n\x7d?n=\x7bfoo\x7d" = .error (.unknownType "foo" 12) ∧
      parseTree "/\x7bint:n\x7d?n=\x7bfoo\x7d" = .ok repeatedTree.place ∧
      repeatedTree.place.Offending ⟨"n", ⟨9, 10⟩⟩ ∧
      (Span.mk 9 10).start < (TemplateError.unknownType "foo" 12).span.start := by
  -- The name in the query is declared behind that of the path.
  have again : Offends [⟨.path, ⟨⟨"int", ⟨2, 5⟩⟩, ⟨"n", ⟨6, 7⟩⟩, none⟩⟩]
      ⟨.query, ⟨⟨"foo", ⟨12, 15⟩⟩, ⟨"n", ⟨9, 10⟩⟩, none⟩⟩ ⟨"n", ⟨9, 10⟩⟩ := .again (by decide)
  exact ⟨by rfl, by rfl, ⟨_, _, [], by rfl, again⟩, by decide⟩

end TypedRoutes

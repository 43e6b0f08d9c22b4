import TypedRoutes.Proofs.Template.Concatenation
import TypedRoutes.RegistrationPath

/-! Parameters and registration paths of two templates side by side: those of both, unless a name
is declared in both. -/

namespace TypedRoutes

open Entry

/-! What a declaration declares does not depend on where it stands. -/

/-- Moved entries are well declared as before. -/
theorem wellDeclared_shift {entries : List Entry} (declared : WellDeclared entries)
    (distance : Nat) : WellDeclared (entries.map (Entry.shift distance)) := by
  -- Types and names are texts, which are not moved.
  refine ⟨?_, ?_, ?_⟩
  · intro entry member
    obtain ⟨original, inside, rfl⟩ := List.mem_map.mp member
    exact declared.tags original inside
  · intro entry member
    obtain ⟨original, inside, rfl⟩ := List.mem_map.mp member
    exact declared.proper original inside
  · rw [words_shift]
    exact declared.distinct

/-- Moved entries are copied to the same parameters. -/
theorem copied_shift {entries : List Entry} {params : List Param}
    (copied : List.Forall₂ Copied entries params) (distance : Nat) :
    List.Forall₂ Copied (entries.map (Entry.shift distance)) params := by
  rw [List.forall₂_map_left_iff]
  apply copied.imp
  intro entry param copy
  -- The default loses its place, so the move does not show.
  have default : param.default = (entry.shift distance).declaration.default.map Located.value := by
    rw [copy.default]
    cases shape : entry.declaration.default <;>
      simp [Entry.shift, Declaration.shift, shape, Located.shift]
  exact ⟨copy.name, copy.source, copy.type, default⟩

/-- Entries that are well declared apart are so side by side, if they share no name. -/
theorem wellDeclared_append {first second : List Entry} (front : WellDeclared first)
    (back : WellDeclared second) (apart : ∀ word ∈ words second, word ∉ words first) :
    WellDeclared (first ++ second) := by
  -- Behind the first entries, the second ones have no fault if their names are new.
  rw [← sound_nil_iff, sound_append, sound_nil_iff, List.nil_append, sound_iff]
  exact ⟨front, back, apart⟩

/-- The first entry whose name is one of some others. -/
theorem exists_first_shared {entries : List Entry} {others : List String}
    (shared : ∃ word ∈ words entries, word ∈ others) :
    ∃ before entry after, entries = before ++ entry :: after ∧
      entry.declaration.name.value ∈ others ∧ ∀ word ∈ words before, word ∉ others := by
  -- The search goes from the left and stops at the first name that is known.
  let known (entry : Entry) : Bool := entry.declaration.name.value ∈ others
  have found : (entries.find? known).isSome := by
    obtain ⟨word, member, inside⟩ := shared
    obtain ⟨entry, present, rfl⟩ := mem_words_iff.mp member
    exact List.find?_isSome.mpr ⟨entry, present, by simpa [known] using inside⟩
  obtain ⟨entry, located⟩ := Option.isSome_iff_exists.mp found
  obtain ⟨repeated, before, after, split, fresh⟩ := List.find?_eq_some_iff_append.mp located
  refine ⟨before, entry, after, split, by simpa [known] using repeated, ?_⟩
  -- None of the entries that were passed over has such a name.
  intro word member
  obtain ⟨earlier, present, rfl⟩ := mem_words_iff.mp member
  simpa [known] using fresh earlier present

/-- Where the two parts of a list share a name, the first of the second part that does is at fault,
and it is reported with the one entry of the first part that has the name. -/
theorem exists_firstFault_of_shared {first second : List Entry} (front : WellDeclared first)
    (back : WellDeclared second) (shared : ∃ word ∈ words second, word ∈ words first) :
    ∃ original ∈ first, ∃ before again after, second = before ++ again :: after ∧
      original.declaration.name.value = again.declaration.name.value ∧
      (∀ word ∈ words before, word ∉ words first) ∧
      FirstFault (first ++ second) (first ++ before) again ∧
      Reports (first ++ before) again (.repeatedName again.declaration.name.value
        original.declaration.name.span again.declaration.name.span) := by
  -- The entries up to the repetition are well declared together, and the repetition is the first
  -- that is not new.
  obtain ⟨before, again, after, split, repeated, fresh⟩ := exists_first_shared shared
  obtain ⟨earlier, original, later, joined, same, once⟩ :=
    exists_only_entry front.distinct repeated
  -- The second part has no fault of its own, so the name is new to the entries before it there.
  obtain ⟨calm, behind⟩ := sound_append.mp (sound_nil_iff.mpr (split ▸ back))
  have new : again.declaration.name.value ∉ words before := by
    have quiet := (sound_cons.mp behind).1
    simp only [Faulty, not_or, not_not, List.nil_append] at quiet
    exact quiet.2.2
  have present : again ∈ second := by simp [split]
  refine ⟨original, by simp [joined], before, again, after, split, same, fresh,
    ⟨⟨after, ?_⟩, ?_, ?_⟩, ?_⟩
  -- Everything before the repetition is fine, and the repetition is not.
  · rw [split, List.append_assoc]
  · exact sound_nil_iff.mpr (wellDeclared_append front (sound_nil_iff.mp calm) fresh)
  · refine Or.inr (Or.inr ?_)
    rw [words_append]
    exact List.mem_append_left _ repeated
  -- The name is declared once before it, where the first part declares it.
  · apply Reports.repeated again original earlier (later ++ before) (back.tags again present)
      (back.proper again present)
    · rw [joined, List.append_assoc, List.cons_append]
    · exact same
    · simp only [words_append, List.mem_append, not_or] at once ⊢
      exact ⟨once.1, once.2, new⟩

/-! Registration paths. -/

/-- The path of a template is that of its tree, if the tree has parameters. -/
theorem registrationPath_of_resolve {template : String} {tree : TemplateTree} {params : ParamList}
    (read : parseTree template = .ok tree) (resolved : tree.resolve = .ok params)
    (options : PathOptions) :
    registrationPath template options = .ok (tree.registrationPath template options) := by
  -- The template is read and its parameters are checked before the path is written.
  simp [registrationPath, read, resolved, bind, Except.bind, pure, Except.pure]

namespace TemplateTree

/-- The segments of both trees are written side by side. -/
theorem barePath_append (tree other : TemplateTree) (style : PlaceholderForm) :
    (tree.append other).barePath style = tree.barePath style ++ other.barePath style := by
  -- The path of a tree is that of its segments, one after the other.
  apply String.toList_inj.mp
  simp [barePath, append]

/-- A path shows no places. -/
theorem barePath_shift (distance : Nat) (tree : TemplateTree) (style : PlaceholderForm) :
    (tree.shift distance).barePath style = tree.barePath style := by
  -- A part is registered by its text or its name.
  have part (part : SegmentPart) :
      (part.shift distance).registered style = part.registered style := by
    cases part <;> rfl
  simp [barePath, shift, shiftSegment, Located.shift, Function.comp_def, part]

/-- The paths stand side by side as the templates do, and the query is that of the second. -/
theorem registrationPath_append (tree other : TemplateTree) (first second : String)
    (options : PathOptions) :
    (tree.append (other.shift (byteSize first.toList))).registrationPath (first ++ second) options =
      tree.registrationPath first ⟨options.style, .strip⟩ ++
        other.registrationPath second options := by
  have bare := tree.barePath_append (other.shift (byteSize first.toList)) options.style
  rw [barePath_shift] at bare
  have query : (tree.append (other.shift (byteSize first.toList))).query =
      (other.shift (byteSize first.toList)).query := rfl
  unfold registrationPath
  rw [bare, query]
  -- Only a query that is kept is cut out of the text, and it moves with the text.
  cases options.query with
  | strip => rfl
  | keep =>
    cases present : other.query with
    | none => simp [shift, present]
    | some declarations =>
      simp [shift, present, Located.shift, Span.slice_shift, String.append_assoc]

end TemplateTree

/-! Parameters. -/

namespace TemplateTree

variable {tree other : TemplateTree} {params others : ParamList}

/-- Trees that share no name have the parameters of both. -/
theorem resolve_append (bare : tree.query = none) (resolved : tree.resolve = .ok params)
    (solved : other.resolve = .ok others) (distance : Nat)
    (apart : ∀ word ∈ words other.entries, word ∉ words tree.entries) :
    (tree.append (other.shift distance)).resolve =
      .ok ⟨params.path ++ others.path, others.query⟩ := by
  -- Both trees are well declared, and their entries are copied to the parameters.
  obtain ⟨declared, path, -⟩ := copied_of_resolve resolved
  obtain ⟨proper, otherPath, otherQuery⟩ := copied_of_resolve solved
  have joined : WellDeclared (tree.append (other.shift distance)).entries := by
    rw [entries_append bare, entries_shift]
    exact wellDeclared_append declared (wellDeclared_shift proper distance) (by simpa using apart)
  -- The path is that of both trees, and the query that of the second.
  apply resolve_of_copied joined
  · rw [pathEntries_append, pathEntries_shift]
    exact List.rel_append path (copied_shift otherPath distance)
  · rw [queryEntries_append, queryEntries_shift]
    exact copied_shift otherQuery distance

/-- Trees that share a name have no parameters: the first declaration of the second tree with a name
of the first is reported in its new place. -/
theorem resolve_append_of_shared (bare : tree.query = none) (declared : WellDeclared tree.entries)
    (proper : WellDeclared other.entries) (distance : Nat)
    (shared : ∃ word ∈ words other.entries, word ∈ words tree.entries) :
    ∃ original ∈ tree.entries, ∃ before again after,
      other.entries = before ++ again :: after ∧
      original.declaration.name.value = again.declaration.name.value ∧
      (∀ word ∈ words before, word ∉ words tree.entries) ∧
      (tree.append (other.shift distance)).resolve =
        .error (.repeatedName again.declaration.name.value original.declaration.name.span
          (again.declaration.name.span.shift distance)) := by
  have entries : (tree.append (other.shift distance)).entries =
      tree.entries ++ other.entries.map (Entry.shift distance) := by
    rw [entries_append bare, entries_shift]
  obtain ⟨original, member, before, again, after, split, same, fresh, fault, reported⟩ :=
    exists_firstFault_of_shared declared (wellDeclared_shift proper distance)
      (by simpa using shared)
  -- The entries before the repetition, and the repetition, are moved entries of the second tree.
  obtain ⟨early, late, order, rfl, rest⟩ := List.map_eq_append_iff.mp split
  obtain ⟨entry, behind, rfl, rfl, -⟩ := List.map_eq_cons_iff.mp rest
  rw [words_shift] at fresh
  rw [← entries] at fault
  exact ⟨original, member, early, entry, behind, order, same, fresh,
    resolve_of_firstFault fault reported⟩

end TemplateTree

/-- An accepted template behind an accepted one without a query: if they share no name, the whole is
accepted, with the parameters of both in order and with both registration paths side by side; and if
they share one, the first declaration of the second template that repeats a name of the first is
reported, in its new place, with the declaration that it repeats. -/
theorem parseParams_append {first second : String} {tree other : TemplateTree}
    {params others : ParamList} (accepted : parseParams first = .ok params)
    (read : parseTree first = .ok tree) (bare : tree.query = none)
    (admitted : parseParams second = .ok others) (found : parseTree second = .ok other) :
    ((∀ name ∈ others.all.map Param.name, name ∉ params.all.map Param.name) →
      parseParams (first ++ second) = .ok ⟨params.path ++ others.path, others.query⟩ ∧
      ∀ options : PathOptions, ∃ front back,
        registrationPath first ⟨options.style, .strip⟩ = .ok front ∧
        registrationPath second options = .ok back ∧
        registrationPath (first ++ second) options = .ok (front ++ back)) ∧
    ((∃ name ∈ others.all.map Param.name, name ∈ params.all.map Param.name) →
      ∃ original ∈ tree.entries, ∃ before again after,
        other.entries = before ++ again :: after ∧
        original.declaration.name.value = again.declaration.name.value ∧
        (∀ earlier ∈ before, earlier.declaration.name.value ∉ params.all.map Param.name) ∧
        parseParams (first ++ second) = .error (.repeatedName again.declaration.name.value
          original.declaration.name.span
          (again.declaration.name.span.shift (byteSize first.toList)))) := by
  have resolved := resolve_of_parseParams accepted read
  have solved := resolve_of_parseParams admitted found
  obtain ⟨declared, path, query⟩ := TemplateTree.copied_of_resolve resolved
  obtain ⟨proper, otherPath, otherQuery⟩ := TemplateTree.copied_of_resolve solved
  -- The names of the parameters are those of the entries.
  have own : params.all.map Param.name = words tree.entries :=
    names_of_copied (List.rel_append path query)
  have theirs : others.all.map Param.name = words other.entries :=
    names_of_copied (List.rel_append otherPath otherQuery)
  rw [own, theirs]
  let size := byteSize first.toList
  have whole : parseTree (first ++ second) = .ok (tree.append (other.shift size)) :=
    parseTree_append read bare found
  constructor
  -- With no name in common, parameters and paths stand side by side.
  · intro apart
    have both := TemplateTree.resolve_append bare resolved solved size apart
    refine ⟨parseParams_eq_ok_iff.mpr ⟨_, whole, both⟩, fun options => ?_⟩
    refine ⟨_, _, registrationPath_of_resolve read resolved _,
      registrationPath_of_resolve found solved _, ?_⟩
    rw [registrationPath_of_resolve whole both, TemplateTree.registrationPath_append]
  -- With a name in common, the error of the whole tree is that of the repetition.
  · intro shared
    obtain ⟨original, member, before, again, after, split, same, fresh, refused⟩ :=
      TemplateTree.resolve_append_of_shared bare declared proper size shared
    refine ⟨original, member, before, again, after, split, same, ?_, ?_⟩
    · intro earlier inside
      exact fresh _ (List.mem_map_of_mem (List.mem_map_of_mem inside))
    · unfold parseParams
      rw [whole]
      exact refused

/-- A path with a two-byte character and one name. -/
def itemTree : PlainTree :=
  ⟨[[.literal "é"], [.placeholder ⟨"int", "id", none⟩]], none⟩

/-- A template with a name in its path and another in its query. -/
def detailTree (name : String) : PlainTree :=
  ⟨[[.placeholder ⟨"long", "x", some "?"⟩]], some [⟨"string", name, none⟩]⟩

/-- The name in the query decides whether the two templates fit together. -/
theorem parseParams_append_items :
    (parseParams "/é/\x7bint:id\x7d" = .ok ⟨[⟨"id", .path, .int, none⟩], []⟩ ∧
      parseTree "/é/\x7bint:id\x7d" = .ok itemTree.place ∧ itemTree.place.query = none) ∧
    (parseParams "/\x7blong:x=?\x7d?q=\x7bstring\x7d" =
        .ok ⟨[⟨"x", .path, .long, some "?"⟩], [⟨"q", .query, .string, none⟩]⟩ ∧
      parseTree "/\x7blong:x=?\x7d?q=\x7bstring\x7d" = .ok (detailTree "q").place ∧
      parseParams ("/é/\x7bint:id\x7d" ++ "/\x7blong:x=?\x7d?q=\x7bstring\x7d") =
        .ok ⟨[⟨"id", .path, .int, none⟩, ⟨"x", .path, .long, some "?"⟩],
          [⟨"q", .query, .string, none⟩]⟩ ∧
      ∀ options : PathOptions, ∃ front back,
        registrationPath "/é/\x7bint:id\x7d" ⟨options.style, .strip⟩ = .ok front ∧
        registrationPath "/\x7blong:x=?\x7d?q=\x7bstring\x7d" options = .ok back ∧
        registrationPath ("/é/\x7bint:id\x7d" ++ "/\x7blong:x=?\x7d?q=\x7bstring\x7d") options =
          .ok (front ++ back)) ∧
    (parseParams "/\x7blong:x=?\x7d?id=\x7bstring\x7d" =
        .ok ⟨[⟨"x", .path, .long, some "?"⟩], [⟨"id", .query, .string, none⟩]⟩ ∧
      parseTree "/\x7blong:x=?\x7d?id=\x7bstring\x7d" = .ok (detailTree "id").place ∧
      ∃ original ∈ itemTree.place.entries, ∃ before again after,
        (detailTree "id").place.entries = before ++ again :: after ∧
        original.declaration.name.value = again.declaration.name.value ∧
        (∀ earlier ∈ before, earlier.declaration.name.value ∉ ["id"]) ∧
        parseParams ("/é/\x7bint:id\x7d" ++ "/\x7blong:x=?\x7d?id=\x7bstring\x7d") =
          .error (.repeatedName again.declaration.name.value original.declaration.name.span
            (again.declaration.name.span.shift 12))) := by
  -- What is read of the three templates is computed.
  have accepted : parseParams "/é/\x7bint:id\x7d" = .ok ⟨[⟨"id", .path, .int, none⟩], []⟩ := by rfl
  have read : parseTree "/é/\x7bint:id\x7d" = .ok itemTree.place := by rfl
  have bare : itemTree.place.query = none := by rfl
  have admitted : parseParams "/\x7blong:x=?\x7d?q=\x7bstring\x7d" =
      .ok ⟨[⟨"x", .path, .long, some "?"⟩], [⟨"q", .query, .string, none⟩]⟩ := by rfl
  have found : parseTree "/\x7blong:x=?\x7d?q=\x7bstring\x7d" = .ok (detailTree "q").place := by rfl
  have again : parseParams "/\x7blong:x=?\x7d?id=\x7bstring\x7d" =
      .ok ⟨[⟨"x", .path, .long, some "?"⟩], [⟨"id", .query, .string, none⟩]⟩ := by rfl
  have late : parseTree "/\x7blong:x=?\x7d?id=\x7bstring\x7d" = .ok (detailTree "id").place := by rfl
  have apart := (parseParams_append accepted read bare admitted found).1 (by decide)
  have shared := (parseParams_append accepted read bare again late).2 (by decide)
  exact ⟨⟨accepted, read, bare⟩, ⟨admitted, found, apart⟩, again, late, shared⟩

end TypedRoutes

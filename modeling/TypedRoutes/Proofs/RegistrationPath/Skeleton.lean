import TypedRoutes.Proofs.Param.Resolve
import TypedRoutes.Proofs.Template.RoundTrip
import TypedRoutes.Proofs.Text.Lines
import TypedRoutes.RegistrationPath

/-! The registration path of a template shows its literal texts and the names of its placeholders,
each in its place, and nothing else. -/

namespace TypedRoutes

/-- A part of a segment, as far as routing looks at it. -/
inductive RoutePart where
  /-- A run of literal text. -/
  | literal (text : String)
  /-- A placeholder of this name. -/
  | name (word : String)
  deriving DecidableEq

/-- The part without the type and the default of a placeholder. -/
def PlainPart.bare : PlainPart → RoutePart
  | literal text => .literal text
  | placeholder declaration => .name declaration.name

/-- The literal texts and placeholder names of a tree, segment by segment. -/
def TemplateTree.skeleton (tree : TemplateTree) : List (List RoutePart) :=
  tree.plain.segments.map fun parts => parts.map PlainPart.bare

/-- The texts between braces, from left to right, where braces are balanced and not nested; `inside`
holds the characters since an open brace, in reverse. -/
def bracedTexts? (inside : Option (List Char)) : List Char → Option (List String)
  | [] => if inside.isNone then some [] else none
  | c :: rest =>
    match inside with
    | none =>
      if c = '{' then bracedTexts? (some []) rest
      else if c = '}' then none
      else bracedTexts? none rest
    | some run =>
      if c = '}' then (bracedTexts? none rest).map (String.ofList run.reverse :: ·)
      else if c = '{' then none
      else bracedTexts? (some (c :: run)) rest

/-! How a skeleton is written. -/

namespace RoutePart

/-- The characters of a part. -/
def spell : RoutePart → List Char
  | literal text => text.toList
  | name word => '{' :: word.toList ++ ['}']

/-- The name of a placeholder. -/
def name? : RoutePart → Option String
  | literal _ => none
  | name word => some word

/-- Whether a part is literal text. -/
def isLiteral : RoutePart → Bool
  | literal _ => true
  | name _ => false

/-- Parts that keep their boundary when they are written side by side. -/
def Apart (left right : RoutePart) : Prop :=
  ¬ (left.isLiteral = true ∧ right.isLiteral = true)

/-- What a part holds: literal text keeps clear of slashes and braces, and names of braces. -/
def Clean : RoutePart → Prop
  | literal text => FilledWithout ['/', '{', '}'] text
  | name word => FilledWithout ['{', '}'] word

end RoutePart

/-- The characters of a segment with its slash. -/
def spellSegment (parts : List RoutePart) : List Char :=
  '/' :: parts.flatMap RoutePart.spell

/-- Segments that can be told apart when they are written. -/
structure Legible (segments : List (List RoutePart)) : Prop where
  /-- Every part is clean. -/
  clean : ∀ parts ∈ segments, ∀ part ∈ parts, part.Clean
  /-- Literal text is never split in two. -/
  apart : ∀ parts ∈ segments, parts.IsChain RoutePart.Apart

/-- How a part is registered, as far as routing looks at it. -/
def RoutePart.registered (style : PlaceholderForm) : RoutePart → String
  | literal text => text
  | name word => style.write word

/-- In any form, the path of a tree shows its skeleton only. -/
theorem TemplateTree.barePath_eq_skeleton (tree : TemplateTree) (style : PlaceholderForm) :
    tree.barePath style = String.join (tree.skeleton.map fun parts =>
      "/" ++ String.join (parts.map (RoutePart.registered style))) := by
  -- A part is registered by its text or its name, which the skeleton keeps.
  have part (part : SegmentPart) :
      part.plain.bare.registered style = part.registered style := by
    cases part <;> rfl
  simp [barePath, skeleton, plain, Function.comp_def, part]

/-- The path of a tree is its skeleton in writing. -/
theorem TemplateTree.barePath_toList (tree : TemplateTree) :
    (tree.barePath .braces).toList = tree.skeleton.flatMap spellSegment := by
  -- Each part is written as the skeleton spells it.
  have part (part : SegmentPart) :
      (part.registered .braces).toList = part.plain.bare.spell := by
    cases part <;>
      simp [SegmentPart.registered, PlaceholderForm.write, SegmentPart.plain, Declaration.plain,
        PlainPart.bare, RoutePart.spell]
  simp [barePath, skeleton, plain, List.flatMap_map, spellSegment, part, Function.comp_def]

/-- The names in the skeleton are those that the path declares. -/
theorem TemplateTree.names_skeleton (tree : TemplateTree) :
    tree.skeleton.flatMap (fun parts => parts.filterMap RoutePart.name?) =
      Entry.words tree.pathEntries := by
  -- A part has a name where it has a declaration.
  have part (part : SegmentPart) : part.plain.bare.name? =
      part.declaration?.map fun declaration => declaration.value.name.value := by
    cases part <;> rfl
  have names (parts : Segment) :
      (parts.map fun part => part.plain.bare).filterMap RoutePart.name? =
        (parts.filterMap SegmentPart.declaration?).map fun declaration =>
          declaration.value.name.value := by
    simp [List.filterMap_map, List.map_filterMap, part]
  simp [skeleton, plain, List.flatMap_map, Function.comp_def, names, Entry.words, Entry.names,
    pathEntries, pathDeclarations, List.map_flatMap]

/-- The skeleton of a template can be told apart from others. -/
theorem legible_skeleton {plain : PlainTree} (wellFormed : plain.WellFormed) :
    Legible plain.place.skeleton := by
  rw [TemplateTree.skeleton, PlainTree.plain_place]
  constructor
  · intro parts member part inside
    obtain ⟨written, segment, rfl⟩ := List.mem_map.mp member
    obtain ⟨before, present, rfl⟩ := List.mem_map.mp inside
    -- Fewer characters are forbidden here than in a template.
    have free := wellFormed.parts written segment before present
    cases before with
    | literal text => exact ⟨free.1, fun c found => by have := free.2 c found; simp_all⟩
    | placeholder declaration =>
      exact ⟨free.name.1, fun c found => by have := free.name.2 c found; simp_all⟩
  · intro parts member
    obtain ⟨written, segment, rfl⟩ := List.mem_map.mp member
    rw [List.isChain_map]
    -- A part is literal text in the skeleton where it is in the template.
    have same (part : PlainPart) : part.bare.isLiteral = part.isLiteral := by
      cases part <;> rfl
    apply (wellFormed.apart written segment).imp
    intro left right apart
    rwa [RoutePart.Apart, same, same]

/-! The names are read back from between the braces. -/

/-- Text without braces is passed over. -/
theorem bracedTexts?_literal {text : List Char} (free : ∀ c ∈ text, c ≠ '{' ∧ c ≠ '}')
    (rest : List Char) : bracedTexts? none (text ++ rest) = bracedTexts? none rest := by
  -- Outside braces every character that is no brace is dropped.
  induction text with
  | nil => rfl
  | cons c text ih =>
    have other := free c (by simp)
    rw [List.cons_append, bracedTexts?]
    simp only [other.1, other.2, if_false]
    exact ih fun d member => free d (by simp [member])

/-- Text without braces is gathered up to the closing brace. -/
theorem bracedTexts?_inside {word : List Char} (free : ∀ c ∈ word, c ≠ '{' ∧ c ≠ '}')
    (run rest : List Char) :
    bracedTexts? (some run) (word ++ '}' :: rest) =
      (bracedTexts? none rest).map (String.ofList (run.reverse ++ word) :: ·) := by
  -- Inside braces every such character is gathered.
  induction word generalizing run with
  | nil => simp [bracedTexts?]
  | cons c word ih =>
    have other := free c (by simp)
    rw [List.cons_append, bracedTexts?]
    simp only [other.1, other.2, if_false]
    rw [ih fun d member => free d (by simp [member])]
    simp

/-- A part gives the name that it has. -/
theorem bracedTexts?_part {part : RoutePart} (clean : part.Clean) (rest : List Char) :
    bracedTexts? none (part.spell ++ rest) =
      (bracedTexts? none rest).map (part.name?.toList ++ ·) := by
  -- Literal text has no braces, and a name has one pair around it.
  cases part with
  | literal text =>
    rw [RoutePart.spell, bracedTexts?_literal]
    · simp [RoutePart.name?]
    · intro c member
      have free := clean.2 c member
      simp_all
  | name word =>
    have free : ∀ c ∈ word.toList, c ≠ '{' ∧ c ≠ '}' := by
      intro c member
      have allowed := clean.2 c member
      simp_all
    have inside := bracedTexts?_inside free [] rest
    simpa [RoutePart.spell, RoutePart.name?, bracedTexts?] using inside

/-- Parts side by side give their names in order. -/
theorem bracedTexts?_parts {parts : List RoutePart} (clean : ∀ part ∈ parts, part.Clean)
    (rest : List Char) :
    bracedTexts? none (parts.flatMap RoutePart.spell ++ rest) =
      (bracedTexts? none rest).map (parts.filterMap RoutePart.name? ++ ·) := by
  -- From the last part to the first, each puts its name in front.
  induction parts with
  | nil => simp
  | cons part parts ih =>
    rw [List.flatMap_cons, List.append_assoc, bracedTexts?_part (clean part (by simp)),
      ih fun other member => clean other (by simp [member]), Option.map_map]
    cases part <;> simp [RoutePart.name?, Function.comp_def, List.filterMap_cons]

/-- Segments side by side give their names in order. -/
theorem bracedTexts?_segments {segments : List (List RoutePart)}
    (clean : ∀ parts ∈ segments, ∀ part ∈ parts, part.Clean) :
    bracedTexts? none (segments.flatMap spellSegment) =
      some (segments.flatMap fun parts => parts.filterMap RoutePart.name?) := by
  -- From the last segment to the first, as for the parts.
  induction segments with
  | nil => rfl
  | cons parts segments ih =>
    -- The slash is passed over, and the parts come before the other segments.
    have slash (rest : List Char) : bracedTexts? none ('/' :: rest) = bracedTexts? none rest := by
      simp [bracedTexts?]
    rw [List.flatMap_cons, spellSegment, List.cons_append, slash,
      bracedTexts?_parts (clean parts (by simp)), ih fun other member => clean other (by simp [member])]
    simp

/-- There are as many braces as texts between them. -/
theorem count_of_bracedTexts? {inside : Option (List Char)} {text : List Char}
    {texts : List String} (read : bracedTexts? inside text = some texts) :
    text.count '{' + inside.toList.length = texts.length ∧ text.count '}' = texts.length := by
  -- An open brace is counted when it is met, and its text when it is closed.
  induction text generalizing inside texts with
  | nil =>
    cases inside with
    | none =>
      cases read
      simp
    | some run => simp [bracedTexts?] at read
  | cons c rest ih =>
    cases inside with
    | none =>
      by_cases opened : c = '{'
      · subst opened
        have later : bracedTexts? (some []) rest = some texts := by
          simpa [bracedTexts?] using read
        simpa using ih later
      · by_cases closed : c = '}'
        · simp [bracedTexts?, closed] at read
        · have later : bracedTexts? none rest = some texts := by
            simpa [bracedTexts?, opened, closed] using read
          simpa [List.count_cons, opened, closed] using ih later
    | some run =>
      by_cases closed : c = '}'
      · subst closed
        simp only [bracedTexts?, if_true, Option.map_eq_some_iff] at read
        obtain ⟨others, later, rfl⟩ := read
        simpa using ih later
      · by_cases opened : c = '{'
        · simp [bracedTexts?, opened] at read
        · have later : bracedTexts? (some (c :: run)) rest = some texts := by
            simpa [bracedTexts?, opened, closed] using read
          simpa [List.count_cons, opened, closed] using ih later

/-! A skeleton is read off its writing. -/

/-- A part starts with a brace if it has a name, and never with a slash. -/
theorem exists_head_of_clean {part : RoutePart} (clean : part.Clean) :
    ∃ c rest, part.spell = c :: rest ∧ c ≠ '/' ∧ (part.isLiteral = true ↔ c ≠ '{') := by
  cases part with
  | literal text =>
    -- The text is not empty, and its characters are none of the three.
    cases shape : text.toList with
    | nil => exact absurd (String.toList_eq_nil_iff.mp shape) clean.1
    | cons c rest =>
      have free := clean.2 c (by simp [shape])
      simp only [List.mem_cons, List.not_mem_nil, or_false, not_or] at free
      exact ⟨c, rest, shape, free.1, by simp [RoutePart.isLiteral, free.2.1]⟩
  | name word => exact ⟨'{', word.toList ++ ['}'], rfl, by decide, by simp [RoutePart.isLiteral]⟩

/-- What follows literal text starts with the brace of a name or the slash of a segment. -/
theorem head_behind_literal {parts : List RoutePart} (clean : ∀ part ∈ parts, part.Clean)
    (named : ∀ part ∈ parts.head?, part.isLiteral = false) {rest : List Char}
    (ends : ∀ c ∈ rest.head?, c = '/') :
    ∀ c ∈ (parts.flatMap RoutePart.spell ++ rest).head?, c = '{' ∨ c = '/' := by
  -- Behind literal text there is a name, or the segment ends.
  intro c begun
  cases parts with
  | nil => exact Or.inr (ends c begun)
  | cons part parts =>
    obtain ⟨head, behind, spelled, -, literal⟩ := exists_head_of_clean (clean part (by simp))
    have name := named part (by simp)
    simp only [List.flatMap_cons, spelled, List.cons_append, List.head?_cons, Option.mem_def,
      Option.some.injEq] at begun
    simp only [name, Bool.false_eq_true, false_iff, not_not] at literal
    exact Or.inl (begun ▸ literal)

/-- Two parts are told apart, and so is what follows them. -/
theorem part_eq_of_spell {first second : RoutePart} (clean : first.Clean) (neat : second.Clean)
    {rest other : List Char}
    (ends : first.isLiteral = true → ∀ c ∈ rest.head?, c = '{' ∨ c = '/')
    (stops : second.isLiteral = true → ∀ c ∈ other.head?, c = '{' ∨ c = '/')
    (same : first.spell ++ rest = second.spell ++ other) : first = second ∧ rest = other := by
  -- A brace at the start tells names from literal text.
  have kind : first.isLiteral = true ↔ second.isLiteral = true := by
    obtain ⟨c, behind, spelled, -, literal⟩ := exists_head_of_clean clean
    obtain ⟨d, tail, written, -, plain⟩ := exists_head_of_clean neat
    rw [spelled, written, List.cons_append, List.cons_append, List.cons.injEq] at same
    rw [literal, plain, same.1]
  cases first with
  | literal text =>
    cases second with
    | name word => simp [RoutePart.isLiteral] at kind
    | literal twin =>
      -- Each text ends at the first slash or opening brace.
      have free {text : String} (clean : (RoutePart.literal text).Clean) :
          ∀ c ∈ text.toList, ¬ (c = '{' ∨ c = '/') := by
        intro c member
        have allowed := clean.2 c member
        simp_all
      obtain ⟨text, behind⟩ := append_inj_of_stop (free clean) (free neat) (ends rfl) (stops rfl) same
      exact ⟨congrArg _ (String.toList_inj.mp text), behind⟩
  | name word =>
    cases second with
    | literal twin => simp [RoutePart.isLiteral] at kind
    | name twin =>
      -- Each name ends at its closing brace.
      have free {word : String} (clean : (RoutePart.name word).Clean) :
          ∀ c ∈ word.toList, ¬ c = '}' := by
        intro c member
        have allowed := clean.2 c member
        simp_all
      simp only [RoutePart.spell, List.cons_append, List.append_assoc, List.cons.injEq,
        true_and] at same
      have closing (rest : List Char) : ∀ c ∈ (['}'] ++ rest).head?, c = '}' := by simp
      obtain ⟨word, behind⟩ := append_inj_of_stop (free clean) (free neat) (closing rest)
        (closing other) same
      exact ⟨congrArg _ (String.toList_inj.mp word), by simpa using behind⟩

/-- The parts of a segment are told apart, and so is what follows the segment. -/
theorem parts_eq_of_spell {first second : List RoutePart}
    (clean : ∀ part ∈ first, part.Clean) (neat : ∀ part ∈ second, part.Clean)
    (apart : first.IsChain RoutePart.Apart) (split : second.IsChain RoutePart.Apart)
    {rest other : List Char} (ends : ∀ c ∈ rest.head?, c = '/')
    (stops : ∀ c ∈ other.head?, c = '/')
    (same : first.flatMap RoutePart.spell ++ rest = second.flatMap RoutePart.spell ++ other) :
    first = second ∧ rest = other := by
  -- No part starts with a slash, so both segments have the same number of parts.
  induction first generalizing second with
  | nil =>
    cases second with
    | nil => exact ⟨rfl, same⟩
    | cons part second =>
      obtain ⟨c, behind, spelled, slash, -⟩ := exists_head_of_clean (neat part (by simp))
      simp only [List.flatMap_nil, List.nil_append, List.flatMap_cons, spelled,
        List.cons_append] at same
      exact absurd (ends c (by simp [same])) slash
  | cons part first ih =>
    cases second with
    | nil =>
      obtain ⟨c, behind, spelled, slash, -⟩ := exists_head_of_clean (clean part (by simp))
      simp only [List.flatMap_nil, List.nil_append, List.flatMap_cons, spelled,
        List.cons_append] at same
      exact absurd (stops c (by simp [← same])) slash
    | cons twin second =>
      obtain ⟨next, chained⟩ := List.isChain_cons.mp apart
      obtain ⟨following, linked⟩ := List.isChain_cons.mp split
      have later : ∀ other ∈ first, other.Clean := fun other member => clean other (by simp [member])
      have after : ∀ other ∈ second, other.Clean := fun other member => neat other (by simp [member])
      -- Behind literal text a name follows or the segment ends.
      have named {part : RoutePart} {parts : List RoutePart}
          (alone : ∀ next ∈ parts.head?, part.Apart next) (literal : part.isLiteral = true) :
          ∀ next ∈ parts.head?, next.isLiteral = false := by
        intro next begun
        have different := alone next begun
        simpa [RoutePart.Apart, literal] using different
      rw [List.flatMap_cons, List.flatMap_cons, List.append_assoc, List.append_assoc] at same
      obtain ⟨rfl, behind⟩ := part_eq_of_spell (clean part (by simp)) (neat twin (by simp))
        (fun literal => head_behind_literal later (named next literal) ends)
        (fun literal => head_behind_literal after (named following literal) stops) same
      obtain ⟨rfl, tail⟩ := ih later after chained linked behind
      exact ⟨rfl, tail⟩

/-- The segments of a path are told apart. -/
theorem segments_eq_of_spell {first second : List (List RoutePart)} (legible : Legible first)
    (clear : Legible second)
    (same : first.flatMap spellSegment = second.flatMap spellSegment) : first = second := by
  -- Segment by segment, from the left: both start with a slash and end before the next one.
  induction first generalizing second with
  | nil =>
    cases second with
    | nil => rfl
    | cons parts second => simp [spellSegment] at same
  | cons parts first ih =>
    cases second with
    | nil => simp [spellSegment] at same
    | cons twins second =>
      -- A segment ends where the next slash stands, or the path does.
      have slash (segments : List (List RoutePart)) :
          ∀ c ∈ (segments.flatMap spellSegment).head?, c = '/' := by
        cases segments <;> simp [spellSegment]
      simp only [List.flatMap_cons, spellSegment, List.cons_append, List.cons.injEq,
        true_and] at same
      obtain ⟨rfl, behind⟩ := parts_eq_of_spell (legible.clean parts (by simp))
        (clear.clean twins (by simp)) (legible.apart parts (by simp)) (clear.apart twins (by simp))
        (slash first) (slash second) same
      have rest {parts : List RoutePart} {segments : List (List RoutePart)}
          (whole : Legible (parts :: segments)) : Legible segments :=
        ⟨fun other member => whole.clean other (by simp [member]),
          fun other member => whole.apart other (by simp [member])⟩
      rw [ih (rest legible) (rest clear) behind]

/-- An accepted template has a registration path, which is its skeleton in writing. -/
theorem registrationPath_eq_of_accepted {template : String} {tree : TemplateTree}
    {params : ParamList} (read : parseTree template = .ok tree)
    (resolved : tree.resolve = .ok params) :
    ∃ path, registrationPath template {} = .ok path ∧
      path.toList = tree.skeleton.flatMap spellSegment ∧ Legible tree.skeleton := by
  -- The template is the writing of a tree, whose places do not show in the path.
  obtain ⟨plain, wellFormed, -, rfl⟩ := parseTree_eq_ok_iff.mp read
  refine ⟨plain.place.barePath .braces, ?_, plain.place.barePath_toList, legible_skeleton wellFormed⟩
  simp [registrationPath, read, resolved, bind, Except.bind, pure, Except.pure,
    TemplateTree.registrationPath]

/-- In the registration path of an accepted template, the names of the path parameters stand between
balanced braces, in order; and two accepted templates have the same path exactly if they have the
same literal texts and names in the same places. -/
theorem registrationPath_skeleton {template other : String} {params others : ParamList}
    (accepted : parseParams template = .ok params) (admitted : parseParams other = .ok others) :
    ∃ tree path otherTree otherPath,
      parseTree template = .ok tree ∧ registrationPath template {} = .ok path ∧
      parseTree other = .ok otherTree ∧ registrationPath other {} = .ok otherPath ∧
      bracedTexts? none path.toList = some (params.path.map Param.name) ∧
      path.toList.count '{' = params.path.length ∧
      (path = otherPath ↔ tree.skeleton = otherTree.skeleton) := by
  obtain ⟨tree, read, resolved⟩ := parseParams_eq_ok_iff.mp accepted
  obtain ⟨otherTree, found, solved⟩ := parseParams_eq_ok_iff.mp admitted
  obtain ⟨path, registered, spelled, legible⟩ := registrationPath_eq_of_accepted read resolved
  obtain ⟨otherPath, recorded, written, clear⟩ := registrationPath_eq_of_accepted found solved
  -- The path is the skeleton in writing, and the names are read back from it.
  have braced : bracedTexts? none path.toList = some (params.path.map Param.name) := by
    rw [spelled, bracedTexts?_segments legible.clean, tree.names_skeleton,
      names_of_copied (TemplateTree.copied_of_resolve resolved).2.1]
  refine ⟨tree, path, otherTree, otherPath, read, registered, found, recorded, braced, ?_, ?_⟩
  · simpa using (count_of_bracedTexts? braced).1
  -- Equal paths are read as equal skeletons.
  · rw [← String.toList_inj, spelled, written]
    exact ⟨segments_eq_of_spell legible clear, fun same => by rw [same]⟩

/-- Type, default and query differ, and the skeleton does not. -/
theorem registrationPath_skeleton_retyped :
    parseParams "/a:b\x7bint:id=7\x7d/?q=\x7bstring\x7d" =
        .ok ⟨[⟨"id", .path, .int, some "7"⟩], [⟨"q", .query, .string, none⟩]⟩ ∧
      parseParams "/a:b\x7bstring:id\x7d/" = .ok ⟨[⟨"id", .path, .string, none⟩], []⟩ ∧
      ∃ tree path otherTree otherPath,
        parseTree "/a:b\x7bint:id=7\x7d/?q=\x7bstring\x7d" = .ok tree ∧
        registrationPath "/a:b\x7bint:id=7\x7d/?q=\x7bstring\x7d" {} = .ok path ∧
        parseTree "/a:b\x7bstring:id\x7d/" = .ok otherTree ∧
        registrationPath "/a:b\x7bstring:id\x7d/" {} = .ok otherPath ∧
        bracedTexts? none path.toList = some ["id"] ∧ path.toList.count '{' = 1 ∧
        (path = otherPath ↔ tree.skeleton = otherTree.skeleton) := by
  have accepted : parseParams "/a:b\x7bint:id=7\x7d/?q=\x7bstring\x7d" =
      .ok ⟨[⟨"id", .path, .int, some "7"⟩], [⟨"q", .query, .string, none⟩]⟩ := by rfl
  have admitted : parseParams "/a:b\x7bstring:id\x7d/" =
      .ok ⟨[⟨"id", .path, .string, none⟩], []⟩ := by rfl
  exact ⟨accepted, admitted, registrationPath_skeleton accepted admitted⟩

end TypedRoutes

import TypedRoutes.Proofs.RegistrationPath.Concatenation
import TypedRoutes.Proofs.RegistrationPath.Skeleton

/-! What a router reads in a registration path with colons: the names of the placeholders, unless
literal text holds a colon of its own or goes on where a name ends. -/

namespace TypedRoutes

/-- The parameters that a router declares for a path with colons: each colon with letters, digits or
underscores behind it declares one, and its name is the longest run of them. -/
def declaredNames : List Char → List String
  | [] => []
  | c :: rest =>
    if c = ':' then
      match rest.takeWhile isIdentifierPart with
      | [] => declaredNames rest
      | run => String.ofList run :: declaredNames rest
    else declaredNames rest

/-- The characters at the start of a segment, or of what is left of it, that a name in front of them
would take in. -/
def runBehind : List RoutePart → List Char
  | .literal text :: _ => text.toList.takeWhile isIdentifierPart
  | _ => []

/-- The parameters that a router declares for the parts of a segment. -/
def routedNames : List RoutePart → List String
  | [] => []
  | .literal text :: rest => declaredNames text.toList ++ routedNames rest
  | .name word :: rest => String.ofList (word.toList ++ runBehind rest) :: routedNames rest

/-- A text with a colon in front of a letter, a digit or an underscore. -/
def HoldsName (text : List Char) : Prop :=
  ∃ before c after, text = before ++ ':' :: c :: after ∧ IsNamePart c

/-- A name in front of a letter, a digit or an underscore. -/
def RunsOn : RoutePart → RoutePart → Prop
  | .name _, .literal text => ∃ c ∈ text.toList.head?, IsNamePart c
  | _, _ => False

/-- Parts of a segment in which a router reads the names of the placeholders and no others. -/
structure Plainly (parts : List RoutePart) : Prop where
  /-- No literal text declares a parameter. -/
  literals : ∀ text, .literal text ∈ parts → ¬ HoldsName text.toList
  /-- No name is longer than it should be. -/
  names : parts.IsChain fun left right => ¬ RunsOn left right

/-! How texts are read side by side. -/

/-- Text without colons declares nothing. -/
theorem declaredNames_skip {text : List Char} (free : ':' ∉ text) (rest : List Char) :
    declaredNames (text ++ rest) = declaredNames rest := by
  -- No character of the text is a colon, so each of them is passed over.
  induction text with
  | nil => rfl
  | cons c text ih =>
    simp only [List.mem_cons, not_or] at free
    rw [List.cons_append, declaredNames, if_neg (Ne.symm free.1), ih free.2]

/-- A text that ends in front of a character which belongs to no name is read apart from the rest. -/
theorem declaredNames_append (text : List Char) {rest : List Char}
    (stop : ∀ c ∈ rest.head?, isIdentifierPart c = false) :
    declaredNames (text ++ rest) = declaredNames text ++ declaredNames rest := by
  -- A run in the first text ends there, because no name goes on with the character behind it.
  induction text with
  | nil => rfl
  | cons c text ih =>
    -- A run that reaches the end of the text goes no further.
    rw [List.cons_append, declaredNames, declaredNames, takeWhile_append_stop text stop, ih]
    by_cases colon : c = ':'
    · rw [if_pos colon, if_pos colon]
      cases text.takeWhile isIdentifierPart <;> rfl
    · rw [if_neg colon, if_neg colon]

/-- A name behind a colon is read with the run that follows it. -/
theorem declaredNames_name {word : String} (named : isIdentifier word = true) (rest : List Char) :
    declaredNames (':' :: (word.toList ++ rest)) =
      String.ofList (word.toList ++ rest.takeWhile isIdentifierPart) :: declaredNames rest := by
  -- All characters of an identifier may stand in a name, and a colon may not.
  have inside : ∀ c ∈ word.toList, isIdentifierPart c = true :=
    fun c member => isIdentifierPart_of_mem named member
  have free : ':' ∉ word.toList := fun member => absurd (inside ':' member) (by decide)
  rw [declaredNames, if_pos rfl, List.takeWhile_append_of_pos inside, declaredNames_skip free]
  -- The run is not empty, since the name is not.
  obtain ⟨first, others, shape, -, -⟩ := isIdentifier_iff.mp named
  rw [shape]
  rfl

/-! How the parts of a path are read. -/

/-- The characters of parts in a path with colons. -/
def colonText (parts : List RoutePart) : List Char :=
  parts.flatMap fun part => (part.registered .colon).toList

/-- Literal text stands in the path as it is. -/
@[simp] theorem colonText_literal (text : String) (parts : List RoutePart) :
    colonText (.literal text :: parts) = text.toList ++ colonText parts :=
  List.flatMap_cons

/-- A name stands in the path behind a colon. -/
@[simp] theorem colonText_name (word : String) (parts : List RoutePart) :
    colonText (.name word :: parts) = ':' :: (word.toList ++ colonText parts) := by
  simp [colonText, RoutePart.registered, PlaceholderForm.write]

/-- What follows literal text starts with the colon of a name or the slash of a segment. -/
theorem stop_behind_literal {text : String} {parts : List RoutePart} {rest : List Char}
    (apart : (RoutePart.literal text :: parts).IsChain RoutePart.Apart)
    (ends : ∀ c ∈ rest.head?, c = '/') :
    ∀ c ∈ (colonText parts ++ rest).head?, isIdentifierPart c = false := by
  -- The first character of what follows decides, and it belongs to no name.
  intro c begun
  cases parts with
  | nil =>
    have slash := ends c begun
    subst slash
    decide
  | cons next parts =>
    -- The next part is no literal text, so it is a name.
    cases next with
    | literal other => exact absurd ⟨rfl, rfl⟩ (List.isChain_cons_cons.mp apart).1
    | name word =>
      rw [colonText_name] at begun
      cases begun
      decide

/-- The characters that a name takes in are those of the literal text behind it. -/
theorem takeWhile_colonText {parts : List RoutePart} {rest : List Char}
    (apart : parts.IsChain RoutePart.Apart) (ends : ∀ c ∈ rest.head?, c = '/') :
    (colonText parts ++ rest).takeWhile isIdentifierPart = runBehind parts := by
  have slash : isIdentifierPart '/' = false := by decide
  cases parts with
  | nil =>
    -- Behind the segment there is another one, or nothing.
    cases rest with
    | nil => rfl
    | cons c rest =>
      have same := ends c rfl
      subst same
      simp [colonText, runBehind, slash]
  | cons part parts =>
    cases part with
    | literal text =>
      rw [colonText_literal, List.append_assoc,
        takeWhile_append_stop _ (stop_behind_literal apart ends), runBehind]
    -- The next name has its own colon.
    | name word =>
      rw [colonText_name]
      rfl

/-- The parts of a segment are read one by one, each name with the run behind it. -/
theorem declaredNames_parts {parts : List RoutePart} {rest : List Char}
    (named : ∀ word, .name word ∈ parts → isIdentifier word = true)
    (apart : parts.IsChain RoutePart.Apart) (ends : ∀ c ∈ rest.head?, c = '/') :
    declaredNames (colonText parts ++ rest) = routedNames parts ++ declaredNames rest := by
  -- From the last part to the first: what is behind a part is read already, and a name takes in the
  -- run at its front.
  induction parts with
  | nil => rfl
  | cons part parts ih =>
    have later := ih (fun word member => named word (by simp [member])) apart.tail
    cases part with
    | literal text =>
      rw [colonText_literal, List.append_assoc,
        declaredNames_append _ (stop_behind_literal apart ends), later, routedNames,
        List.append_assoc]
    | name word =>
      have run : (colonText parts ++ rest).takeWhile isIdentifierPart = runBehind parts :=
        takeWhile_colonText apart.tail ends
      rw [colonText_name, List.cons_append, List.append_assoc,
        declaredNames_name (named word (by simp)), later, run, routedNames, List.cons_append]

/-- The segments of a path are read one by one. -/
theorem declaredNames_segments {segments : List (List RoutePart)}
    (named : ∀ parts ∈ segments, ∀ word, .name word ∈ parts → isIdentifier word = true)
    (apart : ∀ parts ∈ segments, parts.IsChain RoutePart.Apart) :
    declaredNames (segments.flatMap fun parts => '/' :: colonText parts) =
      segments.flatMap routedNames := by
  -- From the last segment to the first, as for the parts.
  induction segments with
  | nil => rfl
  | cons parts segments ih =>
    -- The slash of the next segment ends whatever name stands before it.
    have ends : ∀ c ∈ (segments.flatMap fun parts => '/' :: colonText parts).head?, c = '/' := by
      cases segments <;> simp
    have slash (rest : List Char) : declaredNames ('/' :: rest) = declaredNames rest := by
      rw [declaredNames, if_neg (by decide)]
    rw [List.flatMap_cons, List.cons_append, slash,
      declaredNames_parts (named parts (by simp)) (apart parts (by simp)) ends,
      ih (fun other member => named other (by simp [member]))
        fun other member => apart other (by simp [member]), List.flatMap_cons]

/-! When the names are those of the placeholders. -/

/-- A colon at the start of a text is in front of a name, or one behind it is. -/
theorem holdsName_cons {c : Char} {rest : List Char} :
    HoldsName (c :: rest) ↔ (c = ':' ∧ ∃ d ∈ rest.head?, IsNamePart d) ∨ HoldsName rest := by
  constructor
  -- The colon is the first character, or it stands behind it.
  · rintro ⟨before, d, after, shape, part⟩
    cases before with
    | nil =>
      obtain ⟨rfl, rfl⟩ := List.cons.inj shape
      exact Or.inl ⟨rfl, d, rfl, part⟩
    | cons head before => exact Or.inr ⟨before, d, after, (List.cons.inj shape).2, part⟩
  · rintro (⟨rfl, d, first, part⟩ | ⟨before, d, after, rfl, part⟩)
    · obtain ⟨after, rfl⟩ := List.head?_eq_some_iff.mp first
      exact ⟨[], d, after, rfl, part⟩
    · exact ⟨c :: before, d, after, rfl, part⟩

/-- There is no run of names at the start of a text that starts with another character. -/
theorem takeWhile_eq_nil_iff_head {text : List Char} :
    text.takeWhile isIdentifierPart = [] ↔ ¬ ∃ c ∈ text.head?, IsNamePart c := by
  -- The run is empty if its first character would be no part of a name.
  cases text with
  | nil => simp
  | cons c rest => simp [List.takeWhile_cons, ← isIdentifierPart_iff]

/-- A text declares no parameter if no colon stands in front of a character of names. -/
theorem declaredNames_eq_nil_iff {text : List Char} :
    declaredNames text = [] ↔ ¬ HoldsName text := by
  -- A colon declares a name exactly if a character of names follows it, wherever it stands.
  induction text with
  | nil => simp [declaredNames, HoldsName]
  | cons c rest ih =>
    rw [holdsName_cons, not_or, ← ih, declaredNames]
    by_cases colon : c = ':'
    · rw [if_pos colon, not_and, ← takeWhile_eq_nil_iff_head]
      cases run : rest.takeWhile isIdentifierPart <;> simp [colon]
    · simp [colon]

/-- The number of characters in some names. -/
def totalLength : List String → Nat
  | [] => 0
  | name :: names => name.length + totalLength names

/-- The first name adds its own length. -/
@[simp] theorem totalLength_cons (name : String) (names : List String) :
    totalLength (name :: names) = name.length + totalLength names :=
  rfl

/-- Lengths of names side by side add up. -/
@[simp] theorem totalLength_append (first second : List String) :
    totalLength (first ++ second) = totalLength first + totalLength second := by
  -- The lengths are added name by name.
  induction first with
  | nil => simp [totalLength]
  | cons name names ih =>
    rw [List.cons_append, totalLength_cons, totalLength_cons, ih]
    omega

/-- No declared name is empty. -/
theorem totalLength_declaredNames {text : List Char} :
    totalLength (declaredNames text) = 0 ↔ declaredNames text = [] := by
  constructor
  -- A name that is declared has a character, so the first one would already count.
  · intro short
    induction text with
    | nil => rfl
    | cons c rest ih =>
      unfold declaredNames at short ⊢
      by_cases colon : c = ':'
      · rw [if_pos colon] at short ⊢
        cases run : rest.takeWhile isIdentifierPart with
        | nil =>
          rw [run] at short
          exact ih short
        | cons d others => simp [run] at short
      · rw [if_neg colon] at short ⊢
        exact ih short
  -- Without names there are no characters.
  · intro none
    rw [none]
    rfl

/-- The number of characters that a router reads in the parts of a segment beyond the names. -/
def surplus : List RoutePart → Nat
  | [] => 0
  | .literal text :: rest => totalLength (declaredNames text.toList) + surplus rest
  | .name _ :: rest => (runBehind rest).length + surplus rest

/-- The names are read with all their characters, and there may be more of them. -/
theorem totalLength_routedNames (parts : List RoutePart) :
    totalLength (routedNames parts) =
      totalLength (parts.filterMap RoutePart.name?) + surplus parts := by
  -- A name is read with the run behind it, and literal text adds the names that it declares.
  induction parts with
  | nil => rfl
  | cons part parts ih =>
    cases part with
    | literal text =>
      rw [routedNames, totalLength_append, ih, surplus, List.filterMap_cons_none rfl]
      omega
    | name word =>
      have length : (String.ofList (word.toList ++ runBehind parts)).length =
          word.length + (runBehind parts).length := by
        simp
      have names : totalLength ((RoutePart.name word :: parts).filterMap RoutePart.name?) =
          word.length + totalLength (parts.filterMap RoutePart.name?) :=
        totalLength_cons word _
      rw [routedNames, totalLength_cons, ih, surplus, names, length]
      omega

/-- What stands first among some parts is plain, and so are the parts behind it. -/
theorem plainly_literal {text : String} {parts : List RoutePart} :
    Plainly (.literal text :: parts) ↔ ¬ HoldsName text.toList ∧ Plainly parts := by
  -- Literal text takes nothing in, so the chain only matters behind it.
  have chain : (RoutePart.literal text :: parts).IsChain (fun left right => ¬ RunsOn left right) ↔
      parts.IsChain fun left right => ¬ RunsOn left right := by
    cases parts <;> simp [RunsOn]
  constructor
  · intro plainly
    exact ⟨plainly.literals text (by simp),
      fun other member => plainly.literals other (by simp [member]), chain.mp plainly.names⟩
  · rintro ⟨first, plainly⟩
    refine ⟨?_, chain.mpr plainly.names⟩
    intro other member
    rcases List.mem_cons.mp member with same | later
    · cases same
      exact first
    · exact plainly.literals other later

/-- A name in front of plain parts is plain with them if it takes in nothing. -/
theorem plainly_name {word : String} {parts : List RoutePart} :
    Plainly (.name word :: parts) ↔ runBehind parts = [] ∧ Plainly parts := by
  -- A name runs on exactly if the part behind it is literal text that begins with a run.
  have chain : (RoutePart.name word :: parts).IsChain (fun left right => ¬ RunsOn left right) ↔
      runBehind parts = [] ∧ parts.IsChain fun left right => ¬ RunsOn left right := by
    cases parts with
    | nil => simp [runBehind]
    | cons next parts =>
      rw [List.isChain_cons_cons]
      cases next with
      | literal text => rw [runBehind, takeWhile_eq_nil_iff_head]; rfl
      | name other => simp [runBehind, RunsOn]
  -- Literal texts are those behind the name.
  have member (text : String) :
      RoutePart.literal text ∈ RoutePart.name word :: parts ↔ .literal text ∈ parts := by
    simp
  constructor
  · intro plainly
    obtain ⟨alone, names⟩ := chain.mp plainly.names
    exact ⟨alone, fun text inside => plainly.literals text ((member text).mpr inside), names⟩
  · rintro ⟨alone, plainly⟩
    exact ⟨fun text inside => plainly.literals text ((member text).mp inside),
      chain.mpr ⟨alone, plainly.names⟩⟩

/-- Nothing is read beyond the names of plain parts. -/
theorem surplus_eq_zero_iff {parts : List RoutePart} : surplus parts = 0 ↔ Plainly parts := by
  -- A sum is zero if all its terms are, and each term is zero in front of plain parts.
  induction parts with
  | nil => exact ⟨fun _ => ⟨by simp, .nil⟩, fun _ => rfl⟩
  | cons part parts ih =>
    cases part with
    | literal text =>
      rw [surplus, plainly_literal, Nat.add_eq_zero_iff, totalLength_declaredNames,
        declaredNames_eq_nil_iff, ih]
    | name word =>
      rw [surplus, plainly_name, Nat.add_eq_zero_iff, List.length_eq_zero_iff, ih]

/-- Of plain parts the names are read as they are. -/
theorem Plainly.routedNames_eq {parts : List RoutePart} (plainly : Plainly parts) :
    routedNames parts = parts.filterMap RoutePart.name? := by
  -- No run is taken in and no literal text declares a name, so the names are left.
  induction parts with
  | nil => rfl
  | cons part parts ih =>
    cases part with
    | literal text =>
      obtain ⟨first, others⟩ := plainly_literal.mp plainly
      rw [routedNames, declaredNames_eq_nil_iff.mpr first, ih others, List.filterMap_cons_none rfl,
        List.nil_append]
    | name word =>
      obtain ⟨alone, others⟩ := plainly_name.mp plainly
      rw [routedNames, alone, ih others, List.append_nil, String.ofList_toList]
      rfl

/-- The names in a path are those of the placeholders exactly if all its parts are plain. -/
theorem flatMap_routedNames_eq_iff {segments : List (List RoutePart)} :
    segments.flatMap routedNames = segments.flatMap (fun parts => parts.filterMap RoutePart.name?) ↔
      ∀ parts ∈ segments, Plainly parts := by
  constructor
  -- Equal names have equally many characters, so nothing is read beyond them.
  · intro same
    have total (segments : List (List RoutePart)) :
        totalLength (segments.flatMap routedNames) = totalLength (segments.flatMap fun parts =>
          parts.filterMap RoutePart.name?) + (segments.map surplus).sum := by
      induction segments with
      | nil => rfl
      | cons parts segments ih =>
        rw [List.flatMap_cons, List.flatMap_cons, totalLength_append, totalLength_append, ih,
          totalLength_routedNames, List.map_cons, List.sum_cons]
        omega
    have none : (segments.map surplus).sum = 0 := by
      have lengths := total segments
      rw [same] at lengths
      omega
    intro parts member
    exact surplus_eq_zero_iff.mp (List.sum_eq_zero_iff_forall_eq_nat.mp none _ (List.mem_map_of_mem member))
  -- Segment by segment, the names are read as they are.
  · intro plainly
    rw [List.flatMap_def, List.flatMap_def]
    exact congrArg _ (List.map_congr_left fun parts member => (plainly parts member).routedNames_eq)

/-! Whole paths. -/

/-- The path with colons of a tree is its skeleton with a colon in front of each name. -/
theorem TemplateTree.barePath_colon (tree : TemplateTree) :
    (tree.barePath .colon).toList =
      tree.skeleton.flatMap fun parts => '/' :: colonText parts := by
  -- The form of the placeholders is the only thing that the skeleton leaves open.
  rw [tree.barePath_eq_skeleton]
  simp [List.flatMap_map, colonText]

/-- The names in the skeleton of an accepted template are those of the path parameters. -/
theorem names_skeleton_of_resolve {tree : TemplateTree} {params : ParamList}
    (resolved : tree.resolve = .ok params) :
    tree.skeleton.flatMap (fun parts => parts.filterMap RoutePart.name?) =
      params.path.map Param.name := by
  -- Skeleton and parameters take the names from the same entries.
  rw [tree.names_skeleton, names_of_copied (TemplateTree.copied_of_resolve resolved).2.1]

/-- In the path with colons of an accepted template, a router reads each name with the run of
letters, digits and underscores behind it, and each such run behind a colon of literal text. So it
declares the parameters of the path exactly if no literal text has a colon in front of such a
character and no name has literal text behind it that starts with one. -/
theorem registrationPath_colon {template : String} {params : ParamList}
    (accepted : parseParams template = .ok params) :
    ∃ tree path, parseTree template = .ok tree ∧
      registrationPath template ⟨.colon, .strip⟩ = .ok path ∧
      declaredNames path.toList = tree.skeleton.flatMap routedNames ∧
      (declaredNames path.toList = params.path.map Param.name ↔
        ∀ parts ∈ tree.skeleton, Plainly parts) := by
  obtain ⟨tree, read, resolved⟩ := parseParams_eq_ok_iff.mp accepted
  have names := names_skeleton_of_resolve resolved
  -- The names of the skeleton are identifiers, since the template is accepted.
  have named : ∀ parts ∈ tree.skeleton, ∀ word, .name word ∈ parts → isIdentifier word = true := by
    intro parts member word inside
    have declared : word ∈ params.path.map Param.name := by
      rw [← names]
      exact List.mem_flatMap.mpr ⟨parts, member, List.mem_filterMap.mpr ⟨_, inside, rfl⟩⟩
    obtain ⟨param, present, rfl⟩ := List.mem_map.mp declared
    exact isIdentifier_of_parseParams accepted (List.mem_append_left _ present)
  -- Literal text is never split in the tree of a text.
  have apart : ∀ parts ∈ tree.skeleton, parts.IsChain RoutePart.Apart := by
    obtain ⟨plain, wellFormed, -, rfl⟩ := parseTree_eq_ok_iff.mp read
    exact (legible_skeleton wellFormed).apart
  have routed : declaredNames (tree.barePath .colon).toList =
      tree.skeleton.flatMap routedNames := by
    rw [tree.barePath_colon, declaredNames_segments named apart]
  refine ⟨tree, _, read, registrationPath_of_resolve read resolved _, routed, ?_⟩
  rw [← names, ← flatMap_routedNames_eq_iff, ← routed]
  rfl

/-- A template whose placeholders touch literal text and each other. -/
def touchingTemplate : String :=
  "/a:\x7bint:id\x7d.b\x7bstring:to\x7d\x7blong:at\x7d/"

/-- The tree of the template. -/
def touchingTree : PlainTree :=
  ⟨[[.literal "a:", .placeholder ⟨"int", "id", none⟩, .literal ".b",
    .placeholder ⟨"string", "to", none⟩, .placeholder ⟨"long", "at", none⟩], []], none⟩

/-- The parameters of the template. -/
def touchingParams : ParamList :=
  ⟨[⟨"id", .path, .int, none⟩, ⟨"to", .path, .string, none⟩, ⟨"at", .path, .long, none⟩], []⟩

/-- A point ends a name, and so does the colon of the next one. -/
theorem registrationPath_colon_touching :
    parseParams touchingTemplate = .ok touchingParams ∧
      (∀ parts ∈ touchingTree.place.skeleton, Plainly parts) ∧
      ∃ path, registrationPath touchingTemplate ⟨.colon, .strip⟩ = .ok path ∧
        declaredNames path.toList = touchingTree.place.skeleton.flatMap routedNames ∧
        declaredNames path.toList = ["id", "to", "at"] := by
  have accepted : parseParams touchingTemplate = .ok touchingParams := by rfl
  have known : parseTree touchingTemplate = .ok touchingTree.place := by rfl
  -- For parts that are given, the surplus is computed.
  have spare : ∀ parts ∈ touchingTree.place.skeleton, surplus parts = 0 := by decide
  have plainly : ∀ parts ∈ touchingTree.place.skeleton, Plainly parts :=
    fun parts member => surplus_eq_zero_iff.mp (spare parts member)
  obtain ⟨tree, path, read, registered, routed, exact_iff⟩ := registrationPath_colon accepted
  rw [known, Except.ok.injEq] at read
  subst read
  exact ⟨accepted, plainly, path, registered, routed, exact_iff.mpr plainly⟩

/-- A name takes in the letter behind it, and a colon of literal text declares a parameter. -/
theorem registrationPath_colon_misread :
    (parseParams "/\x7bint:id\x7dx" = .ok ⟨[⟨"id", .path, .int, none⟩], []⟩ ∧
      registrationPath "/\x7bint:id\x7dx" ⟨.colon, .strip⟩ = .ok "/:idx" ∧
      declaredNames "/:idx".toList = ["idx"]) ∧
    parseParams "/a:b" = .ok ⟨[], []⟩ ∧
      registrationPath "/a:b" ⟨.colon, .strip⟩ = .ok "/a:b" ∧
      declaredNames "/a:b".toList = ["b"] := by
  exact ⟨⟨by rfl, by rfl, by rfl⟩, by rfl, by rfl, by rfl⟩

end TypedRoutes

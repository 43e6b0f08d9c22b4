import Mathlib.Data.List.Nodup
import TypedRoutes.Param.Resolve
import TypedRoutes.Proofs.Lists
import TypedRoutes.Proofs.Text.Identifier

/-! A tree is resolved exactly when its declarations have no fault, and the first fault is the one
that is reported. -/

namespace TypedRoutes

/-- The words that name a type. -/
def IsTag (word : String) : Prop :=
  -- The seven tags that the documentation lists.
  word ∈ ["int", "long", "string", "boolean", "float", "double", "timestamp"]

/-- A declaration with the source that it belongs to. -/
structure Entry where
  /-- Where the value will be read from. -/
  source : Source
  /-- What is declared. -/
  declaration : Declaration

namespace TemplateTree

/-- The declarations in the path, from left to right. -/
def pathEntries (tree : TemplateTree) : List Entry :=
  tree.pathDeclarations.map fun declaration => ⟨.path, declaration.value⟩

/-- The declarations in the query, from left to right. -/
def queryEntries (tree : TemplateTree) : List Entry :=
  tree.queryDeclarations.map fun declaration => ⟨.query, declaration.value⟩

/-- All declarations of a tree, those of the path first. -/
def entries (tree : TemplateTree) : List Entry :=
  tree.pathEntries ++ tree.queryEntries

end TemplateTree

namespace Entry

/-- The names that some entries declare. -/
def names (entries : List Entry) : List (Located String) :=
  entries.map fun entry => entry.declaration.name

/-- The same without places. -/
def words (entries : List Entry) : List String :=
  (names entries).map Located.value

/-- The names of some entries and others stand in the same order. -/
theorem names_append (first second : List Entry) :
    names (first ++ second) = names first ++ names second :=
  List.map_append

/-- Without places as well. -/
theorem words_append (first second : List Entry) :
    words (first ++ second) = words first ++ words second := by
  -- Dropping the places does not change the order.
  rw [words, names_append, List.map_append]
  rfl

/-- One entry more declares one name more. -/
theorem words_concat (before : List Entry) (entry : Entry) :
    words (before ++ [entry]) = words before ++ [entry.declaration.name.value] :=
  words_append before [entry]

/-- A word is declared if some entry has it as its name. -/
theorem mem_words_iff {entries : List Entry} {word : String} :
    word ∈ words entries ↔ ∃ entry ∈ entries, entry.declaration.name.value = word := by
  simp [words, names]

/-- A name that is declared once is declared by one entry. -/
theorem exists_only_entry {entries : List Entry} {word : String}
    (distinct : (words entries).Nodup) (declared : word ∈ words entries) :
    ∃ earlier entry later, entries = earlier ++ entry :: later ∧
      entry.declaration.name.value = word ∧ word ∉ words (earlier ++ later) := by
  obtain ⟨entry, member, rfl⟩ := mem_words_iff.mp declared
  obtain ⟨earlier, later, split⟩ := List.append_of_mem member
  refine ⟨earlier, entry, later, split, rfl, ?_⟩
  -- The names of the others are what is left of distinct names.
  have spread : words entries = words earlier ++ entry.declaration.name.value :: words later := by
    rw [split, words_append]
    rfl
  rw [spread, List.nodup_middle, List.nodup_cons] at distinct
  rw [words_append]
  exact distinct.1

end Entry

open Entry

/-- Every tag names a type, every name is proper, and no name is declared twice. -/
structure WellDeclared (entries : List Entry) : Prop where
  /-- The tags are those of types. -/
  tags : ∀ entry ∈ entries, IsTag entry.declaration.typeTag.value
  /-- The names are identifiers. -/
  proper : ∀ entry ∈ entries, IsName entry.declaration.name.value
  /-- The names differ. -/
  distinct : (words entries).Nodup

/-- An entry with a fault, behind the entries before it. -/
def Faulty (before : List Entry) (entry : Entry) : Prop :=
  ¬ IsTag entry.declaration.typeTag.value ∨ ¬ IsName entry.declaration.name.value ∨
    entry.declaration.name.value ∈ words before

/-- Entries without a fault, behind some others. -/
def Sound (before entries : List Entry) : Prop :=
  ∀ earlier entry later, entries = earlier ++ entry :: later → ¬ Faulty (before ++ earlier) entry

/-- The first entry with a fault, behind the entries before it. -/
structure FirstFault (entries before : List Entry) (entry : Entry) : Prop where
  /-- The entry stands behind the others. -/
  split : ∃ after, entries = before ++ entry :: after
  /-- None of them has a fault. -/
  sound : Sound [] before
  /-- The entry has one. -/
  fault : Faulty before entry

/-- The error for an entry with a fault. Type and name are judged in the order in which they are
written, and a repetition comes last. -/
inductive Reports (before : List Entry) : Entry → TemplateError → Prop where
  | pathType (declaration : Declaration) (tag : ¬ IsTag declaration.typeTag.value) :
    Reports before ⟨.path, declaration⟩
      (.unknownType declaration.typeTag.value declaration.typeTag.span.start)
  | pathName (declaration : Declaration) (tag : IsTag declaration.typeTag.value)
    (name : ¬ IsName declaration.name.value) :
    Reports before ⟨.path, declaration⟩
      (.invalidName declaration.name.value declaration.name.span.start)
  | queryName (declaration : Declaration) (name : ¬ IsName declaration.name.value) :
    Reports before ⟨.query, declaration⟩
      (.invalidName declaration.name.value declaration.name.span.start)
  | queryType (declaration : Declaration) (name : IsName declaration.name.value)
    (tag : ¬ IsTag declaration.typeTag.value) :
    Reports before ⟨.query, declaration⟩
      (.unknownType declaration.typeTag.value declaration.typeTag.span.start)
  | repeated (entry first : Entry) (earlier later : List Entry)
    (tag : IsTag entry.declaration.typeTag.value) (name : IsName entry.declaration.name.value)
    (split : before = earlier ++ first :: later)
    (same : first.declaration.name.value = entry.declaration.name.value)
    (unique : entry.declaration.name.value ∉ words (earlier ++ later)) :
    Reports before entry (.repeatedName entry.declaration.name.value first.declaration.name.span
      entry.declaration.name.span)

/-- A parameter that says what its entry says. -/
structure Copied (entry : Entry) (param : Param) : Prop where
  /-- The name is the same. -/
  name : param.name = entry.declaration.name.value
  /-- The source is the same. -/
  source : param.source = entry.source
  /-- The type is the one that the tag names. -/
  type : param.type.tag = entry.declaration.typeTag.value
  /-- The default is kept as it was written. -/
  default : param.default = entry.declaration.default.map Located.value

/-- A word is looked up as the type whose tag it is. -/
theorem ParamType.ofTag?_eq_some_iff {word : String} {type : ParamType} :
    ofTag? word = some type ↔ type.tag = word := by
  -- The table is searched for the tag.
  constructor
  · intro found
    have same := List.find?_some found
    simpa using same
  -- The tags differ, so the first type with the tag is the type itself.
  · rintro rfl
    cases type <;> decide

/-- The words that name a type are the tags of the types. -/
theorem isTag_iff {word : String} : IsTag word ↔ ∃ type : ParamType, type.tag = word := by
  constructor
  · intro listed
    simp only [IsTag, List.mem_cons, List.not_mem_nil, or_false] at listed
    -- Each word is the tag of its own type.
    rcases listed with rfl | rfl | rfl | rfl | rfl | rfl | rfl
    · exact ⟨.int, rfl⟩
    · exact ⟨.long, rfl⟩
    · exact ⟨.string, rfl⟩
    · exact ⟨.boolean, rfl⟩
    · exact ⟨.float, rfl⟩
    · exact ⟨.double, rfl⟩
    · exact ⟨.timestamp, rfl⟩
  · rintro ⟨type, rfl⟩
    cases type <;> simp [IsTag, ParamType.tag]

/-- A word that is not listed names no type. -/
theorem ParamType.ofTag?_eq_none_iff {word : String} : ofTag? word = none ↔ ¬ IsTag word := by
  -- No type has the word as its tag.
  rw [isTag_iff, Option.eq_none_iff_forall_not_mem]
  simp [ofTag?_eq_some_iff]

/-! One declaration. -/

section

variable {declaration : Declaration} {source : Source} {before : List Entry}

/-- A name is new exactly when it is none of the words before it. -/
theorem find?_names_eq_none_iff {word : String} :
    (names before).find? (fun name => name.value == word) = none ↔ word ∉ words before := by
  -- The search goes through the names, of which the words are the texts.
  simp [words]

namespace Declaration

/-- A tag that names a type is resolved to it. -/
theorem resolveType_of_tag {type : ParamType} (tag : type.tag = declaration.typeTag.value) :
    declaration.resolveType = .ok type := by
  simp [resolveType, ParamType.ofTag?_eq_some_iff.mpr tag]

/-- A tag that names no type is reported with its start. -/
theorem resolveType_of_not_tag (tag : ¬ IsTag declaration.typeTag.value) :
    declaration.resolveType =
      .error (.unknownType declaration.typeTag.value declaration.typeTag.span.start) := by
  simp [resolveType, ParamType.ofTag?_eq_none_iff.mpr tag]

/-- An identifier passes the check of names. -/
theorem checkName_of_name (name : IsName declaration.name.value) :
    declaration.checkName = .ok () := by
  simp [checkName, isIdentifier_iff.mpr name]

/-- A name that is no identifier is reported with its start. -/
theorem checkName_of_not_name (name : ¬ IsName declaration.name.value) :
    declaration.checkName =
      .error (.invalidName declaration.name.value declaration.name.span.start) := by
  rw [← isIdentifier_iff] at name
  simp [checkName, name]

/-- A name that was not declared before passes the check for repetitions. -/
theorem checkNew_of_new (new : declaration.name.value ∉ words before) :
    declaration.checkNew (names before) = .ok () := by
  simp [checkNew, find?_names_eq_none_iff.mpr new]

/-- The earlier name that is reported is the only one that is the same. -/
theorem checkNew_of_repeated {first : Entry} {earlier later : List Entry}
    (split : before = earlier ++ first :: later)
    (same : first.declaration.name.value = declaration.name.value)
    (unique : declaration.name.value ∉ words (earlier ++ later)) :
    declaration.checkNew (names before) = .error (.repeatedName declaration.name.value
      first.declaration.name.span declaration.name.span) := by
  -- The entries before the first of this name have other names.
  rw [words_append, List.mem_append, not_or] at unique
  have found : (names before).find? (fun name => name.value == declaration.name.value) =
      some first.declaration.name := by
    rw [split, names_append, List.find?_append, find?_names_eq_none_iff.mpr unique.1]
    simp [names, same]
  simp [checkNew, found]

/-- A declaration without a fault gives the parameter that says the same. -/
theorem resolve_of_sound {type : ParamType} (tag : type.tag = declaration.typeTag.value)
    (name : IsName declaration.name.value) (new : declaration.name.value ∉ words before) :
    declaration.resolve source (names before) =
      .ok ⟨declaration.name.value, source, type, declaration.default.map Located.value⟩ := by
  -- All three checks pass, in whichever order.
  have type := resolveType_of_tag tag
  have proper := checkName_of_name name
  have fresh := checkNew_of_new new
  cases source <;> simp [resolve, type, proper, fresh, bind, Except.bind, pure, Except.pure]

end Declaration

/-- A reported fault is the error of the declaration. -/
theorem Reports.resolve_eq {entry : Entry} {error : TemplateError}
    (reported : Reports before entry error) :
    entry.declaration.resolve entry.source (names before) = .error error := by
  -- The checks before the failing one pass, and those behind it are not made.
  cases reported with
  | pathType declaration tag =>
    have unknown := Declaration.resolveType_of_not_tag tag
    simp [Declaration.resolve, unknown, bind, Except.bind]
  | pathName declaration tag name =>
    obtain ⟨type, tagged⟩ := isTag_iff.mp tag
    have known := Declaration.resolveType_of_tag tagged
    have improper := Declaration.checkName_of_not_name name
    simp [Declaration.resolve, known, improper, bind, Except.bind]
  | queryName declaration name =>
    have improper := Declaration.checkName_of_not_name name
    simp [Declaration.resolve, improper, bind, Except.bind]
  | queryType declaration name tag =>
    have proper := Declaration.checkName_of_name name
    have unknown := Declaration.resolveType_of_not_tag tag
    simp [Declaration.resolve, proper, unknown, bind, Except.bind]
  | repeated _ first earlier later tag name split same unique =>
    -- Tag and name are fine, so the names before are compared.
    obtain ⟨source, declaration⟩ := entry
    obtain ⟨type, tagged⟩ := isTag_iff.mp tag
    have known := Declaration.resolveType_of_tag tagged
    have proper := Declaration.checkName_of_name name
    have again := Declaration.checkNew_of_repeated split same unique
    cases source <;> simp [Declaration.resolve, known, proper, again, bind, Except.bind, pure,
      Except.pure]

/-- Every fault has an error, if the names before it differ. -/
theorem exists_reports {entry : Entry} (distinct : (words before).Nodup)
    (fault : Faulty before entry) : ∃ error, Reports before entry error := by
  -- A bad tag or a bad name decides; which of two is reported depends on the source.
  obtain ⟨source, declaration⟩ := entry
  by_cases tag : IsTag declaration.typeTag.value
  · by_cases name : IsName declaration.name.value
    -- Only a repetition is left, and the name was declared once before.
    · have again : declaration.name.value ∈ words before := by
        rcases fault with untagged | unnamed | again
        · exact absurd tag untagged
        · exact absurd name unnamed
        · exact again
      obtain ⟨earlier, first, later, split, same, unique⟩ := exists_only_entry distinct again
      exact ⟨_, .repeated ⟨source, declaration⟩ first earlier later tag name split same unique⟩
    · cases source with
      | path => exact ⟨_, .pathName declaration tag name⟩
      | query => exact ⟨_, .queryName declaration name⟩
  · cases source with
    | path => exact ⟨_, .pathType declaration tag⟩
    | query =>
      by_cases name : IsName declaration.name.value
      · exact ⟨_, .queryType declaration name tag⟩
      · exact ⟨_, .queryName declaration name⟩

end

/-- One fault has one error. -/
theorem Reports.unique {before : List Entry} {entry : Entry} {error other : TemplateError}
    (first : Reports before entry error) (second : Reports before entry other) : error = other := by
  -- Both are the result of resolving the declaration.
  have same := first.resolve_eq
  rw [second.resolve_eq] at same
  exact (Except.error.inj same).symm

/-! Faults in a list. -/

/-- Without entries there is no fault. -/
theorem sound_nil (before : List Entry) : Sound before [] := by
  -- No split of an empty list has an entry.
  intro earlier entry later split
  simp at split

/-- Entries are without a fault if the first is and the others are behind it. -/
theorem sound_cons {before rest : List Entry} {entry : Entry} :
    Sound before (entry :: rest) ↔ ¬ Faulty before entry ∧ Sound (before ++ [entry]) rest := by
  -- The entry itself is the case in which nothing stands before it.
  constructor
  · intro sound
    refine ⟨by simpa using sound [] entry rest rfl, ?_⟩
    intro earlier other later split
    simpa using sound (entry :: earlier) other later (by rw [split, List.cons_append])
  · rintro ⟨first, others⟩ earlier other later split
    -- Any other entry is behind the first.
    cases earlier with
    | nil =>
      cases split
      simpa using first
    | cons head earlier =>
      cases split
      simpa using others earlier other later rfl

/-- Entries are without a fault if a first part is and the others are behind it. -/
theorem sound_append {before first second : List Entry} :
    Sound before (first ++ second) ↔ Sound before first ∧ Sound (before ++ first) second := by
  -- The entries before a later one grow by the first part.
  induction first generalizing before with
  | nil => simp [sound_nil]
  | cons entry first ih =>
    rw [List.cons_append, sound_cons, sound_cons, ih, List.append_assoc, List.singleton_append,
      and_assoc]

/-- To have no fault is to be well declared, with names that are new. -/
theorem sound_iff {before entries : List Entry} :
    Sound before entries ↔
      WellDeclared entries ∧ ∀ word ∈ words entries, word ∉ words before := by
  -- The names before grow by one with every entry.
  induction entries generalizing before with
  | nil =>
    refine ⟨fun _ => ⟨⟨by simp, by simp, List.nodup_nil⟩, by simp [words, names]⟩, ?_⟩
    exact fun _ => sound_nil before
  | cons entry rest ih =>
    have spread : words (entry :: rest) = entry.declaration.name.value :: words rest := rfl
    rw [sound_cons, ih, words_concat]
    constructor
    · rintro ⟨sound, declared, fresh⟩
      simp only [Faulty, not_or, not_not] at sound
      obtain ⟨tag, name, new⟩ := sound
      -- A later entry of the same name would not be new.
      have other : entry.declaration.name.value ∉ words rest := by
        intro again
        have absent := fresh _ again
        simp at absent
      refine ⟨⟨?_, ?_, ?_⟩, ?_⟩
      · simpa using ⟨tag, declared.tags⟩
      · simpa using ⟨name, declared.proper⟩
      · exact spread ▸ List.nodup_cons.mpr ⟨other, declared.distinct⟩
      · intro word member
        rcases List.mem_cons.mp (spread ▸ member) with rfl | later
        · exact new
        · exact fun early => fresh word later (List.mem_append_left _ early)
    · rintro ⟨declared, fresh⟩
      -- From here on, distinct names make every entry new.
      obtain ⟨other, distinct⟩ := List.nodup_cons.mp (spread ▸ declared.distinct)
      refine ⟨?_, ⟨?_, ?_, distinct⟩, ?_⟩
      · simp only [Faulty, not_or, not_not]
        exact ⟨declared.tags entry (by simp), declared.proper entry (by simp),
          fresh _ (by simp [spread])⟩
      · exact fun later member => declared.tags later (by simp [member])
      · exact fun later member => declared.proper later (by simp [member])
      · intro word member
        rw [List.mem_append, List.mem_singleton, not_or]
        exact ⟨fresh word (by simp [spread, member]), fun same => other (same ▸ member)⟩

/-- Without entries before them, entries have no fault exactly if they are well declared. -/
theorem sound_nil_iff {entries : List Entry} : Sound [] entries ↔ WellDeclared entries := by
  -- Every name is new where none is known.
  rw [sound_iff]
  simp [words, names]

/-- No entry before the first one with a fault has a fault. -/
theorem FirstFault.unique {entries before others : List Entry} {entry other : Entry}
    (first : FirstFault entries before entry) (second : FirstFault entries others other) :
    before = others ∧ entry = other := by
  obtain ⟨after, split⟩ := first.split
  -- Both split the same list.
  obtain ⟨behind, joined⟩ := second.split
  -- One of the two stands before the other, or they are in the same place.
  rcases List.append_eq_append_iff.mp (split.symm.trans joined) with
    ⟨between, longer, rest⟩ | ⟨between, longer, rest⟩
  · cases between with
    | nil =>
      cases rest
      exact ⟨by simpa using longer.symm, rfl⟩
    | cons head between =>
      cases rest
      -- The first entry is before the second, which nothing with a fault is.
      exact absurd first.fault (by simpa using second.sound before entry between longer)
  · cases between with
    | nil =>
      cases rest
      exact ⟨by simpa using longer, rfl⟩
    | cons head between =>
      cases rest
      -- The other way round.
      exact absurd second.fault (by simpa using first.sound others other between longer)

/-- Entries with a first fault are not without faults. -/
theorem FirstFault.not_sound {entries before : List Entry} {entry : Entry}
    (first : FirstFault entries before entry) : ¬ Sound [] entries := by
  -- The entry is one of them, and it has a fault.
  intro sound
  obtain ⟨after, split⟩ := first.split
  exact sound before entry after split first.fault

/-! The loops. -/

/-- A loop resolves its declarations, or it stops at the first with a fault and reports it. -/
theorem resolveAll_outcome (source : Source) (declarations : List Declaration)
    {before : List Entry} (distinct : (words before).Nodup) :
    (∃ params, resolveAll source (names before) declarations = .ok params ∧
      Sound before (declarations.map (Entry.mk source)) ∧
      List.Forall₂ Copied (declarations.map (Entry.mk source)) params) ∨
    (∃ error inside faulty after,
      resolveAll source (names before) declarations = .error error ∧
      declarations.map (Entry.mk source) = inside ++ faulty :: after ∧
      Sound before inside ∧ Faulty (before ++ inside) faulty ∧
      Reports (before ++ inside) faulty error) := by
  -- The names of the entries before stay distinct as long as no entry has a fault.
  induction declarations generalizing before with
  | nil => exact Or.inl ⟨[], rfl, sound_nil before, .nil⟩
  | cons declaration rest ih =>
    by_cases fault : Faulty before ⟨source, declaration⟩
    -- The loop stops here, and nothing was passed over.
    · obtain ⟨error, reported⟩ := exists_reports distinct fault
      have failed := reported.resolve_eq
      refine Or.inr ⟨error, [], ⟨source, declaration⟩, rest.map (Entry.mk source), ?_, rfl,
        sound_nil before, by simpa using fault, by simpa using reported⟩
      simp only at failed
      simp [resolveAll, failed, bind, Except.bind]
    -- The declaration is resolved, and the loop goes on with one name more.
    · have sound := fault
      simp only [Faulty, not_or, not_not] at fault
      obtain ⟨tag, name, new⟩ := fault
      obtain ⟨type, tagged⟩ := isTag_iff.mp tag
      let param : Param :=
        ⟨declaration.name.value, source, type, declaration.default.map Located.value⟩
      have resolved : declaration.resolve source (names before) = .ok param :=
        Declaration.resolve_of_sound tagged name new
      have next : names (before ++ [⟨source, declaration⟩]) = names before ++ [declaration.name] :=
        names_append before [⟨source, declaration⟩]
      have grown : (words (before ++ [⟨source, declaration⟩])).Nodup := by
        rw [words_concat, ← List.concat_eq_append]
        exact distinct.concat new
      -- Whatever the rest of the loop does, this declaration goes in front.
      rcases ih grown with ⟨params, read, others, copied⟩ |
        ⟨error, inside, faulty, after, failed, split, others, fault, reported⟩
      · rw [next] at read
        refine Or.inl ⟨param :: params, ?_, sound_cons.mpr ⟨sound, others⟩,
          .cons ⟨rfl, rfl, tagged, rfl⟩ copied⟩
        simp [resolveAll, resolved, read, bind, Except.bind, pure, Except.pure]
      · rw [next] at failed
        refine Or.inr ⟨error, ⟨source, declaration⟩ :: inside, faulty, after, ?_, ?_,
          sound_cons.mpr ⟨sound, others⟩, by simpa using fault, by simpa using reported⟩
        · simp [resolveAll, resolved, failed, bind, Except.bind]
        · simp [split]

/-- A tree is resolved, or its first fault is reported. -/
theorem TemplateTree.resolve_cases (tree : TemplateTree) :
    (∃ params, tree.resolve = .ok params ∧ Sound [] tree.entries ∧
      List.Forall₂ Copied tree.pathEntries params.path ∧
      List.Forall₂ Copied tree.queryEntries params.query) ∨
    (∃ error before faulty, tree.resolve = .error error ∧
      FirstFault tree.entries before faulty ∧ Reports before faulty error) := by
  -- The entries are the declarations of the two loops, and the second loop knows the names of the
  -- first.
  have path : (tree.pathDeclarations.map Located.value).map (Entry.mk .path) = tree.pathEntries := by
    simp [pathEntries]
  have query : (tree.queryDeclarations.map Located.value).map (Entry.mk .query) =
      tree.queryEntries := by
    simp [queryEntries]
  have seen : (tree.pathDeclarations.map Located.value).map Declaration.name =
      names tree.pathEntries := by
    simp [names, pathEntries]
  have first := @resolveAll_outcome .path (tree.pathDeclarations.map Located.value) [] List.nodup_nil
  rw [path] at first
  rcases first with ⟨params, read, sound, copied⟩ |
    ⟨error, inside, faulty, after, failed, split, sound, fault, reported⟩
  -- The path has no fault, so its names differ, and the query is behind it.
  · have distinct : (words tree.pathEntries).Nodup := (sound_iff.mp sound).1.distinct
    have second := resolveAll_outcome .query (tree.queryDeclarations.map Located.value) distinct
    rw [query] at second
    rcases second with ⟨others, later, fresh, kept⟩ |
      ⟨error, inside, faulty, after, failed, split, fresh, fault, reported⟩
    · refine Or.inl ⟨⟨params, others⟩, ?_, sound_append.mpr ⟨sound, by simpa using fresh⟩,
        copied, kept⟩
      simp only [names, List.map_nil] at read
      simp [resolve, seen, read, later, bind, Except.bind, pure, Except.pure]
    · refine Or.inr ⟨error, tree.pathEntries ++ inside, faulty, ?_, ⟨⟨after, ?_⟩,
        sound_append.mpr ⟨sound, by simpa using fresh⟩, fault⟩, reported⟩
      · simp only [names, List.map_nil] at read
        simp [resolve, seen, read, failed, bind, Except.bind]
      · rw [entries, split, List.append_assoc]
  -- The first fault of the path is the first of all.
  · refine Or.inr ⟨error, inside, faulty, ?_, ⟨⟨after ++ tree.queryEntries, ?_⟩, sound,
      by simpa using fault⟩, by simpa using reported⟩
    · simp only [names, List.map_nil] at failed
      simp [resolve, failed, bind, Except.bind]
    · rw [entries, split, List.append_assoc, List.cons_append]

/-- An entry is copied to one parameter. -/
theorem copied_unique : Relator.RightUnique Copied := by
  intro entry param other first second
  -- A tag names one type only.
  have type : param.type = other.type := by
    have same := ParamType.ofTag?_eq_some_iff.mpr (first.type.trans second.type.symm)
    rw [ParamType.ofTag?_eq_some_iff.mpr rfl] at same
    exact (Option.some.inj same).symm
  have name := first.name.trans second.name.symm
  have source := first.source.trans second.source.symm
  have default := first.default.trans second.default.symm
  cases param
  cases other
  simp only at name source type default
  rw [name, source, type, default]

/-- A tree is resolved exactly when it is well declared, and then its parameters are its
declarations in order; otherwise the error is that of the first declaration with a fault. -/
theorem TemplateTree.resolve_outcome (tree : TemplateTree) :
    ((∃ params, tree.resolve = .ok params) ↔ WellDeclared tree.entries) ∧
    (∀ params, tree.resolve = .ok params ↔ WellDeclared tree.entries ∧
      List.Forall₂ Copied tree.pathEntries params.path ∧
      List.Forall₂ Copied tree.queryEntries params.query) ∧
    (∀ error, tree.resolve = .error error ↔
      ∃ before faulty, FirstFault tree.entries before faulty ∧ Reports before faulty error) := by
  -- Well declared entries have no fault.
  have declared : Sound [] tree.entries ↔ WellDeclared tree.entries := by
    rw [sound_iff]
    simp [words, names]
  rw [← declared]
  rcases tree.resolve_cases with ⟨params, read, sound, path, query⟩ |
    ⟨error, before, faulty, failed, first, reported⟩
  -- Without a fault there is no first one.
  · refine ⟨by simp [read, sound], fun others => ?_, fun error => ?_⟩
    · rw [read, Except.ok.injEq]
      constructor
      · rintro rfl
        exact ⟨sound, path, query⟩
      · rintro ⟨-, otherPath, otherQuery⟩
        have samePath := copied_unique.forall₂ path otherPath
        have sameQuery := copied_unique.forall₂ query otherQuery
        cases params
        cases others
        simp only at samePath sameQuery
        rw [samePath, sameQuery]
    · constructor
      · intro failed
        rw [read] at failed
        cases failed
      · rintro ⟨before, faulty, first, -⟩
        exact absurd sound first.not_sound
  -- There is only one first fault, and it has only one error.
  · have unsound := first.not_sound
    refine ⟨by simp [failed, unsound], fun params => by simp [failed, unsound], fun other => ?_⟩
    rw [failed, Except.error.injEq]
    constructor
    · rintro rfl
      exact ⟨before, faulty, first, reported⟩
    · rintro ⟨others, another, second, reportedOther⟩
      obtain ⟨rfl, rfl⟩ := first.unique second
      exact reported.unique reportedOther

/-! What the parameters of a tree are. -/

/-- The parameters of a tree are its declarations, which are well declared. -/
theorem TemplateTree.copied_of_resolve {tree : TemplateTree} {params : ParamList}
    (resolved : tree.resolve = .ok params) :
    WellDeclared tree.entries ∧ List.Forall₂ Copied tree.pathEntries params.path ∧
      List.Forall₂ Copied tree.queryEntries params.query := by
  -- Of the two cases, the one with an error is none.
  rcases tree.resolve_cases with ⟨others, read, sound, path, query⟩ |
    ⟨error, before, faulty, failed, -⟩
  · rw [resolved, Except.ok.injEq] at read
    subst read
    exact ⟨(sound_iff.mp sound).1, path, query⟩
  · rw [resolved] at failed
    cases failed

/-- The error of a tree is that of its first fault. -/
theorem TemplateTree.firstFault_of_resolve {tree : TemplateTree} {error : TemplateError}
    (failed : tree.resolve = .error error) :
    ∃ before faulty, FirstFault tree.entries before faulty ∧ Reports before faulty error := by
  -- Of the two cases, the one with parameters is none.
  rcases tree.resolve_cases with ⟨params, read, -⟩ | ⟨other, before, faulty, reported, found⟩
  · rw [failed] at read
    cases read
  · rw [failed, Except.error.injEq] at reported
    exact ⟨before, faulty, reported ▸ found⟩

/-- A tree that is well declared gives the parameters that are copied from it. -/
theorem TemplateTree.resolve_of_copied {tree : TemplateTree} {params : ParamList}
    (declared : WellDeclared tree.entries) (path : List.Forall₂ Copied tree.pathEntries params.path)
    (query : List.Forall₂ Copied tree.queryEntries params.query) : tree.resolve = .ok params := by
  -- Resolving has one outcome, so it is enough to exclude the others.
  have sound : Sound [] tree.entries := sound_nil_iff.mpr declared
  rcases tree.resolve_cases with ⟨others, read, -, otherPath, otherQuery⟩ |
    ⟨error, before, faulty, -, first, -⟩
  -- The entries are copied to one list of parameters only.
  · have samePath := copied_unique.forall₂ path otherPath
    have sameQuery := copied_unique.forall₂ query otherQuery
    cases params
    cases others
    simp only at samePath sameQuery
    rw [read, samePath, sameQuery]
  · exact absurd sound first.not_sound

/-- A tree with a fault gives the error of the first one. -/
theorem TemplateTree.resolve_of_firstFault {tree : TemplateTree} {before : List Entry}
    {faulty : Entry} {error : TemplateError} (first : FirstFault tree.entries before faulty)
    (reported : Reports before faulty error) : tree.resolve = .error error := by
  -- The tree is not resolved, so it has a first fault, and that is this one.
  rcases tree.resolve_cases with ⟨params, -, sound, -⟩ |
    ⟨other, others, another, failed, second, reportedOther⟩
  · exact absurd sound first.not_sound
  -- No two entries are the first with a fault.
  · obtain ⟨rfl, rfl⟩ := first.unique second
    rw [failed, reported.unique reportedOther]

/-- Copies have the names of what they are copied from. -/
theorem names_of_copied {entries : List Entry} {params : List Param}
    (copied : List.Forall₂ Copied entries params) : params.map Param.name = words entries := by
  -- Entry by entry, a copy keeps the name.
  induction copied with
  | nil => rfl
  | cons copy _ ih => exact congrArg₂ List.cons copy.name ih

/-- A template has parameters when its tree has. -/
theorem parseParams_eq_ok_iff {template : String} {params : ParamList} :
    parseParams template = .ok params ↔
      ∃ tree, parseTree template = .ok tree ∧ tree.resolve = .ok params := by
  -- Parameters are read in two steps, and both must succeed.
  unfold parseParams
  cases parseTree template <;> simp [bind, Except.bind]

/-- A template has no parameters because it has no path, because it has no tree, or because its tree
has a fault. -/
theorem parseParams_error_cases {template : String} {error : TemplateError}
    (failed : parseParams template = .error error) :
    error = .noPath ∨
      (∃ cause, parseTree template = .error (.malformed cause) ∧ error = .malformed cause) ∨
      ∃ tree, parseTree template = .ok tree ∧ tree.resolve = .error error := by
  unfold parseParams at failed
  cases read : parseTree template with
  | ok tree => exact Or.inr (Or.inr ⟨tree, rfl, by simpa [read, bind, Except.bind] using failed⟩)
  | error other =>
    have same : other = error := by simpa [read, bind, Except.bind] using failed
    subst same
    -- Reading itself fails in two ways only.
    unfold parseTree at read
    split at read
    · exact Or.inl (Except.error.inj read).symm
    · split at read
      · cases read
      · exact Or.inr (Or.inl ⟨_, by rw [(Except.error.inj read)], (Except.error.inj read).symm⟩)

/-- The parameters of a template are those of its tree. -/
theorem resolve_of_parseParams {template : String} {tree : TemplateTree} {params : ParamList}
    (accepted : parseParams template = .ok params) (read : parseTree template = .ok tree) :
    tree.resolve = .ok params := by
  obtain ⟨again, reread, resolved⟩ := parseParams_eq_ok_iff.mp accepted
  -- A template has one tree.
  rw [read, Except.ok.injEq] at reread
  exact reread ▸ resolved

/-- The names of the parameters of a tree are identifiers. -/
theorem isIdentifier_of_resolve {tree : TemplateTree} {params : ParamList}
    (resolved : tree.resolve = .ok params) {param : Param} (member : param ∈ params.all) :
    isIdentifier param.name = true := by
  obtain ⟨declared, path, query⟩ := TemplateTree.copied_of_resolve resolved
  -- The name is copied from an entry.
  have all : params.all.map Param.name = words tree.entries :=
    names_of_copied (List.rel_append path query)
  have copied : param.name ∈ words tree.entries := all ▸ List.mem_map_of_mem member
  simp only [words, names, List.mem_map] at copied
  obtain ⟨name, ⟨entry, inside, rfl⟩, same⟩ := copied
  rw [← same]
  exact isIdentifier_iff.mpr (declared.proper entry inside)

/-- The names of the parameters of a template are identifiers. -/
theorem isIdentifier_of_parseParams {template : String} {params : ParamList}
    (parsed : parseParams template = .ok params) {param : Param} (member : param ∈ params.all) :
    isIdentifier param.name = true := by
  -- The parameters are those of the tree.
  obtain ⟨tree, -, resolved⟩ := parseParams_eq_ok_iff.mp parsed
  exact isIdentifier_of_resolve resolved member

end TypedRoutes

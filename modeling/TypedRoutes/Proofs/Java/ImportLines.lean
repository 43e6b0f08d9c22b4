import TypedRoutes.Proofs.Java.Imports
import TypedRoutes.Proofs.Text.ByteOrder
import TypedRoutes.Proofs.Text.Split

/-! The import lines of a file: their order, and the simple names of the classes. -/

namespace TypedRoutes.Java

/-- The line that imports a class. -/
def importLine (name : String) : String :=
  "import " ++ name ++ ";"

/-- The name of a class without its package. -/
def simpleName (name : String) : String :=
  (partsOf '.' name).getLastD ""

/-- A text is a name, or goes on from it with a character that comes before the semicolon. Of those
that may stand in names with dots these are the point and the digits. -/
def GoesOnFrom (name text : String) : Prop :=
  ∃ rest, text = name ++ rest ∧ ∀ c ∈ rest.toList.head?, c < ';'

/-- The simple names of the classes that the code for a parameter needs. -/
def simpleNamesFor (param : Param) : List String :=
  (typeNames param.type).parser :: if param.type = .timestamp then ["Instant"] else []

/-! Simple names. -/

/-- A class in a package has its last part as its simple name. -/
theorem simpleName_dot (package : String) {simple : String} (free : '.' ∉ simple.toList) :
    simpleName (package ++ "." ++ simple) = simple := by
  -- The class is the last part.
  rw [simpleName, partsOf_dot, partsOf_of_not_mem free, List.getLastD_concat]

/-- The classes in the package of the request parsers have names without points. -/
theorem simpleName_runtime (runtime : String) {simple : String} (listed : simple ∈ runtimeClasses) :
    simpleName (runtime ++ "." ++ simple) = simple := by
  have free : ∀ simple ∈ runtimeClasses, '.' ∉ simple.toList := by decide
  exact simpleName_dot runtime (free simple listed)

/-- The classes for a parameter have the simple names that its code uses. -/
theorem map_simpleName_classesFor (runtime : String) (param : Param) :
    (classesFor runtime param).map simpleName = simpleNamesFor param := by
  -- The class of the values is there for timestamps only.
  have instant : simpleName "java.time.Instant" = "Instant" := by decide +kernel
  have parser : simpleName (runtime ++ "." ++ (typeNames param.type).parser) =
      (typeNames param.type).parser :=
    simpleName_runtime runtime (by cases param.type <;> decide)
  unfold classesFor simpleNamesFor
  cases type : param.type <;> simpa [type, instant] using parser

/-- Without parameters only the class that marks generated code is imported. -/
theorem importList_nil (runtime : String) :
    importList runtime [] = ["javax.annotation.processing.Generated"] :=
  rfl

/-- The simple names of what is imported, where there are parameters. -/
theorem mem_map_simpleName_iff {runtime simple : String} {params : List Param}
    (filled : params ≠ []) : simple ∈ (importList runtime params).map simpleName ↔
      simple ∈ ["Generated", "RoutingContext", "RequestParser"] ∨
        ∃ param ∈ params, simple ∈ simpleNamesFor param := by
  -- The sorted list holds the needed classes, so the order does not matter here.
  have same : simple ∈ (importList runtime params).map simpleName ↔
      simple ∈ (neededClasses runtime params).map simpleName := by
    simp only [List.mem_map, mem_importList]
  have fixed : simpleName "javax.annotation.processing.Generated" = "Generated" ∧
      simpleName "io.vertx.ext.web.RoutingContext" = "RoutingContext" := by decide +kernel
  have parser : simpleName (runtime ++ ".RequestParser") = "RequestParser" := by
    have dotted := simpleName_runtime runtime (by decide : "RequestParser" ∈ runtimeClasses)
    rwa [String.append_assoc] at dotted
  rw [same, neededClasses]
  simp only [List.isEmpty_iff, filled, if_false, List.map_append, List.map_cons, List.map_nil,
    List.map_flatMap, map_simpleName_classesFor, fixed, parser, List.mem_append, List.mem_flatMap,
    List.mem_cons, List.not_mem_nil, or_false]

/-- A class is told by its simple name among those that are imported. -/
theorem simpleName_injOn {runtime name other : String} {params : List Param}
    (member : name ∈ importList runtime params) (member' : other ∈ importList runtime params)
    (same : simpleName name = simpleName other) : name = other := by
  have fixed : ∀ name ∈ fixedClasses, ∀ other ∈ fixedClasses,
      simpleName name = simpleName other → name = other := by decide +kernel
  have apart : ∀ name ∈ fixedClasses, simpleName name ∉ runtimeClasses := by decide +kernel
  -- Both are classes of one kind, and in the package of the request parsers only the last part
  -- differs.
  rcases cases_of_mem_importList member with known | ⟨-, simple, listed, rfl⟩ <;>
    rcases cases_of_mem_importList member' with known' | ⟨-, simple', listed', rfl⟩
  · exact fixed _ known _ known' same
  · rw [simpleName_runtime runtime listed'] at same
    exact absurd (same ▸ listed') (apart _ known)
  · rw [simpleName_runtime runtime listed] at same
    exact absurd (same ▸ listed) (apart _ known')
  · rw [simpleName_runtime runtime listed, simpleName_runtime runtime listed'] at same
    rw [same]

/-! The order of names. -/

/-- A text is inserted into a sorted list in its place. -/
theorem pairwise_insertSorted {text : String} {texts : List String}
    (sorted : texts.Pairwise (· < ·)) : (insertSorted text texts).Pairwise (· < ·) := by
  -- The induction is on the list: the text stands in front of the head, at it, or behind it.
  induction texts with
  | nil => exact List.pairwise_singleton _ _
  | cons head texts ih =>
    obtain ⟨first, later⟩ := List.pairwise_cons.mp sorted
    unfold insertSorted
    split_ifs with less same
    · refine List.pairwise_cons.mpr ⟨fun other member => ?_, sorted⟩
      rcases List.mem_cons.mp member with rfl | member
      · exact less
      · exact lt_trans less (first other member)
    · exact sorted
    -- The text comes behind the head, as all others do.
    · refine List.pairwise_cons.mpr ⟨fun other member => ?_, ih later⟩
      rcases mem_insertSorted.mp member with rfl | member
      · exact lt_of_le_of_ne (not_lt.mp less) (Ne.symm same)
      · exact first other member

/-- What is imported is sorted. -/
theorem pairwise_importList (runtime : String) (params : List Param) :
    (importList runtime params).Pairwise (· < ·) := by
  -- One class is inserted at a time.
  unfold importList
  induction neededClasses runtime params with
  | nil => exact .nil
  | cons first classes ih => exact pairwise_insertSorted ih

/-- No two imports have the same simple name. -/
theorem nodup_simpleNames (runtime : String) (params : List Param) :
    ((importList runtime params).map simpleName).Nodup := by
  -- The list increases, and no two of its names share a simple name.
  rw [List.Nodup, List.pairwise_map]
  exact (pairwise_importList runtime params).imp_of_mem fun member member' less same =>
    ne_of_lt less (simpleName_injOn member member' same)

/-! The order of lines. -/

/-- Lines are ordered as the names are, unless the greater name goes on from the smaller one with a
character before the semicolon. -/
theorem importLine_lt_iff {name other : String} (less : name < other) :
    importLine name < importLine other ↔
      ∀ c rest, other.toList = name.toList ++ c :: rest → ';' ≤ c := by
  -- With the semicolon behind each name the lines compare as the names do, up to a prefix.
  have shape (name : String) :
      (importLine name).toList = "import ".toList ++ (name.toList ++ [';']) := by
    simp [importLine]
  rw [← concat_lt_concat_iff (String.lt_iff.mp less), String.lt_iff, shape, shape]
  -- The lines start alike.
  constructor
  · intro lines
    simpa [List.cons_lt_cons_iff] using lines
  · exact List.append_left_lt

/-- No class of the list goes on from another, and only the package of the request parsers may lead
on from one. -/
theorem goesOnFrom_of_mem_importList {runtime name other : String} {params : List Param}
    (member : name ∈ importList runtime params) (member' : other ∈ importList runtime params)
    {c : Char} {rest : List Char} (shape : other.toList = name.toList ++ c :: rest)
    (before : c < ';') : params ≠ [] ∧ GoesOnFrom name runtime := by
  -- The second class is a fixed one, or it is in the package of the request parsers.
  have letters : ∀ simple ∈ runtimeClasses, simple.toList.all (';' ≤ ·) := by decide +kernel
  rcases cases_of_mem_importList member' with known' | ⟨filled, simple, listed, rfl⟩
  -- None of the fixed classes starts with another or holds the name of a parser.
  · have apart : ∀ name ∈ fixedClasses, ∀ other ∈ fixedClasses,
        name.toList <+: other.toList → name = other := by decide +kernel
    have foreign : ∀ simple ∈ runtimeClasses, ∀ other ∈ fixedClasses,
        ¬ simple.toList <:+: other.toList := by decide +kernel
    rcases cases_of_mem_importList member with known | ⟨-, simple, listed, rfl⟩
    · have same := apart _ known _ known' ⟨_, shape.symm⟩
      simp [same] at shape
    · refine absurd ?_ (foreign simple listed other known')
      exact ⟨(runtime ++ ".").toList, c :: rest, by simp [shape]⟩
  · refine ⟨filled, ?_⟩
    have sides : runtime.toList ++ '.' :: simple.toList = name.toList ++ c :: rest := by
      simpa using shape
    -- The name ends before the point, or the character would be one of the simple name.
    rcases append_eq_append_cons sides with ⟨behind, split⟩ | ⟨front, split, whole⟩
    · refine ⟨String.ofList (c :: behind), ?_, by simpa using before⟩
      exact String.toList_inj.mp (by simpa using split)
    · cases front with
      | nil => exact ⟨"", String.toList_inj.mp (by simpa using split.symm), by simp⟩
      | cons point front =>
        obtain ⟨-, inside⟩ := List.cons.inj whole
        have after := List.all_eq_true.mp (letters simple listed) c (by simp [inside])
        exact absurd before (not_lt.mpr (of_decide_eq_true after))

/-- The lines increase in the order of their bytes, unless the package of the request parsers is
called like an imported class, or goes on from it with a character before the semicolon. -/
theorem pairwise_importLines_iff {runtime : String} {params : List Param} :
    ((importList runtime params).map importLine).Pairwise (bytesOf · < bytesOf ·) ↔
      params = [] ∨ ∀ name ∈ importList runtime params, ¬ GoesOnFrom name runtime := by
  rw [List.pairwise_map]
  simp only [bytesOf_lt_iff]
  constructor
  · intro increasing
    refine or_iff_not_imp_left.mpr fun filled name member goes => ?_
    obtain ⟨rest, package, before⟩ := goes
    have parser : runtime ++ ".RequestParser" ∈ importList runtime params := by
      simp [mem_importList, neededClasses, filled]
    -- The class that reads requests goes on from the name with the same character, or with a point.
    have shape : ∃ c behind, (runtime ++ ".RequestParser").toList = name.toList ++ c :: behind ∧
        c < ';' := by
      rw [package]
      cases text : rest.toList with
      | nil => exact ⟨'.', "RequestParser".toList, by simp [text], by decide⟩
      | cons c behind =>
        exact ⟨c, behind ++ ".RequestParser".toList, by simp [text], before c (by simp [text])⟩
    obtain ⟨c, behind, shape, small⟩ := shape
    have less : name < runtime ++ ".RequestParser" := by
      have longer := @List.append_left_lt _ _ name.toList _ _ (List.nil_lt_cons c behind)
      rwa [List.append_nil, ← shape, ← String.lt_iff] at longer
    have line := rel_of_pairwise_lt (pairwise_importList runtime params) increasing member parser
      less
    exact absurd small (not_lt.mpr ((importLine_lt_iff less).mp line c behind shape))
  -- A pair out of order would be a name that the package goes on from.
  · intro clear
    refine (pairwise_importList runtime params).imp_of_mem fun {name other} member member' less => ?_
    refine (importLine_lt_iff less).mpr fun c rest shape => ?_
    by_contra before
    obtain ⟨filled, goes⟩ := goesOnFrom_of_mem_importList member member' shape (not_le.mp before)
    exact clear.elim filled fun free => free name member goes

end TypedRoutes.Java

import Mathlib.Data.List.Perm.Basic
import TypedRoutes.Java.Unit
import TypedRoutes.Proofs.Java.Statement

/-! The imports of a file, collected parameter by parameter with a look-up of each type: no look-up
fails, and the order of the parameters does not matter. -/

namespace TypedRoutes.Java

/-- The classes that the code for a parameter needs. -/
def classesFor (runtime : String) (param : Param) : List String :=
  let parser := runtime ++ "." ++ (typeNames param.type).parser
  match param.type with
  | .timestamp => [parser, "java.time.Instant"]
  | _ => [parser]

/-- The classes that a file for some parameters needs, in any order. -/
def neededClasses (runtime : String) (params : List Param) : List String :=
  let always := ["javax.annotation.processing.Generated"]
  if params.isEmpty then always
  else
    always ++ ["io.vertx.ext.web.RoutingContext", runtime ++ ".RequestParser"]
      ++ params.flatMap (classesFor runtime)

/-- The needed classes, each once and in increasing order. -/
def importList (runtime : String) (params : List Param) : List String :=
  (neededClasses runtime params).foldr insertSorted []

/-! What is imported. -/

/-- Sorting inserts the text and nothing else. -/
theorem mem_insertSorted {text other : String} {texts : List String} :
    other ∈ insertSorted text texts ↔ other = text ∨ other ∈ texts := by
  -- The induction is on the sorted texts, as the insertion goes through them.
  induction texts with
  | nil => simp [insertSorted]
  | cons head texts ih =>
    unfold insertSorted
    split_ifs with less same
    · simp
    -- A text that is there stays where it is.
    · rw [same]
      simp
    · rw [List.mem_cons, List.mem_cons, ih]
      exact or_left_comm

/-- A class is imported exactly if it is needed. -/
theorem mem_importList {runtime name : String} {params : List Param} :
    name ∈ importList runtime params ↔ name ∈ neededClasses runtime params := by
  unfold importList
  -- The list is the needed classes, inserted one behind the other.
  induction neededClasses runtime params with
  | nil => simp
  | cons first classes ih => rw [List.foldr_cons, mem_insertSorted, ih, List.mem_cons]

/-- The classes that are imported from packages of their own. -/
def fixedClasses : List String :=
  ["javax.annotation.processing.Generated", "io.vertx.ext.web.RoutingContext", "java.time.Instant"]

/-- The classes that may be imported from the package of the request parsers. -/
def runtimeClasses : List String :=
  "RequestParser" :: ParamType.all.map fun type => (typeNames type).parser

/-- What is imported is one of a few classes, and without parameters none of them is in the package
of the request parsers. -/
theorem cases_of_mem_importList {runtime name : String} {params : List Param}
    (member : name ∈ importList runtime params) : name ∈ fixedClasses ∨
      params ≠ [] ∧ ∃ simple ∈ runtimeClasses, name = runtime ++ "." ++ simple := by
  rw [mem_importList, neededClasses] at member
  -- The class that marks generated code is the only one that is always there.
  by_cases empty : params = []
  · simp only [empty, List.isEmpty_nil, if_true, List.mem_singleton] at member
    exact Or.inl (by simp [fixedClasses, member])
  · simp only [List.isEmpty_iff, empty, if_false, List.mem_append, List.mem_cons,
      List.not_mem_nil, or_false, List.mem_flatMap] at member
    rcases member with (rfl | rfl | rfl) | ⟨param, -, needed⟩
    · exact Or.inl (by simp [fixedClasses])
    · exact Or.inl (by simp [fixedClasses])
    · exact Or.inr ⟨empty, "RequestParser", by simp [runtimeClasses], by simp [String.append_assoc]⟩
    -- Only the parser of the type is in the package of the request parsers.
    · have listed : (typeNames param.type).parser ∈ runtimeClasses := by
        cases param.type <;> decide
      unfold classesFor at needed
      dsimp only at needed
      split at needed
      · simp only [List.mem_cons, List.not_mem_nil, or_false] at needed
        rcases needed with rfl | rfl
        · exact Or.inr ⟨empty, _, listed, rfl⟩
        · exact Or.inl (by simp [fixedClasses])
      · exact Or.inr ⟨empty, _, listed, by simpa using needed⟩

/-! How imports are collected. -/

/-- Two texts may be inserted in either order. -/
theorem insertSorted_comm (first second : String) (texts : List String) :
    insertSorted first (insertSorted second texts) =
      insertSorted second (insertSorted first texts) := by
  -- The smaller text ends up in front, and equal ones are inserted once.
  induction texts with
  | nil =>
    simp only [insertSorted]
    grind [String.lt_asymm, String.le_antisymm, String.not_lt]
  -- Both texts are compared with the head, and behind it the induction goes on.
  | cons head texts ih =>
    simp only [insertSorted]
    split_ifs <;> simp only [insertSorted] <;>
      grind [String.lt_trans, String.lt_asymm, String.le_antisymm, String.not_lt]

instance : LeftCommutative insertSorted :=
  ⟨insertSorted_comm⟩

/-- A parameter adds the classes that its code needs. -/
theorem addImports_eq (runtime : String) (imports : List String) (param : Param) :
    addImports runtime imports param =
      .ok ((classesFor runtime param).foldr insertSorted imports) := by
  -- The look-up is known to succeed, so only the classes are left.
  rw [addImports, lookUpNames_eq]
  obtain ⟨name, source, type, default⟩ := param
  cases type with
  -- The class of the values comes behind the class that reads them.
  | timestamp => exact congrArg Except.ok (insertSorted_comm _ _ imports)
  | _ => rfl

/-- Parameters add the classes that the code for all of them needs. -/
theorem foldlM_addImports (runtime : String) (imports : List String) (params : List Param) :
    params.foldlM (addImports runtime) imports =
      .ok ((params.flatMap (classesFor runtime)).foldr insertSorted imports) := by
  -- The induction is on the parameters, where the collected classes may be any.
  induction params generalizing imports with
  | nil => rfl
  | cons param params ih =>
    rw [List.foldlM_cons, addImports_eq]
    show params.foldlM (addImports runtime) _ = _
    -- What the first parameter needs is inserted first here and last there.
    rw [ih, ← List.foldr_append, List.flatMap_cons]
    exact congrArg Except.ok (List.perm_append_comm.foldr_eq imports)

/-- Nothing fails when imports are collected, and they are those of the file. -/
theorem collectImports_eq (runtime : String) (params : List Param) :
    collectImports runtime params = .ok (importList runtime params) := by
  -- With parameters or without, the classes are the needed ones in some order.
  by_cases empty : params.isEmpty
  · simp [collectImports, importList, neededClasses, empty]
  · simp only [collectImports, importList, neededClasses, empty, Bool.false_eq_true, if_false]
    -- The classes for all parameters are inserted first here and last there, in another order.
    have order : (params.flatMap (classesFor runtime) ++ [runtime ++ ".RequestParser",
        "io.vertx.ext.web.RoutingContext", "javax.annotation.processing.Generated"]).Perm
        (["javax.annotation.processing.Generated"] ++ ["io.vertx.ext.web.RoutingContext",
          runtime ++ ".RequestParser"] ++ params.flatMap (classesFor runtime)) :=
      List.perm_append_comm.trans (List.Perm.append_right _ (List.reverse_perm [_, _, _]))
    rw [foldlM_addImports, ← order.foldr_eq [], List.foldr_append]
    rfl

end TypedRoutes.Java

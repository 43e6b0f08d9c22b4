import TypedRoutes.Proofs.Java.NamedClasses

/-! What the names in the code of a method stand for: each declares a variable, refers to one that
stands before it, or is the class on which a method is called. -/

namespace TypedRoutes.Java

/-- What a name does in the code of a method. -/
inductive Mention where
  /-- A variable is declared. -/
  | declares (name : String)
  /-- A variable is read. -/
  | reads (name : String)
  /-- A method is called on a variable, or on a class if no variable has the name. -/
  | calls (name : String)
  deriving DecidableEq

namespace Mention

/-- The variable that is declared. -/
def declared? : Mention → Option String
  | declares name => some name
  | _ => none

/-- The name of what was declared elsewhere. -/
def used? : Mention → Option String
  | declares _ => none
  | reads name | calls name => some name

end Mention

/-- Whether a lexeme is a name. -/
def isNamed : Option Lexeme → Bool
  | some (.identifier _) => true
  | _ => false

/-- What a name does between two lexemes. Behind a point it is a member, behind `new` and in front
of another name it is a type, and in front of a bracket it is a method. -/
def mention? (before : Option Lexeme) (name : String) (after : Option Lexeme) : Option Mention :=
  if before = some (.symbol ".") ∨ before = some (.keyword "new") then none
  else if isNamed after ∨ after = some (.symbol "(") then none
  else if isNamed before then some (.declares name)
  else if after = some (.symbol ".") then some (.calls name)
  else some (.reads name)

/-- What the names in some code do, in their order; `before` is the lexeme in front of the code. -/
def mentions (before : Option Lexeme) : List Lexeme → List Mention
  | [] => []
  | .identifier name :: rest =>
    (mention? before name rest.head?).toList ++ mentions (some (.identifier name)) rest
  | lexeme :: rest => mentions (some lexeme) rest

/-! Code is cut at its separators. -/

/-- A symbol other than a point starts anew what stands behind it. -/
theorem mentions_behind {mark : String} (other : mark ≠ ".") (code : List Lexeme) :
    mentions (some (.symbol mark)) code = mentions none code := by
  -- Only the first name looks at the symbol, and the symbol is no point.
  cases code with
  | nil => rfl
  | cons first rest => cases first <;> simp [mentions, mention?, isNamed, other]

/-- What stands in front of a symbol does not depend on what stands behind it. -/
theorem mentions_append {before : Option Lexeme} (front back : List Lexeme) {mark : String}
    (other : mark ≠ ".") : mentions before (front ++ .symbol mark :: back) =
      mentions before (front ++ [.symbol mark]) ++ mentions none back := by
  -- A name only depends on its neighbours, and the symbol is the last of them.
  induction front generalizing before with
  | nil => exact mentions_behind other back
  | cons first front ih =>
    have next : (front ++ .symbol mark :: back).head? = (front ++ [Lexeme.symbol mark]).head? := by
      cases front <;> rfl
    cases first with
    | identifier name =>
      rw [List.cons_append, List.cons_append, mentions, mentions, next, ih, List.append_assoc]
    | _ => exact ih

/-- Lines that end with separators are looked at one by one. -/
theorem mentions_flatten {lines : List (List Lexeme)} (ended : ∀ line ∈ lines, EndsApart line) :
    mentions none lines.flatten = lines.flatMap (mentions none) := by
  -- The symbol at the end of a line keeps its names apart from those of the next.
  induction lines with
  | nil => rfl
  | cons line lines ih =>
    obtain ⟨mark, apart, last⟩ := ended line (by simp)
    obtain ⟨front, rfl⟩ := List.getLast?_eq_some_iff.mp last
    have other : mark ≠ "." := by
      rintro rfl
      exact apart (by decide)
    rw [List.flatten_cons, List.flatMap_cons, List.append_assoc, List.singleton_append,
      mentions_append front _ other, ih fun next member => ended next (by simp [member])]

/-! Declarations and uses. -/

/-- Whether a lexeme opens or closes a block. -/
def isBlockMark (lexeme : Lexeme) : Bool :=
  lexeme = .symbol "\x7b" || lexeme = .symbol "\x7d"

/-- Code that is a head and one block, so what is declared in it is known up to its end. -/
def IsOneBlock (code : List Lexeme) : Prop :=
  ∃ head body, code = head ++ .symbol "\x7b" :: (body ++ [.symbol "\x7d"]) ∧
    ∀ lexeme ∈ head ++ body, isBlockMark lexeme = false

/-- The variables that are declared. -/
def declaredIn (found : List Mention) : List String :=
  found.filterMap Mention.declared?

/-- Names of variables are used where they are known: from in front of the code, or from a
declaration in it. -/
inductive Scoped (locals : List String) : List String → List Mention → Prop where
  | done {known : List String} : Scoped locals known []
  | declares {known : List String} {name : String} {rest : List Mention}
    (behind : Scoped locals (name :: known) rest) : Scoped locals known (.declares name :: rest)
  | uses {known : List String} {use : Mention} {name : String} {rest : List Mention}
    (used : use.used? = some name) (bound : name ∈ locals → name ∈ known)
    (behind : Scoped locals known rest) : Scoped locals known (use :: rest)

namespace Scoped

variable {locals known more : List String} {found later : List Mention}

/-- It does no harm if more is known. -/
theorem mono (inScope : Scoped locals known found) (wider : known ⊆ more) :
    Scoped locals more found := by
  -- A declaration adds the same name to what is known with more and without.
  induction inScope generalizing more with
  | done => exact .done
  | declares _ ih => exact .declares (ih (List.cons_subset_cons _ wider))
  | uses used bound _ ih => exact .uses used (fun local_name => wider (bound local_name)) (ih wider)

/-- Code behind other code knows what was declared there. -/
theorem append (first : Scoped locals known found) (second : Scoped locals more later)
    (shared : more ⊆ declaredIn found ++ known) : Scoped locals known (found ++ later) := by
  -- The first code is passed name by name; where it ends, its declarations are known.
  induction first with
  | done => exact second.mono shared
  | declares _ ih =>
    refine .declares (ih (List.Subset.trans shared ?_))
    -- What is declared first is now known instead.
    intro name member
    simp only [declaredIn, List.filterMap_cons, Mention.declared?, List.cons_append,
      List.mem_cons, List.mem_append] at member ⊢
    tauto
  | @uses known use name rest used bound _ ih =>
    refine .uses used bound (ih (List.Subset.trans shared ?_))
    cases use with
    | declares other => cases used
    | _ => exact List.Subset.refl _

/-- Code without declarations is looked at one use after the other. -/
theorem of_uses (each : ∀ use ∈ found, ∃ name, use.used? = some name ∧
    (name ∈ locals → name ∈ known)) : Scoped locals known found := by
  -- The induction is on the uses, each of which leaves what is known as it is.
  induction found with
  | nil => exact .done
  | cons use found ih =>
    obtain ⟨name, used, bound⟩ := each use (by simp)
    exact .uses used bound (ih fun other member => each other (by simp [member]))

/-- Groups that know the same stand side by side. -/
theorem flatMap {α : Type} {items : List α} {group : α → List Mention}
    (each : ∀ item ∈ items, Scoped locals known (group item)) :
    Scoped locals known (items.flatMap group) := by
  -- The induction is on the items; a group adds to what is known, which does no harm.
  induction items with
  | nil => exact .done
  | cons item items ih =>
    exact (each item (by simp)).append (ih fun other member => each other (by simp [member]))
      (List.subset_append_right _ _)

/-- A use has its declaration in front of it, if the variable was not known before. -/
theorem declared_before (inScope : Scoped locals known found) {before after : List Mention}
    {use : Mention} {name : String} (split : found = before ++ use :: after)
    (used : use.used? = some name) (inside : name ∈ locals) :
    name ∈ known ∨ .declares name ∈ before := by
  -- The code in front of the use is passed one name after the other.
  induction before generalizing known found with
  | nil =>
    subst split
    cases inScope with
    | declares => cases used
    | uses own bound =>
      obtain rfl := Option.some.inj (own.symm.trans used)
      exact Or.inl (bound inside)
  | cons first before ih =>
    subst split
    cases inScope with
    | declares behind =>
      rcases ih behind rfl with known | earlier
      · rcases List.mem_cons.mp known with rfl | known
        · exact Or.inr (by simp)
        · exact Or.inl known
      · exact Or.inr (by simp [earlier])
    | uses _ _ behind => exact (ih behind rfl).imp_right (List.mem_cons_of_mem first)

end Scoped

/-- A variable that is declared once has no declaration behind the one before a use. -/
theorem not_declared_behind {before after : List Mention} {use : Mention} {name : String}
    (distinct : (declaredIn (before ++ use :: after)).Nodup) (earlier : .declares name ∈ before) :
    .declares name ∉ after := by
  -- A second declaration would give the same name twice.
  intro again
  have declared {part : List Mention} (member : .declares name ∈ part) :
      name ∈ declaredIn part := List.mem_filterMap.mpr ⟨_, member, rfl⟩
  rw [declaredIn, List.filterMap_append] at distinct
  have later : name ∈ declaredIn (use :: after) := declared (List.mem_cons_of_mem use again)
  exact (List.nodup_append.mp distinct).2.2 name (declared earlier) name later rfl

end TypedRoutes.Java

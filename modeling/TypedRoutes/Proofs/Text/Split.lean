import TypedRoutes.Proofs.Text.Identifier

/-! Texts as parts with separators between them: a text is cut at its separators and nowhere else,
and a dotted name is one whose parts are names. -/

namespace TypedRoutes

/-- A separator between two texts is a boundary between their parts. -/
theorem splitBy_append (separator : Char) (first second : List Char) :
    splitBy separator (first ++ separator :: second) =
      splitBy separator first ++ splitBy separator second := by
  -- The induction goes along the first text up to the separator behind it.
  induction first with
  | nil => simp [splitBy]
  | cons c first ih =>
    by_cases same : c = separator
    · simp [splitBy, same, ih]
    · -- The character goes in front of the first part, which the other parts do not change.
      cases parts : splitBy separator first with
      | nil => exact absurd parts (splitBy_ne_nil separator first)
      | cons part others =>
        rw [parts] at ih
        simp [splitBy, same, ih, parts]

/-- Without a separator there is one part. -/
theorem splitBy_of_not_mem {separator : Char} {text : List Char} (free : separator ∉ text) :
    splitBy separator text = [text] := by
  -- No character ends the only part.
  induction text with
  | nil => rfl
  | cons c text ih =>
    simp only [List.mem_cons, not_or] at free
    simp [splitBy, Ne.symm free.1, ih free.2]

/-! Parts that are texts. -/

/-- The parts of a text between its separators. -/
def partsOf (separator : Char) (text : String) : List String :=
  (splitBy separator text.toList).map String.ofList

/-- A text that is two others with a separator between them has the parts of both. -/
theorem partsOf_eq_append {separator : Char} {text first second : String}
    (shape : text.toList = first.toList ++ separator :: second.toList) :
    partsOf separator text = partsOf separator first ++ partsOf separator second := by
  -- The text is cut at this separator and within the two texts.
  rw [partsOf, shape, splitBy_append, List.map_append]
  rfl

/-- The parts of a name in a package are those of the package and the name. -/
theorem partsOf_dot (package simple : String) :
    partsOf '.' (package ++ "." ++ simple) = partsOf '.' package ++ partsOf '.' simple :=
  partsOf_eq_append (by simp)

/-- A text without separators is its only part. -/
theorem partsOf_of_not_mem {separator : Char} {text : String} (free : separator ∉ text.toList) :
    partsOf separator text = [text] := by
  -- The same holds for its characters.
  simp [partsOf, splitBy_of_not_mem free]

/-- Putting the separators back between the parts gives the text again. -/
theorem intercalate_partsOf (separator : Char) (text : String) :
    (String.singleton separator).intercalate (partsOf separator text) = text := by
  -- The characters are compared, where the separators are single ones.
  apply String.toList_inj.mp
  rw [String.toList_intercalate, partsOf, List.map_map, Function.comp_def]
  simpa using intercalate_splitBy separator text.toList

/-- Texts without separators are the parts of what they are joined to. -/
theorem partsOf_intercalate {separator : Char} {parts : List String} (some : parts ≠ [])
    (free : ∀ part ∈ parts, separator ∉ part.toList) :
    partsOf separator ((String.singleton separator).intercalate parts) = parts := by
  -- Behind the first part there is a separator, unless it is the only one.
  induction parts with
  | nil => exact absurd rfl some
  | cons part rest ih =>
    have alone := partsOf_of_not_mem (free part (by simp))
    cases rest with
    | nil => simpa using alone
    | cons next rest =>
      have later := ih (by simp) fun other member => free other (by simp [member])
      have shape : (part ++ String.singleton separator ++
          (String.singleton separator).intercalate (next :: rest)).toList =
            part.toList ++ separator ::
              ((String.singleton separator).intercalate (next :: rest)).toList := by
        simp only [String.toList_append, String.toList_singleton, List.append_assoc,
          List.singleton_append]
      rw [String.intercalate_cons_cons, partsOf_eq_append shape, alone, later]
      rfl

/-! Dotted names. -/

/-- Names joined by single dots. -/
def IsDottedName (text : String) : Prop :=
  ∃ parts, parts ≠ [] ∧ (∀ part ∈ parts, IsName part) ∧ text = ".".intercalate parts

/-- No separator of words or names may stand in a name. -/
theorem not_mem_of_isName {word : String} (named : IsName word) {c : Char}
    (other : isIdentifierPart c = false) : c ∉ word.toList := by
  -- Otherwise the character would be a part of an identifier.
  intro member
  have part := isIdentifierPart_of_mem (isIdentifier_iff.mpr named) member
  rw [other] at part
  cases part

/-- The parts of a dotted name are the names that it is made of. -/
theorem isName_of_mem_partsOf {text part : String} (dotted : IsDottedName text)
    (member : part ∈ partsOf '.' text) : IsName part := by
  -- No name has a dot of its own, so the parts are the names.
  obtain ⟨parts, some, named, rfl⟩ := dotted
  have free : ∀ part ∈ parts, '.' ∉ part.toList :=
    fun part inside => not_mem_of_isName (named part inside) (by decide)
  have whole : partsOf '.' (".".intercalate parts) = parts := partsOf_intercalate some free
  rw [whole] at member
  exact named part member

/-- The check looks at the parts one by one. -/
theorem isDottedIdentifier_iff_parts {text : String} :
    isDottedIdentifier text = true ↔ ∀ part ∈ partsOf '.' text, IsName part := by
  -- Each part is checked as an identifier.
  simp [isDottedIdentifier, partsOf, isIdentifier_iff]

/-- The check accepts exactly the dotted names. -/
theorem isDottedIdentifier_iff {text : String} :
    isDottedIdentifier text = true ↔ IsDottedName text := by
  rw [isDottedIdentifier_iff_parts]
  constructor
  -- A text is its parts with the dots between them.
  · intro named
    refine ⟨partsOf '.' text, ?_, named, (intercalate_partsOf '.' text).symm⟩
    simp [partsOf, splitBy_ne_nil]
  · intro dotted part member
    exact isName_of_mem_partsOf dotted member

end TypedRoutes

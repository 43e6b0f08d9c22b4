/-! Texts as parts with separators between them, and texts as lines with their ends. -/

namespace TypedRoutes

/-- The parts of a text between its separators; there is always at least one. -/
def splitBy (separator : Char) : List Char → List (List Char)
  | [] => [[]]
  | c :: rest =>
    if c = separator then [] :: splitBy separator rest
    else
      match splitBy separator rest with
      | [] => [[c]]
      | part :: others => (c :: part) :: others

/-- Even the empty text has a part. -/
theorem splitBy_ne_nil (separator : Char) (text : List Char) : splitBy separator text ≠ [] := by
  cases text with
  | nil => simp [splitBy]
  | cons c rest =>
    unfold splitBy
    split
    · simp
    · split <;> simp

/-- Putting the separators back between the parts gives the text again. -/
theorem intercalate_splitBy (separator : Char) (text : List Char) :
    [separator].intercalate (splitBy separator text) = text := by
  -- Every step puts a character in front of the first part, or a separator in front of it.
  induction text with
  | nil => rfl
  | cons c rest ih =>
    unfold splitBy
    cases parts : splitBy separator rest with
    | nil => exact absurd parts (splitBy_ne_nil separator rest)
    | cons part others =>
      rw [parts] at ih
      split
      · rename_i same
        subst same
        cases others <;> simp_all [List.intercalate]
      · cases others <;> simp_all [List.intercalate]

/-- Lines as a text, each with its end. -/
def joinLines (lines : List String) : String :=
  String.join (lines.map (· ++ "\n"))

end TypedRoutes

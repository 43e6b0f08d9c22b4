import TypedRoutes.Proofs.Text.Split

/-! Texts in lines: lines that are written with their ends are read back, and no character of theirs
ends a line. -/

namespace TypedRoutes

/-- The lines of a text in which every line has its end. -/
def linesOf (text : String) : List String :=
  (splitBy '\n' text.toList).dropLast.map String.ofList

/-- A text without line ends. -/
structure OneLine (text : String) : Prop where
  /-- There is no line feed. -/
  lineFeed : '\n' ∉ text.toList
  /-- There is no carriage return. -/
  carriageReturn : '\r' ∉ text.toList

instance (text : String) : Decidable (OneLine text) :=
  decidable_of_iff ('\n' ∉ text.toList ∧ '\r' ∉ text.toList)
    ⟨fun ⟨feed, carriage⟩ => ⟨feed, carriage⟩, fun ⟨feed, carriage⟩ => ⟨feed, carriage⟩⟩

namespace OneLine

/-- Two texts without line ends have none side by side. -/
theorem append {first second : String} (begun : OneLine first) (ended : OneLine second) :
    OneLine (first ++ second) :=
  ⟨by simpa using ⟨begun.lineFeed, ended.lineFeed⟩,
    by simpa using ⟨begun.carriageReturn, ended.carriageReturn⟩⟩

/-- A text has no line end if none of its characters is one. -/
theorem of_forall {text : String} (free : ∀ c ∈ text.toList, c ∉ ['\n', '\r']) : OneLine text :=
  ⟨fun member => free _ member (by decide), fun member => free _ member (by decide)⟩

/-- Texts with separators between them stay on the line of the separators. -/
theorem intercalate {separator : String} (between : OneLine separator) {texts : List String}
    (each : ∀ text ∈ texts, OneLine text) : OneLine (separator.intercalate texts) := by
  -- The induction goes along the texts, and the separators are on one line by themselves.
  induction texts with
  | nil => simpa using (by decide : OneLine "")
  | cons text rest ih =>
    have first := each text (by simp)
    have later := ih fun other member => each other (by simp [member])
    -- The separator stands between the first text and the others, if there are any.
    cases rest with
    | nil => simpa using first
    | cons next rest =>
      rw [String.intercalate_cons_cons]
      exact (first.append between).append later

/-- An identifier stands on one line. -/
theorem identifier {word : String} (named : isIdentifier word = true) : OneLine word := by
  apply of_forall
  -- Neither of the characters that end a line stands in an identifier.
  intro c member ending
  have part := isIdentifierPart_of_mem named member
  simp only [List.mem_cons, List.not_mem_nil, or_false] at ending
  rcases ending with rfl | rfl <;> cases part

/-- Identifiers joined by dots. -/
theorem dotted {name : String} (joined : isDottedIdentifier name = true) : OneLine name := by
  -- The name is made of identifiers with dots between them.
  obtain ⟨parts, -, named, rfl⟩ := isDottedIdentifier_iff.mp joined
  apply intercalate (by decide)
  intro part member
  exact identifier (isIdentifier_iff.mpr (named part member))

end OneLine

/-- Each line is followed by its end. -/
theorem joinLines_cons (line : String) (lines : List String) :
    (joinLines (line :: lines)).toList = line.toList ++ '\n' :: (joinLines lines).toList := by
  simp [joinLines]

/-- Lines are read back. -/
theorem linesOf_joinLines {lines : List String} (each : ∀ line ∈ lines, OneLine line) :
    linesOf (joinLines lines) = lines := by
  -- Behind the last line end there is nothing, so the last part is empty and is left out.
  have parts : splitBy '\n' (joinLines lines).toList = lines.map String.toList ++ [[]] := by
    induction lines with
    | nil => rfl
    -- The first line end is the one behind the first line, which has none of its own.
    | cons line lines ih =>
      have later := ih fun other member => each other (by simp [member])
      rw [joinLines_cons, splitBy_append, splitBy_of_not_mem (each line (by simp)).lineFeed, later]
      rfl
  simp [linesOf, parts, Function.comp_def]

/-- What is written in lines has no carriage return of its own. -/
theorem carriageReturn_joinLines {lines : List String} (each : ∀ line ∈ lines, OneLine line) :
    '\r' ∉ (joinLines lines).toList := by
  -- Neither a line nor the line feed behind it has a carriage return.
  induction lines with
  | nil => decide
  | cons line lines ih =>
    rw [joinLines_cons]
    simpa using ⟨(each line (by simp)).carriageReturn,
      ih fun other member => each other (by simp [member])⟩

/-- The last line has its end as well. -/
theorem joinLines_concat (lines : List String) (line : String) :
    ∃ front, (joinLines (lines ++ [line])).toList = front ++ ['\n'] :=
  ⟨(joinLines lines).toList ++ line.toList, by simp [joinLines]⟩

end TypedRoutes

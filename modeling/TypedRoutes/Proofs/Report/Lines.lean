import TypedRoutes.Proofs.Lists
import TypedRoutes.Report.Lines

/-! Lines of a text and the places of its characters in them: how they are cut, and that the cut and
the places are found. -/

namespace TypedRoutes.Report

/-- The characters that end a line. -/
def lineEnds : List Char :=
  ['\n', '\x0b', '\x0c', '\r', '\x85', '\u2028', '\u2029']

/-- What stands at the end of a line: one such character, or a carriage return and a line feed. -/
inductive LineEnd : List Char → Prop where
  | single (c : Char) (ends : c ∈ lineEnds) : LineEnd [c]
  | pair : LineEnd ['\r', '\n']

/-- A text that is cut into lines. Each has its end, except that the last may lack it. -/
inductive Lined : List Char → List (List Char) → Prop where
  | nil : Lined [] []
  | last (line : List Char) (filled : line ≠ []) (free : ∀ c ∈ line, c ∉ lineEnds) :
    Lined line [line]
  | cons (body ending rest : List Char) (lines : List (List Char))
    (free : ∀ c ∈ body, c ∉ lineEnds) (ends : LineEnd ending)
    (whole : ending = ['\r'] → rest.head? ≠ some '\n') (behind : Lined rest lines) :
    Lined (body ++ (ending ++ rest)) ((body ++ ending) :: lines)

/-- The lines of a text; the empty text is one empty line. -/
def LinesOf (text : List Char) (lines : List (List Char)) : Prop :=
  -- Cutting begins with a line, which is there even for no characters.
  if text = [] then lines = [[]] else Lined text lines

/-- A character offset stands in a line at a column, both counted from one. The end of the text
stands behind the last line. -/
def StandsAt (text : List Char) (offset line column : Nat) : Prop :=
  ∃ earlier current later, LinesOf text (earlier ++ current :: later) ∧
    line = earlier.length + 1 ∧ offset + 1 = earlier.flatten.length + column ∧ 1 ≤ column ∧
    (column ≤ current.length ∨ later = [] ∧ column = current.length + 1)

/-! Cutting. -/

/-- The characters that end a line are the seven that are listed. -/
theorem isLineEnd_iff {c : Char} : isLineEnd c = true ↔ c ∈ lineEnds := by
  -- Characters are compared by their codes.
  have code (other : Char) : c = other ↔ c.toNat = other.toNat := Char.toNat_inj.symm
  simp only [isLineEnd, Bool.or_eq_true, Bool.and_eq_true, decide_eq_true_eq, beq_iff_eq, lineEnds,
    List.mem_cons, List.not_mem_nil, or_false, code]
  show _ ↔ c.toNat = 10 ∨ c.toNat = 11 ∨ c.toNat = 12 ∨ c.toNat = 13 ∨ c.toNat = 133 ∨
    c.toNat = 8232 ∨ c.toNat = 8233
  omega

/-- Lines side by side, each with the offset at which it starts. -/
def placeLines (start : Nat) : List (List Char) → List Line
  | [] => []
  | line :: rest => ⟨start, line⟩ :: placeLines (start + line.length) rest

/-- Lines behind others start where those end. -/
theorem placeLines_append (start : Nat) (first second : List (List Char)) :
    placeLines start (first ++ second) =
      placeLines start first ++ placeLines (start + first.flatten.length) second := by
  -- Every line moves the start of those behind it by its own length.
  induction first generalizing start with
  | nil => simp [placeLines]
  | cons line first ih => simp [placeLines, ih, Nat.add_assoc]

/-- Giving the lines their places adds none and drops none. -/
@[simp] theorem length_placeLines (start : Nat) (lines : List (List Char)) :
    (placeLines start lines).length = lines.length := by
  induction lines generalizing start with
  | nil => rfl
  | cons line lines ih => simp [placeLines, ih]

/-- The lines before an offset start at or before it. -/
theorem start_le_of_mem_placeLines {start : Nat} {lines : List (List Char)} {line : Line}
    (member : line ∈ placeLines start lines) : line.start ≤ start + lines.flatten.length := by
  -- The lines before a line are part of all of them.
  induction lines generalizing start with
  | nil => cases member
  | cons first lines ih =>
    rw [List.flatten_cons, List.length_append]
    rcases List.mem_cons.mp member with rfl | later
    · exact Nat.le_add_right _ _
    · have bound := ih later
      omega

/-- Characters that end no line are gathered. -/
theorem splitLinesFrom_body (start : Nat) (reversed : List Char) {body : List Char}
    (free : ∀ c ∈ body, c ∉ lineEnds) (rest : List Char) :
    splitLinesFrom start reversed (body ++ rest) =
      splitLinesFrom start (body.reverse ++ reversed) rest := by
  -- The characters are gathered in reverse, one by one.
  induction body generalizing reversed with
  | nil => rfl
  | cons c body ih =>
    have other : c ∉ lineEnds := free c (by simp)
    have plain : isLineEnd c = false := by
      rw [Bool.eq_false_iff, ne_eq, isLineEnd_iff]
      exact other
    rw [List.cons_append, splitLinesFrom]
    · rw [plain, ih _ fun d member => free d (by simp [member])]
      simp
    -- In particular it is no carriage return.
    · rintro _ rfl
      exact absurd (by decide) other

/-- The lines that are found are those into which the text is cut. -/
theorem splitLinesFrom_eq {text : List Char} {lines : List (List Char)} (lined : Lined text lines)
    (start : Nat) : splitLinesFrom start [] text = placeLines start lines := by
  -- The induction is on the cut: each line is gathered up to its end, and the rest is cut behind
  -- it.
  induction lined generalizing start with
  | nil => rfl
  | last line filled free =>
    have gathered := splitLinesFrom_body start [] free []
    rw [List.append_nil, List.append_nil] at gathered
    simp [gathered, splitLinesFrom, filled, lineOfReversed, placeLines]
  | cons body ending rest lines free ends whole behind ih =>
    rw [splitLinesFrom_body start [] free, List.append_nil]
    cases ends with
    | single c ends =>
      have stop : isLineEnd c = true := isLineEnd_iff.mpr ends
      rw [List.singleton_append, splitLinesFrom]
      · simp [stop, lineOfReversed, placeLines, ih]
      -- A carriage return before a line feed would end the line with it.
      · rintro behind rfl rfl
        exact absurd rfl (whole rfl)
    | pair => simp [splitLinesFrom, lineOfReversed, placeLines, ih]

/-- Every text can be cut into lines. -/
theorem exists_lined (text : List Char) : ∃ lines, Lined text lines := by
  -- The first line goes up to the first character that ends one.
  induction size : text.length using Nat.strongRecOn generalizing text with
  | ind size ih =>
    subst size
    let free : Char → Bool := fun c => decide (c ∉ lineEnds)
    have whole := List.takeWhile_append_dropWhile (p := free) (l := text)
    have inside : ∀ c ∈ text.takeWhile free, c ∉ lineEnds := fun c member => by
      simpa [free] using List.mem_takeWhile_imp member
    cases left : text.dropWhile free with
    | nil =>
      rw [left, List.append_nil] at whole
      rw [whole] at inside
      by_cases empty : text = []
      · exact ⟨[], empty ▸ .nil⟩
      · exact ⟨[text], .last text empty inside⟩
    | cons c rest =>
      have stop : c ∈ lineEnds := by
        simpa [free] using head?_dropWhile free text c (by simp [left])
      rw [left] at whole
      have shorter : rest.length < text.length := by
        rw [← whole, List.length_append, List.length_cons]
        omega
      by_cases feed : c = '\r' ∧ rest.head? = some '\n'
      -- A carriage return takes the line feed with it.
      · obtain ⟨rfl, next⟩ := feed
        obtain ⟨behind, rfl⟩ := List.head?_eq_some_iff.mp next
        obtain ⟨lines, lined⟩ := ih behind.length (by simp at shorter; omega) behind rfl
        rw [← whole]
        exact ⟨_, .cons _ ['\r', '\n'] behind lines inside .pair (by simp) lined⟩
      · obtain ⟨lines, lined⟩ := ih rest.length shorter rest rfl
        rw [← whole]
        refine ⟨_, .cons _ [c] rest lines inside (.single c stop) ?_ lined⟩
        intro carriage
        obtain rfl : c = '\r' := by simpa using carriage
        exact fun next => feed ⟨rfl, next⟩

/-- Nothing is lost in a cut. -/
theorem Lined.flatten_eq {text : List Char} {lines : List (List Char)} (lined : Lined text lines) :
    lines.flatten = text := by
  -- Each line keeps its end.
  induction lined with
  | nil => rfl
  | last line filled free => simp
  | cons body ending rest lines free ends whole behind ih => simp [ih]

/-- Nothing is lost, in the empty text either. -/
theorem LinesOf.flatten_eq {text : List Char} {lines : List (List Char)}
    (cut : LinesOf text lines) : lines.flatten = text := by
  unfold LinesOf at cut
  split at cut
  · rename_i empty
    simp [cut, empty]
  · exact cut.flatten_eq

/-- A text has lines, at least one. -/
theorem exists_linesOf (text : List Char) : ∃ lines, LinesOf text lines ∧ lines ≠ [] := by
  -- The empty text has its one line by definition, and every other text can be cut.
  by_cases empty : text = []
  · exact ⟨[[]], by simp [LinesOf, empty], by simp⟩
  · obtain ⟨lines, lined⟩ := exists_lined text
    refine ⟨lines, by simpa [LinesOf, empty] using lined, ?_⟩
    rintro rfl
    exact empty lined.flatten_eq.symm

/-- The lines of a text are found in their places. -/
theorem splitLines_eq {text : String} {lines : List (List Char)} (cut : LinesOf text.toList lines) :
    splitLines text = placeLines 0 lines := by
  -- Both treat the empty text apart.
  unfold LinesOf at cut
  unfold splitLines
  split at cut
  · rename_i empty
    have none : text.isEmpty = true := by simpa using String.toList_eq_nil_iff.mp empty
    simp [cut, none, placeLines]
  · rename_i filled
    have some : text.isEmpty = false := by
      simpa using fun empty => filled (String.toList_eq_nil_iff.mpr empty)
    rw [some]
    exact splitLinesFrom_eq cut 0

/-- Lines are told apart by what is placed. -/
theorem placeLines_injective {start : Nat} {lines others : List (List Char)}
    (same : placeLines start lines = placeLines start others) : lines = others := by
  -- Line by line, from the left.
  induction lines generalizing start others with
  | nil =>
    cases others with
    | nil => rfl
    | cons line others => cases same
  | cons line lines ih =>
    cases others with
    | nil => cases same
    | cons other others =>
      simp only [placeLines, List.cons.injEq, Line.mk.injEq, true_and] at same
      obtain ⟨rfl, later⟩ := same
      rw [ih later]

/-- A text is cut in one way. -/
theorem LinesOf.unique {text : List Char} {lines others : List (List Char)}
    (cut : LinesOf text lines) (other : LinesOf text others) : lines = others := by
  -- Both cuts are the one that is found.
  have first : splitLines (String.ofList text) = placeLines 0 lines :=
    splitLines_eq (by simpa using cut)
  have second : splitLines (String.ofList text) = placeLines 0 others :=
    splitLines_eq (by simpa using other)
  exact placeLines_injective (first.symm.trans second)

/-! Places. -/

/-- An offset lies in one of some lines, or at their end. -/
theorem exists_line_at {lines : List (List Char)} (some : lines ≠ []) {offset : Nat}
    (inside : offset ≤ lines.flatten.length) :
    ∃ earlier current later, lines = earlier ++ current :: later ∧
      earlier.flatten.length ≤ offset ∧ (offset < earlier.flatten.length + current.length ∨
        later = [] ∧ offset = earlier.flatten.length + current.length) := by
  -- The offset lies in the first line, or in the others, from the end of the first on.
  induction lines generalizing offset with
  | nil => exact absurd rfl some
  | cons line rest ih =>
    rw [List.flatten_cons, List.length_append] at inside
    by_cases first : offset < line.length
    · exact ⟨[], line, rest, rfl, by simp, Or.inl (by simpa using first)⟩
    · by_cases alone : rest = []
      · refine ⟨[], line, [], by simp [alone], by simp, Or.inr ⟨rfl, ?_⟩⟩
        rw [alone] at inside
        simp at inside ⊢
        omega
      -- The offset is counted from the end of the first line.
      · have behind : offset - line.length ≤ rest.flatten.length := by omega
        obtain ⟨earlier, current, later, rfl, low, high⟩ := ih alone behind
        refine ⟨line :: earlier, current, later, rfl, ?_, ?_⟩
        all_goals rw [List.flatten_cons, List.length_append]
        · omega
        · exact high.imp (by omega) fun ⟨last, ended⟩ => ⟨last, by omega⟩

/-- Every offset of a text, and its end, has a place. -/
theorem exists_standsAt {text : List Char} {offset : Nat} (inside : offset ≤ text.length) :
    ∃ line column, StandsAt text offset line column := by
  obtain ⟨lines, cut, some⟩ := exists_linesOf text
  obtain ⟨earlier, current, later, rfl, low, high⟩ :=
    exists_line_at some (cut.flatten_eq.symm ▸ inside)
  -- The column is counted from the start of the line.
  exact ⟨earlier.length + 1, offset + 1 - earlier.flatten.length, earlier, current, later, cut, rfl,
    by omega, by omega, high.imp (by omega) fun ⟨last, ended⟩ => ⟨last, by omega⟩⟩

/-- No place is outside the text. -/
theorem StandsAt.le_length {text : List Char} {offset line column : Nat}
    (stands : StandsAt text offset line column) : offset ≤ text.length := by
  -- The lines up to the place are part of the text.
  obtain ⟨earlier, current, later, cut, -, at_, -, bound⟩ := stands
  rw [← cut.flatten_eq, List.flatten_append, List.flatten_cons, List.length_append,
    List.length_append]
  omega

/-- The place of an offset is found. -/
theorem position?_of_standsAt {text : String} {offset line column : Nat}
    (stands : StandsAt text.toList offset line column) :
    (Page.ofText text).position? offset = some (line, column) := by
  have inside := stands.le_length
  obtain ⟨earlier, current, later, cut, rfl, at_, low, bound⟩ := stands
  have placed := splitLines_eq cut
  rw [List.append_cons, placeLines_append] at placed
  -- The line of the offset is the last one that starts at or before it.
  have stop : (placeLines 0 (earlier ++ [current]) ++
      placeLines (0 + (earlier ++ [current]).flatten.length) later).takeWhile
        (fun line => decide (line.start ≤ offset)) = placeLines 0 (earlier ++ [current]) := by
    refine (takeWhile_append_of_stop ?_ ?_).1
    · intro line member
      rw [placeLines_append] at member
      rcases List.mem_append.mp member with member | member
      · have before := start_le_of_mem_placeLines member
        simp only [decide_eq_true_eq]
        omega
      · obtain rfl := List.mem_singleton.mp member
        simp only [decide_eq_true_eq]
        omega
    · intro line first
      cases later with
      | nil => cases first
      | cons next later =>
        obtain rfl : _ = line := Option.some.inj first
        simp only [List.flatten_append, List.length_append, List.flatten_singleton,
          decide_eq_false_iff_not]
        simp at bound
        omega
  -- So its number is that of the lines before it.
  have found : (Page.ofText text).lineOf? offset = some earlier.length := by
    simp only [Page.lineOf?, Page.ofText, ← String.length_toList, Nat.not_lt.mpr inside, if_false,
      placed, stop, length_placeLines, List.length_append, List.length_singleton,
      Nat.add_sub_cancel]
  have here : (splitLines text)[earlier.length]? = some ⟨earlier.flatten.length, current⟩ := by
    rw [placed, placeLines_append]
    simp [placeLines]
  -- The column is what is left of the offset in the line.
  have distance : offset - earlier.flatten.length + 1 = column := by omega
  have line : (Page.ofText text).lines[earlier.length]? = some ⟨earlier.flatten.length, current⟩ :=
    here
  simp only [Page.position?, found, line, distance]

/-- Line and column are given for exactly the offsets that have a place, and they are that place. -/
theorem position?_eq_some_iff {text : String} {offset line column : Nat} :
    (Page.ofText text).position? offset = some (line, column) ↔
      StandsAt text.toList offset line column := by
  refine ⟨fun found => ?_, position?_of_standsAt⟩
  by_cases inside : offset ≤ text.toList.length
  -- The offset has some place, which is the one that is found.
  · obtain ⟨other, otherColumn, stands⟩ := exists_standsAt inside
    have again := position?_of_standsAt stands
    rw [found] at again
    obtain ⟨rfl, rfl⟩ : line = other ∧ column = otherColumn := by simpa using again
    exact stands
  · have outside : (Page.ofText text).lineOf? offset = none := by
      rw [String.length_toList] at inside
      simp [Page.lineOf?, Page.ofText, Nat.lt_of_not_le inside]
    simp [Page.position?, outside] at found

/-- Different offsets have different places. -/
theorem StandsAt.offset_unique {text : List Char} {offset other line column : Nat}
    (first : StandsAt text offset line column) (second : StandsAt text other line column) :
    offset = other := by
  obtain ⟨earlier, current, later, cut, rfl, at_, -, -⟩ := first
  obtain ⟨before, _, after, again, index, behind, -, -⟩ := second
  -- A text has one cut, so the line has the same lines before it.
  have lines := cut.unique again
  obtain ⟨rfl, -⟩ := List.append_inj lines (by omega)
  omega

end TypedRoutes.Report

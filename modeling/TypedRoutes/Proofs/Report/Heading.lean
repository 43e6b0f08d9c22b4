import TypedRoutes.Proofs.Decimal.Digits
import TypedRoutes.Proofs.Report.Lines
import TypedRoutes.Proofs.Template.Misfit
import TypedRoutes.Proofs.Template.Tokenization
import TypedRoutes.Report.Error

/-! The place in the heading of a report. Errors give byte offsets and headings take them for
character offsets, so the heading shows the place of the error where every character before it is
one byte, and the place of some other character elsewhere. -/

namespace TypedRoutes

open Report

/-! Headings. -/

namespace Report

/-- A place as headings show it. -/
def placeText (line column : Nat) : String :=
  toString line ++ ":" ++ toString column

/-- The first line of a report. -/
def firstLine (message : String) : String :=
  Colour.red.paint "Error:" ++ " " ++ message ++ "\n"

/-- The start of a heading, from the corner of the frame up to the place. -/
def corner (fileName : String) : String :=
  Colour.margin.paint "╭" ++ Colour.margin.paint "─" ++ Colour.margin.paint "[" ++ fileName ++ ":"

/-- A report of a message with a place in its heading. -/
def Headed (report message fileName place : String) : Prop :=
  ∃ width rest, report = firstLine message ++ spaces width ++ corner fileName ++ place ++
    Colour.margin.paint "]" ++ rest

/-- A labelled place whose first and last character, where it has any, are on a page of so many
characters or stand at its end. -/
def Label.Fits (label : Label) (size : Nat) : Prop :=
  label.span.start ≤ size ∧ (label.span.start < label.span.stop → label.span.stop ≤ size + 1)

/-- The offsets with a line are those of characters and the one behind them. -/
theorem Page.isSome_lineOf? (page : Page) (offset : Nat) :
    (page.lineOf? offset).isSome = true ↔ offset ≤ page.size := by
  unfold lineOf?
  split <;> simp <;> omega

/-- A label is on a page where its first and last character are on the page or stand at its end. -/
theorem Label.onPage_iff {label : Label} {text : String} :
    label.onPage (Page.ofText text) = true ↔ label.Fits text.toList.length := by
  -- The last character is the one before the end of the span, where the span is not empty.
  simp only [onPage, Bool.and_eq_true, Bool.or_eq_true, decide_eq_true_eq, Page.isSome_lineOf?,
    Page.ofText, Fits, String.length_toList]
  omega

/-! Places in headings. -/

/-- A number is shown by its digits. -/
theorem toString_toList (value : Nat) : (toString value).toList = digitsOf value :=
  Nat.toList_repr

/-- Every character of a number that is shown is a digit. -/
theorem isDigit_of_mem_toString {value : Nat} {c : Char} (member : c ∈ (toString value).toList) :
    c.isDigit = true :=
  isDigit_of_mem_digitsOf (toString_toList value ▸ member)

/-- Line and column are read off a place. -/
theorem placeText_inj {line column other otherColumn : Nat}
    (same : placeText line column = placeText other otherColumn) :
    line = other ∧ column = otherColumn := by
  have chars := congrArg String.toList same
  simp only [placeText, String.toList_append, List.append_assoc] at chars
  -- The digits of the line end at the colon.
  have digits (value : Nat) : ∀ c ∈ (toString value).toList, ¬ c = ':' := by
    rintro c member rfl
    exact absurd (isDigit_of_mem_toString member) (by decide)
  -- So both texts are cut at their first colon.
  obtain ⟨lines, columns⟩ :=
    append_inj_of_stop (digits line) (digits other) (by simp) (by simp) chars
  have read {value other : Nat} (same : (toString value).toList = (toString other).toList) :
      value = other := by
    rw [toString_toList, toString_toList] at same
    simpa using congrArg ofDigits same
  exact ⟨read lines, read (List.append_cancel_left columns)⟩

/-- A place has no control characters. -/
theorem not_mem_placeText {line column : Nat} : '\x1b' ∉ (placeText line column).toList := by
  -- Digits and a colon are all there is.
  intro member
  simp only [placeText, String.toList_append, List.mem_append] at member
  rcases member with (member | member) | member
  · exact absurd (isDigit_of_mem_toString member) (by decide)
  · exact absurd member (by decide)
  · exact absurd (isDigit_of_mem_toString member) (by decide)

/-- What a heading shows in the place of line and column has no control characters. -/
theorem not_mem_location {page : Page} {offset : Nat} :
    '\x1b' ∉ (location page offset).toList := by
  -- It is a place, or the two question marks that stand for none.
  unfold location
  split
  · exact not_mem_placeText
  · decide

/-- A place is shown for the offsets that have one. -/
theorem location_eq_placeText_iff {text : String} {offset line column : Nat} :
    location (Page.ofText text) offset = placeText line column ↔
      StandsAt text.toList offset line column := by
  rw [← position?_eq_some_iff]
  unfold location
  cases found : (Page.ofText text).position? offset with
  -- A found position is shown, and different positions are shown differently.
  | some position =>
    constructor
    · intro same
      obtain ⟨rfl, rfl⟩ := placeText_inj same
      rfl
    · intro same
      cases same
      rfl
  -- Where no place is found, the first character is not that of a number.
  | none =>
    refine iff_of_false (fun same => ?_) (by simp)
    have chars := congrArg String.toList same
    simp only [placeText, String.toList_append, List.append_assoc] at chars
    cases digits : (toString line).toList with
    | nil => exact absurd (toString_toList line ▸ digits) (digitsOf_ne_nil line)
    | cons c rest =>
      have digit : c.isDigit = true := isDigit_of_mem_toString (digits ▸ List.mem_cons_self)
      rw [digits] at chars
      obtain rfl : '?' = c := by
        simpa using congrArg List.head? chars
      exact absurd digit (by decide)

/-- A heading shows one place. -/
theorem Headed.unique {report message fileName place other : String}
    (first : Headed report message fileName place) (second : Headed report message fileName other)
    (plain : '\x1b' ∉ place.toList) (clear : '\x1b' ∉ other.toList) : place = other := by
  obtain ⟨width, rest, shown⟩ := first
  obtain ⟨otherWidth, otherRest, again⟩ := second
  have same := congrArg String.toList (shown.symm.trans again)
  -- A colour starts behind the spaces and behind the place.
  obtain ⟨frame, cornered⟩ : ∃ frame, (corner fileName).toList = '\x1b' :: frame :=
    ⟨_, by simp [corner, Colour.paint]; rfl⟩
  obtain ⟨bracket, closing⟩ : ∃ bracket, (Colour.margin.paint "]").toList = '\x1b' :: bracket :=
    ⟨_, by simp [Colour.paint]; rfl⟩
  simp only [String.toList_append, List.append_assoc, List.append_cancel_left_eq, cornered,
    closing, List.cons_append] at same
  have blank (count : Nat) : ∀ c ∈ (spaces count).toList, ¬ c = '\x1b' := by
    rintro c member rfl
    rw [spaces, String.toList_ofList] at member
    exact absurd (List.eq_of_mem_replicate member) (by decide)
  obtain ⟨-, behind⟩ :=
    append_inj_of_stop (blank width) (blank otherWidth) (by simp) (by simp) same
  have places := List.append_cancel_left (List.cons.inj behind).2
  have apart {text : String} (plain : '\x1b' ∉ text.toList) : ∀ c ∈ text.toList, ¬ c = '\x1b' := by
    rintro c member rfl
    exact plain member
  obtain ⟨same, -⟩ :=
    append_inj_of_stop (apart plain) (apart clear) (by simp) (by simp) places
  exact String.toList_inj.mp same

/-! Reports. -/

/-- The frame starts with the heading. -/
theorem exists_frame (page : Page) (diagnostic : Diagnostic) (labels : List Label)
    (fileName : String) : ∃ width rows, frame page diagnostic labels fileName =
      (spaces width ++ corner fileName ++ location page diagnostic.place ++
        Colour.margin.paint "]") :: rows := by
  -- The heading is indented as far as the greatest line number is wide.
  refine ⟨(toString (shownLines page labels).2).length + 2,
    (frame page diagnostic labels fileName).tail, ?_⟩
  simp [frame, corner, String.append_assoc]

/-- Where some label fits, the report has a heading. -/
theorem Diagnostic.headed_of_fits {diagnostic : Diagnostic} {text fileName : String} {label : Label}
    (member : label ∈ diagnostic.labels) (fits : label.Fits text.toList.length) :
    Headed (diagnostic.render text fileName) diagnostic.message fileName
      (location (Page.ofText text) diagnostic.place) := by
  -- The label is on the page, so there is a frame, and its first row is the heading.
  have shown : diagnostic.labels.filter (·.onPage (Page.ofText text)) ≠ [] :=
    List.ne_nil_of_mem (List.mem_filter.mpr ⟨member, Label.onPage_iff.mpr fits⟩)
  obtain ⟨width, rows, framed⟩ :=
    exists_frame (Page.ofText text) diagnostic
      (diagnostic.labels.filter (·.onPage (Page.ofText text))) fileName
  refine ⟨width, "\n" ++ joinLines rows, ?_⟩
  simp [render, shown, framed, joinLines, firstLine, String.append_assoc]

/-- Where no label fits, the report is a single line. -/
theorem Diagnostic.render_of_not_fits {diagnostic : Diagnostic} {text fileName : String}
    (outside : ∀ label ∈ diagnostic.labels, ¬ label.Fits text.toList.length) :
    diagnostic.render text fileName = firstLine diagnostic.message := by
  -- Without a label on the page there is no frame.
  have hidden : diagnostic.labels.filter (·.onPage (Page.ofText text)) = [] := by
    simpa [List.filter_eq_nil_iff, Label.onPage_iff] using outside
  simp [render, hidden, joinLines, firstLine]

/-- The heading shows the line and the column of the place, taken as a character offset. There is a
heading where some label fits, and no place in it where the text has no such offset. -/
theorem Diagnostic.headed_iff {diagnostic : Diagnostic} {text fileName : String}
    {line column : Nat} :
    Headed (diagnostic.render text fileName) diagnostic.message fileName (placeText line column) ↔
      (∃ label ∈ diagnostic.labels, label.Fits text.toList.length) ∧
        StandsAt text.toList diagnostic.place line column := by
  rw [← location_eq_placeText_iff]
  by_cases shown : ∃ label ∈ diagnostic.labels, label.Fits text.toList.length
  -- There is one heading, and it shows one place.
  · obtain ⟨label, member, fits⟩ := shown
    have headed := @headed_of_fits diagnostic text fileName label member fits
    constructor
    · intro other
      exact ⟨⟨label, member, fits⟩, headed.unique other not_mem_location not_mem_placeText⟩
    · rintro ⟨-, same⟩
      exact same ▸ headed
  · refine iff_of_false ?_ fun both => shown both.1
    rintro ⟨width, rest, same⟩
    have single : diagnostic.render text fileName = firstLine diagnostic.message :=
      render_of_not_fits fun label member fits => shown ⟨label, member, fits⟩
    -- A heading would stand behind the first line.
    have chars := congrArg String.toList (single.symm.trans same)
    simp [corner, Colour.paint] at chars

end Report

/-! Places of errors. -/

/-- The place of a syntax error is that of a token, or the end of the template. -/
theorem exists_covers_of_malformed {template : String} {cause : SyntaxError}
    (failed : parseTree template = .error (.malformed cause)) :
    ∃ part, cause.span.Covers template part := by
  obtain ⟨before, after, state, split, reached, refused⟩ :=
    State.exists_of_run_error (run_of_malformed failed)
  rcases refused with ⟨rfl, rfl⟩ | ⟨token, behind, rfl, refused, rfl⟩
  -- The end of the template is the place of an empty part.
  · exact ⟨"", Span.covers_of_split template.toList [] (by simp) rfl rfl⟩
  -- The token that is shown is the refused one or the brace before it.
  · rw [(state.rejectToken_eq token).2]
    cases closing : state.closing? with
    | none => exact ⟨_, Token.covers_of_mem (by simp [split])⟩
    | some span =>
      obtain ⟨earlier, last⟩ := State.closing_of_steps reached closing
      have member : ⟨.closeBrace, span⟩ ∈ Token.tokenize template := by simp [split, last]
      exact ⟨_, Token.covers_of_mem member⟩

/-- An error points at a part of the template, unless it is about the whole. -/
theorem exists_covers_of_parseParams {template : String} {error : TemplateError}
    (failed : parseParams template = .error error) (placed : error ≠ .noPath) :
    ∃ part, error.span.Covers template part := by
  rcases parseParams_error_cases failed with lacking | ⟨cause, read, rfl⟩ | ⟨tree, read, refused⟩
  · exact absurd lacking placed
  · exact exists_covers_of_malformed read
  · obtain ⟨plain, -, rfl, rfl⟩ := parseTree_eq_ok_iff.mp read
    have points := plain.exactIn_source.pointsInto refused
    cases error with
    | noPath => exact absurd rfl placed
    | unknownType | invalidName => exact ⟨_, points⟩
    | repeatedName => exact ⟨_, points.2.1⟩
    -- A tree has been read, and its faults are no syntax errors.
    | malformed =>
      obtain ⟨before, faulty, -, reported⟩ := TemplateTree.firstFault_of_resolve refused
      cases reported

/-- Every error with a place has a label there. -/
theorem TemplateError.exists_label {error : TemplateError} (placed : error ≠ .noPath) :
    ∃ label ∈ error.labels, label.span = error.span := by
  -- The first label stands at the error, and a repeated name has a second one.
  cases error with
  | noPath => exact absurd rfl placed
  | unknownType | invalidName | malformed => exact ⟨_, List.mem_singleton.mpr rfl, rfl⟩
  | repeatedName => exact ⟨_, List.mem_cons_self, rfl⟩

/-- Bytes are characters where every character is a single byte. -/
theorem length_le_byteSize (text : List Char) : text.length ≤ byteSize text := by
  -- Every character has at least one byte.
  induction text with
  | nil => exact Nat.le_refl 0
  | cons c text ih =>
    have positive := Char.utf8Size_pos c
    rw [List.length_cons, byteSize_cons]
    omega

/-- Bytes are as many as characters exactly where every character is a single byte. -/
theorem byteSize_eq_length_iff {text : List Char} :
    byteSize text = text.length ↔ ∀ c ∈ text, c.utf8Size = 1 := by
  -- Every further byte of one character makes up a difference that no other character takes back.
  induction text with
  | nil => simp
  | cons c text ih =>
    have positive := Char.utf8Size_pos c
    have more := length_le_byteSize text
    rw [byteSize_cons, List.length_cons, List.forall_mem_cons, ← ih]
    omega

/-- How the place in the heading of a report is related to the place of the error, which stands
behind `before` in this line and at this column. -/
structure TemplateError.ReportPlace (error : TemplateError) (template fileName : String)
    (before : List Char) (line column : Nat) : Prop where
  /-- The characters before the error are the start of the template. -/
  split : ∃ after, template.toList = before ++ after
  /-- The error starts behind their bytes. -/
  start : byteSize before = error.span.start
  /-- The character behind them stands in the line, at the column. -/
  stands : StandsAt template.toList before.length line column
  /-- The heading shows the place of the character whose number is the byte offset of the error.
  There is a heading where some label fits on the page, with bytes taken for characters. -/
  shown : ∀ shownLine shownColumn,
    Headed (error.report template fileName) error.message fileName
        (placeText shownLine shownColumn) ↔
      (∃ label ∈ error.labels, label.Fits template.toList.length) ∧
        StandsAt template.toList error.span.start shownLine shownColumn
  /-- So it shows the place of the error where only single bytes stand before that. -/
  right : Headed (error.report template fileName) error.message fileName (placeText line column) ↔
    (∃ label ∈ error.labels, label.Fits template.toList.length) ∧ ∀ c ∈ before, c.utf8Size = 1
  /-- In a template of single bytes it always does. -/
  single : (∀ c ∈ template.toList, c.utf8Size = 1) →
    Headed (error.report template fileName) error.message fileName (placeText line column)

/-- The heading of a report shows line and column of the error, if every character of the template
is a single byte, and otherwise those of the character whose number is the byte offset of the
error, or none. -/
theorem parseParams_reportPlace {template : String} {error : TemplateError} (fileName : String)
    (failed : parseParams template = .error error) (placed : error ≠ .noPath) :
    ∃ before line column, error.ReportPlace template fileName before line column := by
  -- The error points at a part of the template, so its offset stands between two characters.
  obtain ⟨part, covers⟩ := exists_covers_of_parseParams failed placed
  obtain ⟨before, after, split, start, stop⟩ := covers.split
  obtain ⟨line, column, stands⟩ : ∃ line column, StandsAt template.toList before.length line column :=
    exists_standsAt (by simp [split])
  have shown : ∀ shownLine shownColumn,
      Headed (error.report template fileName) error.message fileName
          (placeText shownLine shownColumn) ↔
        (∃ label ∈ error.labels, label.Fits template.toList.length) ∧
          StandsAt template.toList error.span.start shownLine shownColumn :=
    fun _ _ => Diagnostic.headed_iff
  -- The shown place is the true one where the two offsets agree.
  have right : StandsAt template.toList error.span.start line column ↔
      ∀ c ∈ before, c.utf8Size = 1 := by
    rw [← byteSize_eq_length_iff, start]
    constructor
    · intro other
      exact other.offset_unique stands
    · intro same
      exact same ▸ stands
  refine ⟨before, line, column, ⟨_, split⟩, start, stands, shown, ?_, ?_⟩
  · rw [shown, right]
  -- With single bytes everywhere the label fits, since it ends within the template.
  · intro single
    obtain ⟨label, member, same⟩ := error.exists_label placed
    have whole := byteSize_eq_length_iff.mpr single
    have fits : label.Fits template.toList.length := by
      rw [Label.Fits, same, ← whole, split, ← start, ← stop]
      simp only [byteSize_append]
      omega
    rw [shown, right]
    exact ⟨⟨label, member, fits⟩, fun c inside => single c (by simp [split, inside])⟩

/-- A tag on the second line, behind a character of two bytes on the first. -/
theorem parseParams_reportPlace_second_line :
    parseParams "/é\n\x7bfoo:bar\x7d" = .error (.unknownType "foo" 5) ∧
      TemplateError.unknownType "foo" 5 ≠ .noPath ∧
      ∃ before line column,
        (TemplateError.unknownType "foo" 5).ReportPlace "/é\n\x7bfoo:bar\x7d" "route" before line
          column := by
  have failed : parseParams "/é\n\x7bfoo:bar\x7d" = .error (.unknownType "foo" 5) := by rfl
  exact ⟨failed, by decide, parseParams_reportPlace "route" failed (by decide)⟩

/-- The tag stands at the fifth character, and the heading shows the sixth. -/
theorem parseParams_reportPlace_late :
    parseParams "/é/\x7bfoo:bar\x7d" = .error (.unknownType "foo" 5) ∧
      "/é/\x7bfoo:bar\x7d".toList = "/é/\x7b".toList ++ "foo:bar\x7d".toList ∧
      byteSize "/é/\x7b".toList = (TemplateError.unknownType "foo" 5).span.start ∧
      StandsAt "/é/\x7bfoo:bar\x7d".toList "/é/\x7b".toList.length 1 5 ∧
      ¬ Headed ((TemplateError.unknownType "foo" 5).report "/é/\x7bfoo:bar\x7d" "route")
        (TemplateError.unknownType "foo" 5).message "route" (placeText 1 5) ∧
      Headed ((TemplateError.unknownType "foo" 5).report "/é/\x7bfoo:bar\x7d" "route")
        (TemplateError.unknownType "foo" 5).message "route" (placeText 1 6) := by
  -- There is only one line.
  have lines : LinesOf "/é/\x7bfoo:bar\x7d".toList ([] ++ "/é/\x7bfoo:bar\x7d".toList :: []) :=
    .last _ (by decide) (by simp [lineEnds])
  have fifth : StandsAt "/é/\x7bfoo:bar\x7d".toList 4 1 5 :=
    ⟨[], _, [], lines, rfl, rfl, by decide, Or.inl (by decide)⟩
  have sixth : StandsAt "/é/\x7bfoo:bar\x7d".toList 5 1 6 :=
    ⟨[], _, [], lines, rfl, rfl, by decide, Or.inl (by decide)⟩
  refine ⟨by rfl, by decide, by decide, fifth, fun headed => ?_, ?_⟩
  · have shown := (Diagnostic.headed_iff.mp headed).2
    exact absurd (shown.offset_unique fifth) (by decide)
  · exact Diagnostic.headed_iff.mpr
      ⟨⟨_, List.mem_singleton.mpr rfl, by decide, by decide⟩, sixth⟩

end TypedRoutes

import TypedRoutes.Java.Literal
import TypedRoutes.Proofs.Text.ByteOrder
import TypedRoutes.Proofs.Timestamp

/-! Defaults of timestamps: three filters over a reader that takes more than Java does leave exactly
the strict form, and a text of that form needs no escapes. -/

namespace TypedRoutes

namespace Timestamp

/-! The free form. -/

/-- Year, month and day. -/
def dateSource (time : Timestamp) : List Char :=
  twoDigits (time.year / 100) ++ (twoDigits (time.year % 100) ++ '-' ::
    (twoDigits time.month ++ '-' :: twoDigits time.day))

/-- The time of day, in whole seconds. -/
def clockSource (time : Timestamp) : List Char :=
  twoDigits time.hour ++ ':' :: (twoDigits time.minute ++ ':' :: twoDigits time.second)

/-- An offset, with a letter of choice for universal time. -/
def zoneSource (letter : Char) : Option (Char × Nat × Nat) → List Char
  | none => [letter]
  | some offset => offsetSource (some offset)

/-- A timestamp with characters of choice between date and time and for universal time. -/
def freeSource (middle letter : Char) (time : Timestamp) : List Char :=
  time.dateSource ++ middle :: (time.clockSource ++
    (fractionSource time.fraction ++ zoneSource letter time.offset))

/-- A text of the free form: both letters in either case, a space between date and time, and a
fraction of any number of digits. -/
structure IsFree (raw : String) (middle letter : Char) (time : Timestamp) : Prop where
  separated : middle ∈ ['T', 't', ' ']
  universal : letter ∈ ['Z', 'z']
  /-- Every number has as many digits as there is room for, -/
  fits : { time with fraction := [] }.Fits
  /-- and the fraction has any number of them. -/
  digits : ∀ c ∈ time.fraction, c.isDigit = true
  /-- The numbers are in range. -/
  exist : time.Exists
  written : raw.toList = time.freeSource middle letter

/-- The strict form is the free form with two capital letters. -/
theorem freeSource_strict (time : Timestamp) : time.freeSource 'T' 'Z' = time.source := by
  -- Only the offset tells the two apart, by its letter.
  cases shape : time.offset <;>
    simp [freeSource, source, dateSource, clockSource, zoneSource, offsetSource, shape]

/-- What is written strictly is written freely. -/
theorem isFree_of_source {raw : String} {time : Timestamp} (fits : time.Fits) (exist : time.Exists)
    (written : raw.toList = time.source) : IsFree raw 'T' 'Z' time where
  separated := by decide
  universal := by decide
  fits := { fits with fraction := ⟨Nat.zero_le _, by simp⟩ }
  digits := fits.fraction.inside
  exist := exist
  written := written.trans time.freeSource_strict.symm

/-- Two digits are written for a number below a hundred. -/
theorem isDigit_of_mem_twoDigits {value : Nat} (small : value < 100) :
    ∀ c ∈ twoDigits value, c.isDigit = true := by
  simp only [twoDigits, List.mem_cons, List.not_mem_nil, or_false]
  rintro c (rfl | rfl)
  · exact isDigit_digitChar (by omega)
  · exact isDigit_digitChar (by omega)

/-- A date takes ten characters. -/
theorem length_dateSource (time : Timestamp) : time.dateSource.length = 10 := rfl

section

variable {raw : String} {middle letter : Char} {time : Timestamp}

/-- Digits and the marks between them are all that stands in a date and in a time of day. -/
theorem IsFree.marks (free : IsFree raw middle letter time) :
    ∀ c ∈ time.dateSource ++ time.clockSource, c.isDigit = true ∨ c ∈ ['-', ':'] := by
  -- Every number has two digits or four, so the marks are all that is left.
  obtain ⟨year, month, day, hour, minute, second, -, -⟩ := free.fits
  have pair {value : Nat} (small : value < 100) :
      ∀ c ∈ twoDigits value, c.isDigit = true ∨ c ∈ ['-', ':'] :=
    fun c member => Or.inl (isDigit_of_mem_twoDigits small c member)
  have mark : ('-' : Char) ∈ ['-', ':'] ∧ ':' ∈ ['-', ':'] := by decide
  dsimp only at year
  simp only [dateSource, clockSource, List.forall_mem_append, List.forall_mem_cons]
  exact ⟨⟨pair (by omega), pair (by omega), Or.inr mark.1, pair month, Or.inr mark.1, pair day⟩,
    pair hour, Or.inr mark.2, pair minute, Or.inr mark.2, pair second⟩

/-- An offset is a letter or a sign, and behind a sign there are digits and a colon. -/
theorem IsFree.zone (free : IsFree raw middle letter time) :
    ∃ first rest, zoneSource letter time.offset = first :: rest ∧
      first ∈ ['Z', 'z', '+', '-', '\u2212'] ∧ ∀ c ∈ rest, c.isDigit = true ∨ c = ':' := by
  -- Without an offset there is the letter alone.
  cases shape : time.offset with
  | none =>
    refine ⟨letter, [], rfl, ?_, by simp⟩
    exact List.mem_append_left ['+', '-', '\u2212'] free.universal
  | some offset =>
    obtain ⟨sign, hour, minute⟩ := offset
    obtain ⟨known, early, late⟩ := free.fits.offset sign hour minute shape
    refine ⟨sign, _, rfl, List.mem_append_right ['Z', 'z'] known, ?_⟩
    rw [List.forall_mem_append, List.forall_mem_cons]
    exact ⟨fun c member => Or.inl (isDigit_of_mem_twoDigits early c member), Or.inr rfl,
      fun c member => Or.inl (isDigit_of_mem_twoDigits late c member)⟩

end

end Timestamp

/-! Bytes. -/

/-- A character of ASCII is one byte. -/
theorem utf8EncodeChar_of_ascii {c : Char} (ascii : c.toNat < 128) :
    String.utf8EncodeChar c = [c.toUInt8] := by
  -- The encoding asks for the range of the code first, and this is the lowest one.
  have small : c.val.toNat ≤ 127 := Nat.le_of_lt_succ ascii
  unfold String.utf8EncodeChar
  simp only [small, if_true]
  rfl

/-- Text of ASCII has one byte for each character. -/
theorem flatMap_utf8EncodeChar_of_ascii {chars : List Char} (ascii : ∀ c ∈ chars, c.toNat < 128) :
    chars.flatMap String.utf8EncodeChar = chars.map Char.toUInt8 := by
  rw [List.map_eq_flatMap]
  exact List.flatMap_congr fun c member => utf8EncodeChar_of_ascii (ascii c member)

/-- The bytes of the ten digits. -/
def isDigitByte (byte : UInt8) : Bool :=
  '0'.toUInt8 ≤ byte && byte ≤ '9'.toUInt8

/-- A digit is a character of ASCII, and its byte is one of ten. -/
theorem byte_of_isDigit {c : Char} (digit : c.isDigit = true) :
    c.toNat < 128 ∧ isDigitByte c.toUInt8 = true := by
  -- There are ten digits to look at.
  obtain ⟨value, small, rfl⟩ := exists_digitChar digit
  interval_cases value <;> decide

namespace Java

/-! The filters. -/

/-- How many digits of ASCII follow the first point; without a point there are none. -/
def digitsBehindPoint (raw : String) : Nat :=
  let behind := (raw.toList.dropWhile (· != '.')).drop 1
  ((behind.flatMap String.utf8EncodeChar).takeWhile isDigitByte).length

/-- Whether a text is an instant: the eleventh byte is a capital letter, the last character is not a
small one, no more than nine digits follow the first point, and the text is read. -/
def isInstant (reads : String → Bool) (raw : String) : Bool :=
  (bytesOf raw)[10]? == some 'T'.toUInt8 && raw.toList.getLast? != some 'z'
    && digitsBehindPoint raw ≤ 9 && reads raw

/-- A reader of RFC 3339: it takes exactly the texts of the free form. -/
structure FreeReader (reads : String → Bool) : Prop where
  reads_iff : ∀ raw,
    reads raw = true ↔ ∃ middle letter time, Timestamp.IsFree raw middle letter time

section

variable {raw : String} {middle letter : Char} {time : Timestamp}

/-- In front of the eleventh byte there are ten characters of one byte each. -/
theorem byte_ten_iff (free : time.IsFree raw middle letter) :
    (bytesOf raw)[10]? = some 'T'.toUInt8 ↔ middle = 'T' := by
  -- The date is ASCII, so the byte behind it is the first of the character between date and time.
  have ascii : ∀ c ∈ time.dateSource, c.toNat < 128 := by
    intro c member
    rcases free.marks c (List.mem_append_left _ member) with digit | mark
    · exact (byte_of_isDigit digit).1
    · rcases List.mem_pair.mp mark with rfl | rfl <;> decide
  have middles : ∀ c ∈ ['T', 't', ' '], c.toNat < 128 ∧ (c.toUInt8 = 'T'.toUInt8 ↔ c = 'T') := by
    simpa using (by decide : 't'.toUInt8 ≠ 'T'.toUInt8 ∧ ' '.toUInt8 ≠ 'T'.toUInt8)
  obtain ⟨single, same⟩ := middles middle free.separated
  rw [bytesOf_eq, free.written, Timestamp.freeSource, List.flatMap_append, List.flatMap_cons,
    flatMap_utf8EncodeChar_of_ascii ascii, utf8EncodeChar_of_ascii single,
    List.getElem?_append_right (by simp [Timestamp.length_dateSource])]
  simpa [Timestamp.length_dateSource] using same

/-- The last character is the letter for universal time, or a digit. -/
theorem last_iff (free : time.IsFree raw middle letter) :
    raw.toList.getLast? = some 'z' ↔ time.offset = none ∧ letter = 'z' := by
  -- The zone stands last, and it is never empty.
  obtain ⟨first, rest, zone, -, -⟩ := free.zone
  have filled : Timestamp.zoneSource letter time.offset ≠ [] := by simp [zone]
  have split : raw.toList = (time.dateSource ++ middle :: (time.clockSource ++
      Timestamp.fractionSource time.fraction)) ++ Timestamp.zoneSource letter time.offset := by
    simp [free.written, Timestamp.freeSource]
  rw [split, List.getLast?_append_of_ne_nil _ filled]
  cases shape : time.offset with
  | none => simp [Timestamp.zoneSource]
  | some offset =>
    obtain ⟨sign, hour, minute⟩ := offset
    have ones : minute % 10 < 10 := Nat.mod_lt _ (by decide)
    have digit : (minute % 10).digitChar ≠ 'z' := by
      intro same
      exact absurd (same ▸ isDigit_digitChar ones) (by decide)
    simp [Timestamp.zoneSource, Timestamp.offsetSource, Timestamp.twoDigits, digit]

/-- The first point starts the fraction, and the offset ends it. -/
theorem digitsBehindPoint_eq (free : time.IsFree raw middle letter) :
    digitsBehindPoint raw = time.fraction.length := by
  -- No point stands in front of the fraction, so the first one is that of the fraction, if any.
  obtain ⟨first, rest, zone, starts, others⟩ := free.zone
  -- None of the marks in date and time is a point.
  have plain {c : Char} (mark : c.isDigit = true ∨ c ∈ ['-', ':']) : (c != '.') = true := by
    rw [bne_iff_ne]
    rintro rfl
    exact absurd mark (by decide)
  have middles : ∀ c ∈ ['T', 't', ' '], (c != '.') = true := by simp
  have front : ∀ c ∈ time.dateSource ++ middle :: time.clockSource, (c != '.') = true := by
    have marks := free.marks
    rw [List.forall_mem_append] at marks
    rw [List.forall_mem_append, List.forall_mem_cons]
    exact ⟨fun c member => plain (marks.1 c member), middles middle free.separated,
      fun c member => plain (marks.2 c member)⟩
  have behind : raw.toList.dropWhile (· != '.') = (Timestamp.fractionSource time.fraction ++
      Timestamp.zoneSource letter time.offset).dropWhile (· != '.') := by
    rw [free.written, Timestamp.freeSource, ← List.cons_append, ← List.append_assoc,
      List.dropWhile_append_of_pos front]
  unfold digitsBehindPoint
  rw [behind]
  cases shape : time.fraction with
  -- Without a fraction there is no point at all.
  | nil =>
    have signs : ∀ c ∈ ['Z', 'z', '+', '-', '\u2212'], (c != '.') = true := by simp
    have none : ∀ c ∈ Timestamp.zoneSource letter time.offset, (c != '.') = true := by
      rw [zone, List.forall_mem_cons]
      refine ⟨signs first starts, fun c member => plain ?_⟩
      exact (others c member).imp_right fun colon => by simp [colon]
    rw [Timestamp.fractionSource, List.nil_append, List.dropWhile_eq_nil_iff.mpr none]
    rfl
  -- The first byte of a letter or of a sign is none of a digit.
  | cons head tail =>
    have digits := shape ▸ free.digits
    have signs : ['Z', 'z', '+', '-', '\u2212'].all fun c =>
        (String.utf8EncodeChar c).head?.all fun byte => !isDigitByte byte := by decide
    have bytes := flatMap_utf8EncodeChar_of_ascii
      fun c member => (byte_of_isDigit (digits c member)).1
    have inside : ∀ byte ∈ (head :: tail).map Char.toUInt8, isDigitByte byte = true := by
      rw [List.forall_mem_map]
      exact fun c member => (byte_of_isDigit (digits c member)).2
    have stop : ∀ byte ∈ ((first :: rest).flatMap String.utf8EncodeChar).head?,
        isDigitByte byte = false := by
      rw [List.flatMap_cons, List.head?_append, Option.or_of_isSome]
      · have apart := List.all_eq_true.mp signs first starts
        simpa using (Option.all_eq_true _ _).mp apart
      · simp [String.utf8EncodeChar_ne_nil]
    have point : ('.' != '.') = false := by decide
    have source : Timestamp.fractionSource (head :: tail) = '.' :: head :: tail := rfl
    rw [source, List.cons_append, List.dropWhile_cons, point]
    simp only [Bool.false_eq_true, if_false, List.drop_succ_cons, List.drop_zero]
    rw [zone, List.flatMap_append, bytes, (takeWhile_append_of_stop inside stop).1, List.length_map]

/-- The filters leave out what is beyond the strict form. -/
theorem isInstant_iff {reads : String → Bool} (reader : FreeReader reads) {raw : String} :
    isInstant reads raw = true ↔
      ∃ time : Timestamp, time.Fits ∧ time.Exists ∧ raw.toList = time.source := by
  -- Each filter fixes one of the choices that the free form leaves open.
  simp only [isInstant, Bool.and_eq_true, beq_iff_eq, bne_iff_ne, decide_eq_true_eq]
  constructor
  · rintro ⟨⟨⟨byte, last⟩, short⟩, read⟩
    obtain ⟨middle, letter, time, free⟩ := (reader.reads_iff raw).mp read
    obtain rfl := (byte_ten_iff free).mp byte
    rw [ne_eq, last_iff free] at last
    rw [digitsBehindPoint_eq free] at short
    refine ⟨time, { free.fits with fraction := ⟨short, free.digits⟩ }, free.exist, ?_⟩
    rw [free.written, ← time.freeSource_strict]
    -- The letter only matters where it is written.
    cases shape : time.offset with
    | none =>
      have capital : letter ≠ 'z' := fun small => last ⟨shape, small⟩
      have either := free.universal
      simp only [List.mem_cons, List.not_mem_nil, or_false, capital] at either
      rw [either]
    | some offset => simp only [Timestamp.freeSource, shape, Timestamp.zoneSource]
  -- The strict form is free, and it makes the three choices.
  · rintro ⟨time, fits, exist, written⟩
    have free := Timestamp.isFree_of_source fits exist written
    refine ⟨⟨⟨(byte_ten_iff free).mpr rfl, ?_⟩, ?_⟩, (reader.reads_iff raw).mpr ⟨_, _, _, free⟩⟩
    · rw [ne_eq, last_iff free]
      exact fun both => absurd both.2 (by decide)
    · rw [digitsBehindPoint_eq free]
      exact fits.fraction.short

end

/-! The literal. -/

/-- No character of a timestamp is escaped. -/
theorem escapeChar_of_isMark {c : Char} (mark : Timestamp.IsMark c) : escapeChar c = [c] := by
  -- The digits and the marks are few enough to be looked at one by one.
  rcases mark with digit | other
  · obtain ⟨value, small, rfl⟩ := exists_digitChar digit
    interval_cases value <;> decide
  · have marks : ∀ c ∈ ['-', 'T', ':', '.', 'Z', '+', '\u2212'], escapeChar c = [c] := by
      simp [escapeChar, isControl]
    exact marks c other

/-- A timestamp is quoted as it is. -/
theorem escape_of_parse? {raw : String} {time : Timestamp}
    (parsed : Timestamp.parse? raw = some time) : escape raw = raw := by
  -- The escape of the text goes character by character, and each is left as it is.
  have plain : raw.toList.flatMap escapeChar = raw.toList := by
    conv_rhs => rw [← List.flatMap_singleton' raw.toList]
    exact List.flatMap_congr fun c member =>
      escapeChar_of_isMark (Timestamp.marks_of_parse? parsed c member)
  rw [escape, plain, String.ofList_toList]

/-- A default is accepted exactly if it has the strict form of a timestamp that exists, and so
exactly if it passes the filters over any reader of RFC 3339. No character of it is escaped, so what
is written between the quotes is the default itself. -/
theorem literal?_timestamp {reads : String → Bool} (reader : FreeReader reads) (raw : String) :
    ((∃ literal, literal? .timestamp raw = some literal) ↔
        ∃ time : Timestamp, time.Fits ∧ time.Exists ∧ raw.toList = time.source) ∧
      ((∃ literal, literal? .timestamp raw = some literal) ↔ isInstant reads raw = true) ∧
      ∀ literal, literal? .timestamp raw = some literal →
        escape raw = raw ∧ literal = "Instant.parse(\"" ++ raw ++ "\")" ∧
          literal = "Instant.parse(" ++ quote raw ++ ")" := by
  -- The reader of the model and the filters meet in the strict form.
  have accepted : (∃ literal, literal? .timestamp raw = some literal) ↔
      ∃ time : Timestamp, time.Fits ∧ time.Exists ∧ raw.toList = time.source := by
    simp only [← Timestamp.parse?_eq_some_iff]
    cases parsed : Timestamp.parse? raw <;> simp [literal?, parsed]
  refine ⟨accepted, accepted.trans (isInstant_iff reader).symm, fun literal written => ?_⟩
  cases parsed : Timestamp.parse? raw with
  | none => simp [literal?, parsed] at written
  | some time =>
    have plain := escape_of_parse? parsed
    have same : "Instant.parse(\"" ++ raw ++ "\")" = literal := by
      simpa [literal?, parsed] using written
    refine ⟨plain, same.symm, ?_⟩
    rw [← same, quote, plain]
    simp [String.ext_iff]

/-! A reader. -/

/-- The digits behind a point that starts a text. -/
def leadingFraction : List Char → List Char
  | '.' :: rest => rest.takeWhile Char.isDigit
  | _ => []

/-- Reads the free form: the text is put in the strict form without its fraction, and what is read
there has to be written as the text is. -/
def readsFree (raw : String) : Bool :=
  let chars := raw.toList
  let fraction := leadingFraction (chars.drop 19)
  let zone := (chars.drop 19).drop (Timestamp.fractionSource fraction).length
  let capital := if zone = ['z'] then ['Z'] else zone
  match Timestamp.read? (chars.take 10 ++ 'T' :: ((chars.drop 11).take 8 ++ capital)) with
  | none => false
  | some time =>
    { time with fraction }.inRange && ['T', 't', ' '].any fun middle =>
      ['Z', 'z'].any fun letter => { time with fraction }.freeSource middle letter == chars

/-- What is read as a fraction are digits. -/
theorem isDigit_of_mem_leadingFraction (text : List Char) :
    ∀ c ∈ leadingFraction text, c.isDigit = true := by
  unfold leadingFraction
  split
  · exact fun c member => List.mem_takeWhile_imp member
  · simp

/-- A fraction is found where one is written in front of an offset. -/
theorem leadingFraction_append {raw : String} {middle letter : Char} {time : Timestamp}
    (free : time.IsFree raw middle letter) :
    leadingFraction (Timestamp.fractionSource time.fraction ++
      Timestamp.zoneSource letter time.offset) = time.fraction := by
  -- The offset starts with no digit and with no point, so the fraction ends in front of it.
  obtain ⟨first, rest, zone, starts, -⟩ := free.zone
  have signs : ∀ c ∈ ['Z', 'z', '+', '-', '\u2212'], c ≠ '.' ∧ c.isDigit = false := by simp
  obtain ⟨point, digit⟩ := signs first starts
  have digits := free.digits
  rw [zone]
  generalize time.fraction = fraction at digits ⊢
  cases fraction with
  | nil =>
    unfold leadingFraction
    split
    · rename_i same
      exact absurd (List.cons.inj same).1 point
    · rfl
  | cons head tail =>
    have stop : ∀ c ∈ (first :: rest).head?, c.isDigit = false := by simpa using digit
    exact (takeWhile_append_of_stop digits stop).1

/-- This reader takes the free form and nothing else. -/
theorem freeReader_readsFree : FreeReader readsFree := by
  refine ⟨fun raw => ⟨fun read => ?_, ?_⟩⟩
  -- What is taken was compared with the free form.
  · unfold readsFree at read
    dsimp only at read
    split at read
    · cases read
    · rename_i time parsed
      simp only [Bool.and_eq_true, List.any_eq_true, beq_iff_eq] at read
      obtain ⟨range, middle, separated, letter, universal, written⟩ := read
      obtain ⟨fits, -⟩ := Timestamp.read?_eq_some_iff.mp parsed
      exact ⟨middle, letter, { time with fraction := leadingFraction (raw.toList.drop 19) },
        separated, universal, { fits with fraction := ⟨Nat.zero_le _, by simp⟩ },
        isDigit_of_mem_leadingFraction _, Timestamp.inRange_iff.mp range, written.symm⟩
  -- The parts of a text of the free form stand where they are looked for.
  · rintro ⟨middle, letter, time, free⟩
    have date : raw.toList.take 10 = time.dateSource := by rw [free.written]; rfl
    have clock : (raw.toList.drop 11).take 8 = time.clockSource := by rw [free.written]; rfl
    have behind : raw.toList.drop 19 = Timestamp.fractionSource time.fraction ++
        Timestamp.zoneSource letter time.offset := by rw [free.written]; rfl
    -- The letter becomes a capital one, and an offset with a sign stays as it is.
    have capital : (if Timestamp.zoneSource letter time.offset = ['z'] then ['Z']
        else Timestamp.zoneSource letter time.offset) = Timestamp.offsetSource time.offset := by
      cases time.offset with
      | none =>
        have letters : ∀ c ∈ ['Z', 'z'], (if [c] = ['z'] then ['Z'] else [c]) = ['Z'] := by simp
        exact letters letter free.universal
      | some offset => exact if_neg (by simp [Timestamp.zoneSource, Timestamp.offsetSource])
    have source : time.dateSource ++ 'T' :: (time.clockSource ++
        Timestamp.offsetSource time.offset) = { time with fraction := [] }.source := by
      rw [← Timestamp.freeSource_strict]
      cases time.offset <;> simp [Timestamp.freeSource, Timestamp.dateSource, Timestamp.clockSource,
        Timestamp.zoneSource, Timestamp.offsetSource, Timestamp.fractionSource]
    have parsed := Timestamp.read?_eq_some_iff.mpr ⟨free.fits, source⟩
    unfold readsFree
    dsimp only
    rw [date, clock, behind, leadingFraction_append free, List.drop_left, capital, parsed]
    simp only [Bool.and_eq_true, List.any_eq_true, beq_iff_eq]
    exact ⟨Timestamp.inRange_iff.mpr free.exist, middle, free.separated, letter, free.universal,
      free.written.symm⟩

/-- A leap second with a fraction of nine digits and an offset with the minus sign of typography
passes; the same with one digit more is only read. -/
theorem literal?_timestamp_fraction :
    FreeReader readsFree ∧
      isInstant readsFree "2024-02-29T23:59:60.123456789\u221201:30" = true ∧
      literal? .timestamp "2024-02-29T23:59:60.123456789\u221201:30" =
        some "Instant.parse(\"2024-02-29T23:59:60.123456789\u221201:30\")" ∧
      readsFree "2024-02-29T23:59:60.1234567890\u221201:30" = true ∧
      literal? .timestamp "2024-02-29T23:59:60.1234567890\u221201:30" = none := by
  -- The shorter text is run through the reader; the longer one is refused by the count of digits.
  have reader := freeReader_readsFree
  have written : literal? .timestamp "2024-02-29T23:59:60.123456789\u221201:30" =
      some "Instant.parse(\"2024-02-29T23:59:60.123456789\u221201:30\")" := by rfl
  refine ⟨reader, ?_, written, by decide +kernel, ?_⟩
  · exact (literal?_timestamp reader _).2.1.mp ⟨_, written⟩
  · have refused : isInstant readsFree "2024-02-29T23:59:60.1234567890\u221201:30" ≠ true := by
      decide +kernel
    rw [ne_eq, ← (literal?_timestamp reader _).2.1, not_exists] at refused
    exact Option.eq_none_iff_forall_not_mem.mpr refused

end Java

end TypedRoutes

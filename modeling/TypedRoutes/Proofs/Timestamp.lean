import Mathlib.Tactic.IntervalCases
import TypedRoutes.Proofs.Decimal.Digits
import TypedRoutes.Proofs.Lists
import TypedRoutes.Timestamp

/-! Timestamps are read from exactly the texts in which they are written, if they exist. -/

namespace TypedRoutes

/-- Every fourth year is a leap year, except those that end a century, unless it is a fourth one. -/
def IsLeap (year : Nat) : Prop :=
  4 ∣ year ∧ (100 ∣ year → 400 ∣ year)

instance (year : Nat) : Decidable (IsLeap year) :=
  inferInstanceAs (Decidable (_ ∧ _))

/-- The days of the months of a year, from January on. -/
def monthLengths (year : Nat) : List Nat :=
  [31, if IsLeap year then 29 else 28, 31, 30, 31, 30, 31, 31, 30, 31, 30, 31]

/-- A day of the Gregorian calendar, which also counts for the years before it was made. -/
def IsDate (year month day : Nat) : Prop :=
  1 ≤ month ∧ 1 ≤ day ∧ ∃ length ∈ (monthLengths year)[month - 1]?, day ≤ length

/-- The leap years are those of the calendar. -/
theorem isLeapYear_iff {year : Nat} : isLeapYear year = true ↔ IsLeap year := by
  -- Divisibility is a matter of remainders.
  simp only [isLeapYear, IsLeap, Bool.and_eq_true, Bool.or_eq_true, beq_iff_eq, bne_iff_ne,
    Nat.dvd_iff_mod_eq_zero]
  omega

/-- The days of a month are those that the calendar has. -/
theorem isDate_iff {year month day : Nat} :
    IsDate year month day ↔ 1 ≤ day ∧ day ≤ daysInMonth year month := by
  unfold IsDate daysInMonth
  by_cases listed : 1 ≤ month ∧ month ≤ 12
  -- There are twelve months to look at, and a leap day in the second.
  · obtain ⟨low, high⟩ := listed
    have leap := @isLeapYear_iff year
    interval_cases month <;> by_cases long : IsLeap year <;> simp [monthLengths, leap, long]
  · have other : month ≠ 2 ∧ month ∉ [4, 6, 9, 11] := by
      constructor
      · omega
      · simp only [List.mem_cons, List.not_mem_nil, or_false]
        omega
    -- No other month has a length.
    rw [if_neg other.1, if_neg other.2, if_neg listed]
    constructor
    · rintro ⟨low, -, length, member, -⟩
      have inside := (List.getElem?_eq_some_iff.mp member).1
      simp only [monthLengths, List.length_cons, List.length_nil] at inside
      omega
    · omega

namespace Timestamp

/-- Two digits of a number below a hundred. -/
def twoDigits (value : Nat) : List Char :=
  [(value / 10).digitChar, (value % 10).digitChar]

/-- The digits of a fraction behind their point; without digits there is no point. -/
def fractionSource : List Char → List Char
  | [] => []
  | digits => '.' :: digits

/-- The letter for universal time, or a sign with hours and minutes. -/
def offsetSource : Option (Char × Nat × Nat) → List Char
  | none => ['Z']
  | some (sign, hour, minute) => sign :: (twoDigits hour ++ ':' :: twoDigits minute)

/-- `YYYY-MM-DDThh:mm:ss`, the fraction, and the offset. -/
def source (time : Timestamp) : List Char :=
  twoDigits (time.year / 100) ++ (twoDigits (time.year % 100) ++ '-' ::
    (twoDigits time.month ++ '-' :: (twoDigits time.day ++ 'T' ::
      (twoDigits time.hour ++ ':' :: (twoDigits time.minute ++ ':' ::
        (twoDigits time.second ++ (fractionSource time.fraction ++ offsetSource time.offset)))))))

/-- An offset that can be written: there are three signs, and two digits for each number. -/
def OffsetFits (offset : Option (Char × Nat × Nat)) : Prop :=
  ∀ sign hour minute, offset = some (sign, hour, minute) →
    sign ∈ ['+', '-', '\u2212'] ∧ hour < 100 ∧ minute < 100

/-- A fraction that can be written. -/
structure FractionFits (digits : List Char) : Prop where
  /-- There are at most nine digits. -/
  short : digits.length ≤ 9
  /-- They are digits of ASCII. -/
  inside : ∀ c ∈ digits, c.isDigit = true

/-- A timestamp that can be written: every number has as many digits as there is room for. -/
structure Fits (time : Timestamp) : Prop where
  year : time.year < 10000
  month : time.month < 100
  day : time.day < 100
  hour : time.hour < 100
  minute : time.minute < 100
  second : time.second < 100
  fraction : FractionFits time.fraction
  offset : OffsetFits time.offset

/-- A timestamp whose numbers are in range. Any minute may end with a leap second. -/
structure Exists (time : Timestamp) : Prop where
  /-- The day is one of the calendar. -/
  date : IsDate time.year time.month time.day
  /-- The time of day. -/
  clock : time.hour ≤ 23 ∧ time.minute ≤ 59 ∧ time.second ≤ 60
  /-- The offset is less than a day. -/
  offset : ∀ sign hour minute, time.offset = some (sign, hour, minute) → hour ≤ 23 ∧ minute ≤ 59

/-! The parts of a timestamp. -/

/-- Two digits are worth ten times the first and the second. -/
theorem ofDigits_pair {tens ones : Nat} (small : tens < 10) (little : ones < 10) :
    ofDigits [tens.digitChar, ones.digitChar] = tens * 10 + ones := by
  -- The second digit is put behind the first.
  have pair := ofDigits_concat [tens.digitChar] little
  rwa [ofDigits_digitChar small] at pair

/-- Two digits are read as the number below a hundred that they are written for. -/
theorem twoDigits?_eq_some_iff {tens ones : Char} {value : Nat} :
    twoDigits? tens ones = some value ↔ value < 100 ∧ [tens, ones] = twoDigits value := by
  -- Each character is a digit of its own, and the number is put together of both.
  unfold twoDigits? twoDigits
  constructor
  · intro read
    split at read
    · rename_i both
      simp only [Bool.and_eq_true] at both
      obtain ⟨first, small, rfl⟩ := exists_digitChar both.1
      obtain ⟨second, little, rfl⟩ := exists_digitChar both.2
      have number : first * 10 + second = value :=
        (ofDigits_pair small little).symm.trans (Option.some.inj read)
      have tens : value / 10 = first := by omega
      have ones : value % 10 = second := by omega
      exact ⟨by omega, by rw [tens, ones]⟩
    · cases read
  · rintro ⟨small, written⟩
    obtain ⟨rfl, rfl⟩ : tens = (value / 10).digitChar ∧ ones = (value % 10).digitChar := by
      simpa using written
    have first : value / 10 < 10 := by omega
    have second : value % 10 < 10 := by omega
    have number : value / 10 * 10 + value % 10 = value := by omega
    rw [if_pos (by simp [first, second]), ofDigits_pair first second, number]

/-- A fraction is split off where one is written, unless more digits or a point follow. -/
theorem splitFraction?_eq_some_iff {text digits rest : List Char} :
    splitFraction? text = some (digits, rest) ↔ text = fractionSource digits ++ rest ∧
      FractionFits digits ∧
      (∀ c ∈ rest.head?, if digits = [] then c ≠ '.' else c.isDigit = false) := by
  -- What stands behind the point is the longest run of digits, so the rest does not begin with one.
  constructor
  · intro split
    unfold splitFraction? at split
    split at split
    -- Behind a point there is at least one digit.
    · rename_i behind
      dsimp only at split
      split at split
      · rename_i counted
        simp only [Option.some.injEq, Prod.mk.injEq] at split
        obtain ⟨rfl, rfl⟩ := split
        have filled : behind.takeWhile Char.isDigit ≠ [] := by
          intro none
          simp [none] at counted
        refine ⟨?_, ⟨counted.2, fun c => List.mem_takeWhile_imp⟩, ?_⟩
        · cases taken : behind.takeWhile Char.isDigit with
          | nil => exact absurd taken filled
          | cons head others =>
            rw [fractionSource, List.cons_append, ← taken, List.takeWhile_append_dropWhile]
            simp
        · intro c first
          rw [if_neg filled]
          exact head?_dropWhile Char.isDigit behind c first
      · cases split
    -- Without a point the fraction is empty.
    · rename_i other
      simp only [Option.some.injEq, Prod.mk.injEq] at split
      obtain ⟨rfl, rfl⟩ := split
      refine ⟨rfl, ⟨by simp, by simp⟩, fun c first => ?_⟩
      rw [if_pos rfl]
      rintro rfl
      obtain ⟨behind, rfl⟩ := List.head?_eq_some_iff.mp first
      exact other behind rfl
  · rintro ⟨rfl, fits, ends⟩
    cases digits with
    | nil =>
      -- Without a point the whole text is left.
      cases rest with
      | nil => rfl
      | cons c rest =>
        have other : c ≠ '.' := by simpa using ends c
        unfold fractionSource splitFraction?
        split
        · simp_all
        · rfl
    | cons head others =>
      have stop : ∀ c ∈ rest.head?, c.isDigit = false := by simpa using ends
      have run := takeWhile_append_of_stop fits.inside stop
      have count : 1 ≤ (head :: others).length ∧ (head :: others).length ≤ 9 :=
        ⟨by simp, fits.short⟩
      show (let digits := (head :: others ++ rest).takeWhile Char.isDigit
        if 1 ≤ digits.length ∧ digits.length ≤ 9 then
          some (digits, (head :: others ++ rest).dropWhile Char.isDigit)
        else none) = _
      rw [run.1, run.2, if_pos count]

/-- The offset is the rest of the text. -/
theorem readOffset?_eq_some_iff {text : List Char} {offset : Option (Char × Nat × Nat)} :
    readOffset? text = some offset ↔ OffsetFits offset ∧ text = offsetSource offset := by
  -- An offset is the letter alone, or a sign and two numbers with a colon between them.
  constructor
  · intro read
    unfold readOffset? at read
    split at read
    · cases read
      exact ⟨by simp [OffsetFits], rfl⟩
    · rename_i sign h₁ h₂ m₁ m₂
      split at read
      · rename_i signed
        simp only [Option.bind_eq_bind, Option.bind_eq_some_iff, Option.pure_def,
          Option.some.injEq] at read
        obtain ⟨hour, hours, minute, minutes, rfl⟩ := read
        obtain ⟨early, writtenHour⟩ := twoDigits?_eq_some_iff.mp hours
        obtain ⟨late, writtenMinute⟩ := twoDigits?_eq_some_iff.mp minutes
        have known : sign ∈ ['+', '-', '\u2212'] := by
          simpa [isSign, or_assoc] using signed
        refine ⟨?_, by simp [offsetSource, ← writtenHour, ← writtenMinute]⟩
        rintro _ _ _ ⟨⟩
        exact ⟨known, early, late⟩
      · cases read
    · cases read
  · rintro ⟨fits, rfl⟩
    cases offset with
    | none => rfl
    | some parts =>
      obtain ⟨sign, hour, minute⟩ := parts
      obtain ⟨known, early, late⟩ := fits sign hour minute rfl
      have signed : isSign sign = true := by simpa [isSign, or_assoc] using known
      have hours := twoDigits?_eq_some_iff.mpr ⟨early, rfl⟩
      have minutes := twoDigits?_eq_some_iff.mpr ⟨late, rfl⟩
      simp [offsetSource, twoDigits, readOffset?, signed, hours, minutes]

/-- An offset starts with a letter or a sign, which is neither a digit nor a point. -/
theorem head?_offsetSource {offset : Option (Char × Nat × Nat)} (fits : OffsetFits offset) :
    ∀ c ∈ (offsetSource offset).head?, c ≠ '.' ∧ c.isDigit = false := by
  -- The letter and the three signs are looked at one by one.
  intro c first
  have marks : ∀ mark ∈ ['Z', '+', '-', '\u2212'], mark ≠ '.' ∧ mark.isDigit = false := by
    simp only [List.forall_mem_cons]
    exact ⟨by decide, by decide, by decide, by decide, by simp⟩
  apply marks
  cases offset with
  | none =>
    obtain rfl : 'Z' = c := by simpa [offsetSource] using first
    exact List.mem_cons_self
  | some parts =>
    obtain ⟨sign, hour, minute⟩ := parts
    obtain rfl : sign = c := by simpa [offsetSource] using first
    exact List.mem_cons_of_mem _ (fits sign hour minute rfl).1

/-! Whole timestamps. -/

/-- Reading and writing undo each other. -/
theorem read?_eq_some_iff {text : List Char} {time : Timestamp} :
    read? text = some time ↔ time.Fits ∧ text = time.source := by
  constructor
  -- Each part that was read is the writing of its number.
  · intro read
    unfold read? at read
    split at read
    · simp only [Option.bind_eq_bind, Option.bind_eq_some_iff, Option.pure_def,
        Option.some.injEq] at read
      obtain ⟨century, c, year, y, month, mo, day, d, hour, h, minute, mi, second, s,
        ⟨digits, left⟩, split, offset, o, rfl⟩ := read
      obtain ⟨centuries, c⟩ := twoDigits?_eq_some_iff.mp c
      obtain ⟨years, y⟩ := twoDigits?_eq_some_iff.mp y
      obtain ⟨months, mo⟩ := twoDigits?_eq_some_iff.mp mo
      obtain ⟨days, d⟩ := twoDigits?_eq_some_iff.mp d
      obtain ⟨hours, h⟩ := twoDigits?_eq_some_iff.mp h
      obtain ⟨minutes, mi⟩ := twoDigits?_eq_some_iff.mp mi
      obtain ⟨seconds, s⟩ := twoDigits?_eq_some_iff.mp s
      obtain ⟨behind, fraction, -⟩ := splitFraction?_eq_some_iff.mp split
      obtain ⟨fits, o⟩ := readOffset?_eq_some_iff.mp o
      have early : (100 * century + year) / 100 = century := by omega
      have late : (100 * century + year) % 100 = year := by omega
      refine ⟨⟨by dsimp only; omega, months, days, hours, minutes, seconds, fraction, fits⟩, ?_⟩
      dsimp only at o
      simp [source, early, late, ← c, ← y, ← mo, ← d, ← h, ← mi, ← s, behind, o]
    · cases read
  -- Each number that was written is read back, and the fraction ends where the offset begins.
  · rintro ⟨fits, rfl⟩
    have pair {value : Nat} (small : value < 100) :
        twoDigits? (value / 10).digitChar (value % 10).digitChar = some value :=
      twoDigits?_eq_some_iff.mpr ⟨small, rfl⟩
    have offset := readOffset?_eq_some_iff.mpr ⟨fits.offset, rfl⟩
    have fraction : splitFraction? (fractionSource time.fraction ++ offsetSource time.offset) =
        some (time.fraction, offsetSource time.offset) := by
      refine splitFraction?_eq_some_iff.mpr ⟨rfl, fits.fraction, fun c first => ?_⟩
      obtain ⟨point, digit⟩ := head?_offsetSource fits.offset c first
      split
      · exact point
      · exact digit
    have year := fits.year
    -- The two halves of the year are put together again.
    have whole : 100 * (time.year / 100) + time.year % 100 = time.year := by omega
    simp only [source, twoDigits, List.cons_append, List.nil_append, read?, Option.bind_eq_bind,
      pair (show time.year / 100 < 100 by omega), pair (show time.year % 100 < 100 by omega),
      pair fits.month, pair fits.day, pair fits.hour, pair fits.minute, pair fits.second,
      fraction, offset, Option.bind_some, whole]
    rfl

/-- A text is written for one timestamp. -/
theorem source_injective {time other : Timestamp} (fits : time.Fits) (otherFits : other.Fits)
    (same : time.source = other.source) : time = other := by
  -- Both are what is read from the text.
  have read := read?_eq_some_iff.mpr ⟨fits, same.symm⟩
  rw [read?_eq_some_iff.mpr ⟨otherFits, rfl⟩] at read
  exact (Option.some.inj read).symm

/-- The numbers are in range exactly if the timestamp exists. -/
theorem inRange_iff {time : Timestamp} : time.inRange = true ↔ time.Exists := by
  -- The offset is looked at last, where there is one.
  obtain ⟨year, month, day, hour, minute, second, fraction, offset⟩ := time
  have date := @isDate_iff year month day
  constructor
  · intro range
    simp only [inRange, Bool.and_eq_true, decide_eq_true_eq] at range
    obtain ⟨⟨⟨⟨⟨first, last⟩, hours⟩, minutes⟩, seconds⟩, offsets⟩ := range
    refine ⟨date.mpr ⟨first, last⟩, ⟨hours, minutes, seconds⟩, ?_⟩
    rintro sign h m rfl
    simpa using offsets
  · rintro ⟨day, ⟨hours, minutes, seconds⟩, offsets⟩
    obtain ⟨first, last⟩ := date.mp day
    simp only [inRange, Bool.and_eq_true, decide_eq_true_eq]
    refine ⟨⟨⟨⟨⟨first, last⟩, hours⟩, minutes⟩, seconds⟩, ?_⟩
    cases offset with
    | none => rfl
    | some parts => simpa using offsets parts.1 parts.2.1 parts.2.2 rfl

/-- A text is read as a timestamp where one that exists is written. -/
theorem parse?_eq_some_iff {text : String} {time : Timestamp} :
    parse? text = some time ↔ time.Fits ∧ time.Exists ∧ text.toList = time.source := by
  -- Reading comes first, and then the numbers are looked at.
  rw [parse?, Option.filter_eq_some_iff, read?_eq_some_iff, inRange_iff]
  tauto

/-! The characters of timestamps. -/

/-- The characters that a timestamp is written with. -/
def IsMark (c : Char) : Prop :=
  c.isDigit = true ∨ c ∈ ['-', 'T', ':', '.', 'Z', '+', '\u2212']

/-- A timestamp holds digits and the marks between them. -/
theorem marks_of_parse? {text : String} {time : Timestamp} (read : parse? text = some time) :
    ∀ c ∈ text.toList, IsMark c := by
  -- The text is the writing of the timestamp, part by part.
  obtain ⟨fits, -, written⟩ := parse?_eq_some_iff.mp read
  have pair {value : Nat} (small : value < 100) : ∀ c ∈ twoDigits value, IsMark c := by
    have first : value / 10 < 10 := by omega
    have second : value % 10 < 10 := by omega
    simp only [twoDigits, List.mem_cons, List.not_mem_nil, or_false]
    rintro c (rfl | rfl)
    · exact Or.inl (isDigit_digitChar first)
    · exact Or.inl (isDigit_digitChar second)
  have fraction : ∀ c ∈ fractionSource time.fraction, IsMark c := by
    have digits := fits.fraction.inside
    cases shape : time.fraction with
    | nil => simp [fractionSource]
    | cons head rest =>
      rw [shape] at digits
      intro c member
      rcases List.mem_cons.mp member with rfl | member
      · exact Or.inr (by decide)
      · exact Or.inl (digits c member)
  have offset : ∀ c ∈ offsetSource time.offset, IsMark c := by
    cases shape : time.offset with
    | none => simp [offsetSource, IsMark]
    | some parts =>
      obtain ⟨sign, hour, minute⟩ := parts
      obtain ⟨known, early, late⟩ := fits.offset sign hour minute shape
      have signs : ∀ mark ∈ ['+', '-', '\u2212'], mark ∈ ['-', 'T', ':', '.', 'Z', '+', '\u2212'] := by
        simp
      simp only [offsetSource, List.mem_cons, List.mem_append]
      rintro c (rfl | member | rfl | member)
      · exact Or.inr (signs c known)
      · exact pair early c member
      · exact Or.inr (by decide)
      · exact pair late c member
  have year := fits.year
  have centuries := pair (show time.year / 100 < 100 by omega)
  have years := pair (show time.year % 100 < 100 by omega)
  have mark : IsMark '-' ∧ IsMark 'T' ∧ IsMark ':' :=
    ⟨Or.inr (by decide), Or.inr (by decide), Or.inr (by decide)⟩
  rw [written]
  simp only [source, List.forall_mem_append, List.forall_mem_cons]
  exact ⟨centuries, years, mark.1, pair fits.month, mark.1, pair fits.day, mark.2.1, pair fits.hour,
    mark.2.2, pair fits.minute, mark.2.2, pair fits.second, fraction, offset⟩

end Timestamp

end TypedRoutes

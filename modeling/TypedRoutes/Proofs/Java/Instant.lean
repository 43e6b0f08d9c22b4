import TypedRoutes.Java.Literal
import TypedRoutes.Proofs.Timestamp

/-! Which of the timestamps that may be defaults are instants that Java can read. -/

namespace TypedRoutes.Java

/-- A timestamp that the documentation of `Instant.parse` allows. -/
structure Documented (time : Timestamp) : Prop where
  /-- The day is one of the calendar. -/
  date : IsDate time.year time.month time.day
  /-- A time of day, or the leap second that ends it. -/
  clock : (time.hour ≤ 23 ∧ time.minute ≤ 59 ∧ time.second ≤ 59) ∨
    (time.hour = 23 ∧ time.minute = 59 ∧ time.second = 60)
  /-- The sign is one of ASCII, and no offset is greater than eighteen hours. -/
  offset : ∀ sign hour minute, time.offset = some (sign, hour, minute) →
    sign ∈ ['+', '-'] ∧ minute ≤ 59 ∧ 60 * hour + minute ≤ 18 * 60

/-- A reader that does what is documented of `Instant.parse`. -/
structure InstantReader (reads : String → Bool) : Prop where
  /-- What is documented is read. -/
  accepts : ∀ raw (time : Timestamp), raw.toList = time.source → time.Fits → Documented time →
    reads raw = true
  /-- No other minute has a leap second. -/
  leapSecond : ∀ raw (time : Timestamp), raw.toList = time.source → time.Fits →
    time.second = 60 → ¬ (time.hour = 23 ∧ time.minute = 59) → reads raw = false
  /-- No offset is beyond eighteen hours. -/
  farOffset : ∀ raw (time : Timestamp), raw.toList = time.source → time.Fits →
    ∀ sign hour minute, time.offset = some (sign, hour, minute) → 18 * 60 < 60 * hour + minute →
      reads raw = false
  /-- No sign is beyond ASCII. -/
  otherSign : ∀ raw (time : Timestamp), raw.toList = time.source → time.Fits →
    ∀ sign hour minute, time.offset = some (sign, hour, minute) → 128 ≤ sign.toNat →
      reads raw = false

/-- The three things that Java refuses in a timestamp that exists. -/
structure Readable (time : Timestamp) : Prop where
  /-- A leap second ends a day. -/
  leapSecond : time.second = 60 → time.hour = 23 ∧ time.minute = 59
  /-- The sign is one of ASCII, and the offset is at most eighteen hours. -/
  offset : ∀ sign hour minute, time.offset = some (sign, hour, minute) →
    sign ∈ ['+', '-'] ∧ 60 * hour + minute ≤ 18 * 60

/-- What exists and is readable is documented. -/
theorem Readable.documented {time : Timestamp} (readable : Readable time) (exist : time.Exists) :
    Documented time := by
  -- The day is that of the timestamp; the clock and the offset are narrowed by what is readable.
  obtain ⟨hours, minutes, seconds⟩ := exist.clock
  refine ⟨exist.date, ?_, ?_⟩
  -- The sixtieth second is the only one that is not in every minute.
  · have last := readable.leapSecond
    omega
  · intro sign hour minute given
    obtain ⟨known, near⟩ := readable.offset sign hour minute given
    exact ⟨known, (exist.offset sign hour minute given).2, near⟩

/-- A sign that can be written is one of ASCII, or the minus sign of typography. -/
theorem sign_of_fits {time : Timestamp} (fits : time.Fits) {sign : Char} {hour minute : Nat}
    (given : time.offset = some (sign, hour, minute)) : sign ∈ ['+', '-'] ∨ 128 ≤ sign.toNat := by
  -- Three signs can be written, and only the last one is beyond ASCII.
  have known := (fits.offset sign hour minute given).1
  simp only [List.mem_cons, List.not_mem_nil, or_false] at known
  rcases known with rfl | rfl | rfl
  · exact Or.inl (by decide)
  · exact Or.inl (by decide)
  · exact Or.inr (by decide)

section

variable {reads : String → Bool} {raw : String}

/-- Java reads a timestamp that exists exactly if it has nothing that is refused. -/
theorem InstantReader.reads_iff (reader : InstantReader reads) {time : Timestamp}
    (written : raw.toList = time.source) (fits : time.Fits) (exist : time.Exists) :
    reads raw = true ↔ Readable time := by
  constructor
  -- Each of the three would be refused.
  · intro accepted
    refine ⟨fun leap => ?_, fun sign hour minute given => ⟨?_, ?_⟩⟩
    · by_contra other
      have refused := reader.leapSecond raw time written fits leap other
      simp [accepted] at refused
    · rcases sign_of_fits fits given with known | other
      · exact known
      · have refused := reader.otherSign raw time written fits sign hour minute given other
        simp [accepted] at refused
    · by_contra far
      have refused := reader.farOffset raw time written fits sign hour minute given (by omega)
      simp [accepted] at refused
  · exact fun readable => reader.accepts raw time written fits (readable.documented exist)

/-- A default is quoted as it is, and Java reads it exactly if it has no leap second but at the end
of a day, no offset beyond eighteen hours and no sign beyond ASCII. -/
theorem literal?_instant (reader : InstantReader reads) {literal : String}
    (written : literal? .timestamp raw = some literal) :
    literal = "Instant.parse(\"" ++ raw ++ "\")" ∧
      ∃ time : Timestamp, time.Fits ∧ time.Exists ∧ raw.toList = time.source ∧
        (reads raw = true ↔ Readable time) := by
  -- A default that is accepted was read as a timestamp, and that is the one to speak of.
  cases parsed : Timestamp.parse? raw with
  | none => simp [literal?, parsed] at written
  | some time =>
    obtain ⟨fits, exist, source⟩ := Timestamp.parse?_eq_some_iff.mp parsed
    refine ⟨?_, time, fits, exist, source, reader.reads_iff source fits exist⟩
    simpa [literal?, parsed] using written.symm

end

/-- A reader of what is documented and of nothing else. -/
def readsDocumented (raw : String) : Bool :=
  match Timestamp.parse? raw with
  | none => false
  | some time =>
    (time.second != 60 || (time.hour == 23 && time.minute == 59))
      && match time.offset with
        | none => true
        | some (sign, hour, minute) => ['+', '-'].contains sign && 60 * hour + minute ≤ 18 * 60

/-- What is documented exists and is readable. -/
theorem Documented.exists_and_readable {time : Timestamp} (documented : Documented time) :
    time.Exists ∧ Readable time := by
  -- Both bounds of an offset follow from eighteen hours.
  have clock := documented.clock
  refine ⟨⟨documented.date, by omega, ?_⟩, ⟨by omega, ?_⟩⟩
  · intro sign hour minute given
    have near := documented.offset sign hour minute given
    omega
  · intro sign hour minute given
    have near := documented.offset sign hour minute given
    exact ⟨near.1, near.2.2⟩

/-- This reader takes a timestamp exactly if it exists and is readable. -/
theorem readsDocumented_iff {raw : String} {time : Timestamp} (written : raw.toList = time.source)
    (fits : time.Fits) : readsDocumented raw = true ↔ time.Exists ∧ Readable time := by
  unfold readsDocumented
  cases parsed : Timestamp.parse? raw with
  | none =>
    -- The timestamp would have been read if it existed.
    refine ⟨nofun, fun ⟨exist, _⟩ => ?_⟩
    rw [Timestamp.parse?_eq_some_iff.mpr ⟨fits, exist, written⟩] at parsed
    cases parsed
  | some other =>
    obtain ⟨otherFits, exist, source⟩ := Timestamp.parse?_eq_some_iff.mp parsed
    obtain rfl := Timestamp.source_injective fits otherFits (written.symm.trans source)
    -- The two conditions are those of a readable timestamp.
    rw [Bool.and_eq_true]
    constructor
    · rintro ⟨leap, offset⟩
      refine ⟨exist, ?_, fun sign hour minute given => ?_⟩
      · simpa [Decidable.imp_iff_not_or] using leap
      · simpa [given] using offset
    · rintro ⟨-, leap, offset⟩
      refine ⟨by simpa [Decidable.imp_iff_not_or] using leap, ?_⟩
      cases given : time.offset with
      | none => rfl
      | some parts => simpa using offset parts.1 parts.2.1 parts.2.2 given

/-- Such a reader does what is documented. -/
theorem instantReader_readsDocumented : InstantReader readsDocumented := by
  -- What has to be refused is not readable, each time for another reason.
  have refused {raw : String} {time : Timestamp} (written : raw.toList = time.source)
      (fits : time.Fits) (unreadable : ¬ Readable time) : readsDocumented raw = false := by
    rw [Bool.eq_false_iff, ne_eq, readsDocumented_iff written fits]
    exact fun ⟨_, readable⟩ => unreadable readable
  refine ⟨?_, ?_, ?_, ?_⟩
  · intro raw time written fits documented
    exact (readsDocumented_iff written fits).mpr documented.exists_and_readable
  · intro raw time written fits leap other
    exact refused written fits fun readable => other (readable.leapSecond leap)
  · intro raw time written fits sign hour minute given far
    refine refused written fits fun readable => ?_
    have near := (readable.offset sign hour minute given).2
    omega
  · intro raw time written fits sign hour minute given other
    refine refused written fits fun readable => ?_
    have known := (readable.offset sign hour minute given).1
    -- Both signs that are readable are in ASCII.
    have ascii : sign.toNat < 128 := by
      rcases List.mem_pair.mp known with rfl | rfl <;> decide
    exact absurd ascii (Nat.not_lt.mpr other)

/-- The end of a leap day, with a fraction and an offset. -/
def leapDay : Timestamp :=
  ⟨2024, 2, 29, 23, 59, 60, ['5'], some ('-', 18, 0)⟩

/-- The last second of a leap day, eighteen hours behind, is accepted and can be read. -/
theorem literal?_instant_leapDay :
    InstantReader readsDocumented ∧
      literal? .timestamp "2024-02-29T23:59:60.5-18:00" =
        some "Instant.parse(\"2024-02-29T23:59:60.5-18:00\")" ∧
      readsDocumented "2024-02-29T23:59:60.5-18:00" = true := by
  have written : literal? .timestamp "2024-02-29T23:59:60.5-18:00" =
      some "Instant.parse(\"2024-02-29T23:59:60.5-18:00\")" := by rfl
  obtain ⟨-, time, fits, -, source, reads⟩ := literal?_instant instantReader_readsDocumented written
  refine ⟨instantReader_readsDocumented, written, reads.mpr ?_⟩
  -- The timestamp is the one that the text is written for.
  have read : Timestamp.read? "2024-02-29T23:59:60.5-18:00".toList = some leapDay := by rfl
  obtain ⟨leapFits, leapSource⟩ := Timestamp.read?_eq_some_iff.mp read
  obtain rfl := Timestamp.source_injective fits leapFits (source.symm.trans leapSource)
  refine ⟨fun _ => ⟨rfl, rfl⟩, ?_⟩
  rintro _ _ _ ⟨⟩
  decide

/-- A leap second in the morning, an offset of nineteen hours and a minus sign of typography may
stand in a default, and no reader takes them. -/
theorem literal?_instant_refused :
    (literal? .timestamp "2024-01-01T00:00:00+19:00" =
        some "Instant.parse(\"2024-01-01T00:00:00+19:00\")" ∧
      ∀ reads, InstantReader reads → reads "2024-01-01T00:00:00+19:00" = false) ∧
    (literal? .timestamp "2024-01-01T10:00:60Z" = some "Instant.parse(\"2024-01-01T10:00:60Z\")" ∧
      ∀ reads, InstantReader reads → reads "2024-01-01T10:00:60Z" = false) ∧
    literal? .timestamp "2024-01-01T00:00:00\u221201:00" =
        some "Instant.parse(\"2024-01-01T00:00:00\u221201:00\")" ∧
      ∀ reads, InstantReader reads → reads "2024-01-01T00:00:00\u221201:00" = false := by
  -- Each text is one timestamp, for which the reader has a clause that refuses it.
  refine ⟨⟨by rfl, fun reads reader => ?_⟩, ⟨by rfl, fun reads reader => ?_⟩, by rfl,
    fun reads reader => ?_⟩
  · have read : Timestamp.read? "2024-01-01T00:00:00+19:00".toList =
        some ⟨2024, 1, 1, 0, 0, 0, [], some ('+', 19, 0)⟩ := by rfl
    obtain ⟨fits, source⟩ := Timestamp.read?_eq_some_iff.mp read
    exact reader.farOffset _ _ source fits '+' 19 0 rfl (by decide)
  · have read : Timestamp.read? "2024-01-01T10:00:60Z".toList =
        some ⟨2024, 1, 1, 10, 0, 60, [], none⟩ := by rfl
    obtain ⟨fits, source⟩ := Timestamp.read?_eq_some_iff.mp read
    exact reader.leapSecond _ _ source fits rfl (by decide)
  · have read : Timestamp.read? "2024-01-01T00:00:00\u221201:00".toList =
        some ⟨2024, 1, 1, 0, 0, 0, [], some ('\u2212', 1, 0)⟩ := by rfl
    obtain ⟨fits, source⟩ := Timestamp.read?_eq_some_iff.mp read
    exact reader.otherSign _ _ source fits '\u2212' 1 0 rfl (by decide)

end TypedRoutes.Java

import TypedRoutes.Text.Capital
import TypedRoutes.Text.Identifier

/-! Identifiers by character ranges. -/

namespace TypedRoutes

/-- `[A-Za-z_]`. -/
def IsNameStart (c : Char) : Prop :=
  ('A' ≤ c ∧ c ≤ 'Z') ∨ ('a' ≤ c ∧ c ≤ 'z') ∨ c = '_'

/-- `[A-Za-z0-9_]`. -/
def IsNamePart (c : Char) : Prop :=
  IsNameStart c ∨ ('0' ≤ c ∧ c ≤ '9')

/-- `[A-Za-z_][A-Za-z0-9_]*`. -/
def IsName (text : String) : Prop :=
  ∃ first rest, text.toList = first :: rest ∧ IsNameStart first ∧ ∀ c ∈ rest, IsNamePart c

/-- Letters are those of the two ranges of ASCII. -/
theorem isAlpha_iff {c : Char} :
    c.isAlpha = true ↔ ('A' ≤ c ∧ c ≤ 'Z') ∨ ('a' ≤ c ∧ c ≤ 'z') := by
  -- The comparisons are those of the character codes.
  change (decide ('A'.val ≤ c.val ∧ c.val ≤ 'Z'.val) ||
    (decide ('a'.val ≤ c.val) && decide (c.val ≤ 'z'.val))) = true ↔ _
  simp [Char.le_def]

/-- Digits are those of the range of ASCII. -/
theorem isDigit_iff {c : Char} : c.isDigit = true ↔ '0' ≤ c ∧ c ≤ '9' := by
  -- The comparisons are those of the character codes here too.
  change (decide ('0'.val ≤ c.val) && decide (c.val ≤ '9'.val)) = true ↔ _
  simp [Char.le_def]

/-- The check of a first character accepts the letters and the underscore. -/
theorem isIdentifierStart_iff {c : Char} : isIdentifierStart c = true ↔ IsNameStart c := by
  simp [isIdentifierStart, IsNameStart, isAlpha_iff, or_assoc]

/-- The check of a later character accepts digits as well. -/
theorem isIdentifierPart_iff {c : Char} : isIdentifierPart c = true ↔ IsNamePart c := by
  have alphanumeric : c.isAlphanum = (c.isAlpha || c.isDigit) := rfl
  rw [isIdentifierPart, IsNamePart, ← isIdentifierStart_iff, ← isDigit_iff, isIdentifierStart,
    alphanumeric, Bool.or_eq_true, Bool.or_eq_true, Bool.or_eq_true]
  -- The digits stand before the underscore in the one and behind it in the other.
  exact or_right_comm

/-- The check accepts exactly the names. -/
theorem isIdentifier_iff {text : String} : isIdentifier text = true ↔ IsName text := by
  unfold isIdentifier IsName
  cases text.toList with
  | nil => simp
  | cons first rest =>
    simp only [Bool.and_eq_true, List.all_eq_true, isIdentifierStart_iff, isIdentifierPart_iff]
    -- The first character decides the shape, and it is the same on both sides.
    constructor
    · rintro ⟨start, parts⟩
      exact ⟨first, rest, rfl, start, parts⟩
    · rintro ⟨_, _, same, start, parts⟩
      cases same
      exact ⟨start, parts⟩

/-- Every character of an identifier may stand in one. -/
theorem isIdentifierPart_of_mem {text : String} (named : isIdentifier text = true) {c : Char}
    (member : c ∈ text.toList) : isIdentifierPart c = true := by
  -- A character is the first one, which may stand anywhere, or one of the others.
  obtain ⟨first, rest, shape, start, parts⟩ := isIdentifier_iff.mp named
  rw [isIdentifierPart_iff]
  rw [shape] at member
  rcases List.mem_cons.mp member with rfl | member
  · exact Or.inl start
  · exact parts c member

/-- An identifier may go on with another one. -/
theorem isIdentifier_append {first second : String} (named : isIdentifier first = true)
    (more : isIdentifier second = true) : isIdentifier (first ++ second) = true := by
  -- The first character is that of the first one, and all others may stand behind it.
  obtain ⟨c, rest, shape, start, inside⟩ := isIdentifier_iff.mp named
  refine isIdentifier_iff.mpr ⟨c, rest ++ second.toList, by simp [shape], start, ?_⟩
  intro d member
  rcases List.mem_append.mp member with early | late
  · exact inside d early
  · exact isIdentifierPart_iff.mp (isIdentifierPart_of_mem more late)

/-! Identifiers with their first character in upper case. -/

/-- The codes of letters and of the underscore. -/
theorem isNameStart_iff_toNat {c : Char} : IsNameStart c ↔
    (65 ≤ c.toNat ∧ c.toNat ≤ 90) ∨ (97 ≤ c.toNat ∧ c.toNat ≤ 122) ∨ c.toNat = 95 := by
  -- Characters are compared by their codes.
  have score : c = '_' ↔ c.toNat = 95 := by
    rw [← Char.toNat_inj]
    rfl
  rw [IsNameStart, score]
  rfl

/-- The upper case of a letter or an underscore is one again. -/
theorem isNameStart_toUpper {c : Char} (start : IsNameStart c) : IsNameStart c.toUpper := by
  -- Only the codes of small letters change, by the distance between the two ranges.
  rw [isNameStart_iff_toNat] at start ⊢
  unfold Char.toUpper
  split
  -- The sum wraps around, so the code gets smaller.
  · rename_i lower
    have small : 97 ≤ c.toNat ∧ c.toNat ≤ 122 := lower
    have shift : ('A'.val - 'a'.val).toNat = 4294967264 := by decide
    have code : (c.val + ('A'.val - 'a'.val)).toNat = c.toNat - 32 := by
      rw [UInt32.toNat_add, shift]
      show (c.toNat + 4294967264) % 4294967296 = c.toNat - 32
      omega
    show (65 ≤ (c.val + ('A'.val - 'a'.val)).toNat ∧
      (c.val + ('A'.val - 'a'.val)).toNat ≤ 90) ∨ _
    omega
  · exact start

/-- No identifier starts with a character whose upper case is not ASCII. -/
theorem isIdentifier_upperFirst {text : String} (named : isIdentifier text = true) :
    isIdentifier (upperFirst text) = true := by
  -- The first character is ASCII, where upper case is a matter of one character.
  obtain ⟨first, rest, shape, start, parts⟩ := isIdentifier_iff.mp named
  have small : first.toNat < 128 := by
    have codes := isNameStart_iff_toNat.mp start
    omega
  refine isIdentifier_iff.mpr ⟨first.toUpper, rest, ?_, isNameStart_toUpper start, parts⟩
  simp [upperFirst, shape, upperCase, small]

end TypedRoutes

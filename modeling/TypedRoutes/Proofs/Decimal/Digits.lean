import Mathlib.Algebra.Group.Nat.Defs
import Mathlib.Data.List.Induction
import TypedRoutes.Decimal.Digits

/-! Runs of digits and the numbers they denote. -/

namespace TypedRoutes

/-! Single digits. -/

/-- A digit is the character of a number below ten. -/
theorem exists_digitChar {c : Char} (digit : c.isDigit = true) : ∃ value < 10, c = value.digitChar := by
  -- The characters from zero to nine stand side by side.
  simp only [Char.isDigit, Bool.and_eq_true, decide_eq_true_eq] at digit
  have low : 48 ≤ c.toNat := UInt32.le_iff_toNat_le.mp digit.1
  have high : c.toNat ≤ 57 := UInt32.le_iff_toNat_le.mp digit.2
  refine ⟨c.toNat - 48, by omega, Char.toNat_inj.mp ?_⟩
  rw [Nat.toNat_digitChar_of_lt_ten (by omega)]
  omega

/-- The character of a number below ten is a digit. -/
theorem isDigit_digitChar {value : Nat} (small : value < 10) : value.digitChar.isDigit = true := by
  rw [Nat.isDigit_digitChar, decide_eq_true small]

/-! Runs of digits. -/

/-- The number is built up from the first digit on. -/
theorem ofDigits_eq (digits : List Char) : ofDigits digits = Nat.ofDigitChars 10 digits 0 := rfl

/-- Without digits there is zero. -/
@[simp] theorem ofDigits_nil : ofDigits [] = 0 := rfl

/-- Digits behind others push them to the left. -/
theorem ofDigits_append (front back : List Char) :
    ofDigits (front ++ back) = ofDigits front * 10 ^ back.length + ofDigits back := by
  -- The digits in front have been read when those behind are added to them.
  rw [ofDigits_eq, Nat.ofDigitChars_append, Nat.ofDigitChars_eq_ofDigitChars_zero, ofDigits_eq,
    ofDigits_eq, Nat.mul_comm]

/-- Each digit adds ten times what it was worth to those before it. -/
theorem ofDigits_concat (front : List Char) {value : Nat} (small : value < 10) :
    ofDigits (front ++ [value.digitChar]) = ofDigits front * 10 + value := by
  -- A single digit behind the others moves them by one place.
  rw [ofDigits_append, ofDigits_eq [_], Nat.ofDigitChars_cons_digitChar_of_lt_ten small]
  simp

/-- A single digit is worth its number. -/
theorem ofDigits_digitChar {value : Nat} (small : value < 10) : ofDigits [value.digitChar] = value := by
  simpa using ofDigits_concat [] small

/-- Zeros count for nothing by themselves. -/
@[simp] theorem ofDigits_replicate (count : Nat) : ofDigits (List.replicate count '0') = 0 := by
  rw [ofDigits_eq, Nat.ofDigitChars_replicate_zero, Nat.mul_zero]

/-- Digits are worth nothing exactly if all of them are zeros. -/
theorem ofDigits_eq_zero_iff {digits : List Char} (inside : ∀ c ∈ digits, c.isDigit = true) :
    ofDigits digits = 0 ↔ ∀ c ∈ digits, c = '0' := by
  -- The last digit adds what it is worth by itself, so the induction takes digits from the end.
  induction digits using List.reverseRecOn with
  | nil => simp
  | append_singleton front c ih =>
    have before := ih fun d member => inside d (by simp [member])
    obtain ⟨value, small, rfl⟩ := exists_digitChar (inside c (by simp))
    have last : value.digitChar = '0' ↔ value = 0 := by
      constructor
      · intro zero
        rw [← ofDigits_digitChar small, zero]
        rfl
      · rintro rfl
        rfl
    rw [ofDigits_concat front small, List.forall_mem_append, List.forall_mem_singleton, ← before,
      last]
    omega

/-- A number is below the power of ten that its digits leave free. -/
theorem ofDigits_lt {digits : List Char} (inside : ∀ c ∈ digits, c.isDigit = true) :
    ofDigits digits < 10 ^ digits.length := by
  -- One digit more makes room for ten times as many numbers.
  induction digits using List.reverseRecOn with
  | nil => decide
  | append_singleton front c ih =>
    have smaller := ih fun d member => inside d (by simp [member])
    obtain ⟨value, small, rfl⟩ := exists_digitChar (inside c (by simp))
    rw [ofDigits_concat front small, List.length_append, List.length_singleton, Nat.pow_succ]
    omega

/-- Zeros in front of digits and behind them are digits. -/
theorem isDigit_of_mem_padded {digits : List Char} (inside : ∀ c ∈ digits, c.isDigit = true)
    (before after : Nat) :
    ∀ c ∈ List.replicate before '0' ++ digits ++ List.replicate after '0', c.isDigit = true := by
  -- A character is one of the zeros on either side, or one of the digits.
  have zero : ('0' : Char).isDigit = true := by decide
  intro c member
  rcases List.mem_append.mp member with early | late
  · rcases List.mem_append.mp early with front | middle
    · rwa [List.eq_of_mem_replicate front]
    · exact inside c middle
  · rwa [List.eq_of_mem_replicate late]

/-! The digits of a number. -/

/-- The digits of a number denote the number. -/
@[simp] theorem ofDigits_digitsOf (value : Nat) : ofDigits (digitsOf value) = value :=
  Nat.ofDigitChars_toDigits (by decide) (by decide)

/-- What is written for a number are digits. -/
theorem isDigit_of_mem_digitsOf {value : Nat} {c : Char} (member : c ∈ digitsOf value) :
    c.isDigit = true :=
  Nat.isDigit_of_mem_toDigits (by decide) (by decide) member

/-- Every number is written with a digit at least. -/
theorem digitsOf_ne_nil (value : Nat) : digitsOf value ≠ [] :=
  Nat.toDigits_ne_nil

/-- The digits of a number other than zero have no zero in front. -/
theorem head?_digitsOf {value : Nat} (positive : value ≠ 0) :
    (digitsOf value).head? ≠ some '0' := by
  -- The number is written from its last digit, so the induction goes down to a tenth of it.
  induction value using Nat.strongRecOn with
  | ind value ih =>
    unfold digitsOf at ih ⊢
    rw [Nat.toDigits_eq_if (by decide)]
    split
    · rename_i small
      have digits : ∀ digit < 10, digit ≠ 0 → [Nat.digitChar digit].head? ≠ some '0' := by decide
      exact digits value small positive
    -- The digits of a tenth of the number stand in front.
    · have smaller : value / 10 < value := by omega
      have first := ih (value / 10) smaller (by omega)
      have filled : Nat.toDigits 10 (value / 10) ≠ [] := Nat.toDigits_ne_nil
      rwa [List.head?_append, Option.or_of_isSome (by simp [filled])]

/-- Digits without a zero in front are those of the number that they denote. -/
theorem digitsOf_ofDigits {digits : List Char} (inside : ∀ c ∈ digits, c.isDigit = true)
    (filled : digits ≠ []) (first : digits.head? ≠ some '0') :
    digitsOf (ofDigits digits) = digits := by
  -- The number is written from its last digit, so the induction takes digits from the end.
  induction digits using List.reverseRecOn with
  | nil => exact absurd rfl filled
  | append_singleton front c ih =>
    obtain ⟨value, small, rfl⟩ := exists_digitChar (inside c (by simp))
    rw [ofDigits_concat front small]
    by_cases empty : front = []
    · rw [empty, ofDigits_nil, Nat.zero_mul, Nat.zero_add]
      exact Nat.toDigits_of_lt_base small
    -- The digits in front denote a tenth of the number, which is not zero.
    · have start : front.head? ≠ some '0' := by
        rwa [List.head?_append, Option.or_of_isSome (by simp [empty])] at first
      have before := ih (fun d member => inside d (by simp [member])) empty start
      have positive : ofDigits front ≠ 0 := by
        intro zero
        rw [zero] at before
        exact start (before ▸ rfl)
      have tenth : (ofDigits front * 10 + value) / 10 = ofDigits front := by omega
      have last : (ofDigits front * 10 + value) % 10 = value := by omega
      unfold digitsOf at before ⊢
      rw [Nat.toDigits_eq_if (by decide), if_neg (by omega), tenth, last, before]

/-- The length of a number says between which powers of ten it is. -/
theorem decimalLength_le_iff {value count : Nat} : decimalLength value ≤ count ↔ value < 10 ^ count := by
  -- Zero has no digits by this measure; other numbers have those that are written.
  unfold decimalLength
  split
  · rename_i zero
    rw [zero]
    exact iff_of_true (Nat.zero_le _) (Nat.pow_pos (by decide))
  · rename_i positive
    -- Without digits there is only zero.
    cases count with
    | zero =>
      have filled : 0 < (digitsOf value).length := Nat.length_toDigits_pos
      omega
    | succ count => exact Nat.length_toDigits_le_iff (by decide) count.succ_pos

/-- A number other than zero is between two powers of ten. -/
theorem exists_decimalLength {value : Nat} (positive : value ≠ 0) :
    ∃ length, decimalLength value = length + 1 ∧ 10 ^ length ≤ value ∧ value < 10 ^ (length + 1) := by
  -- A number other than zero has a first digit, so the length is at least one.
  obtain ⟨length, same⟩ : ∃ length, decimalLength value = length + 1 := by
    refine Nat.exists_eq_succ_of_ne_zero fun none => ?_
    have small := decimalLength_le_iff.mp (Nat.le_of_eq none)
    omega
  refine ⟨length, same, ?_, decimalLength_le_iff.mp (Nat.le_of_eq same)⟩
  -- With a smaller number it would be shorter.
  by_contra small
  have short := decimalLength_le_iff.mpr (Nat.lt_of_not_le small)
  omega

end TypedRoutes

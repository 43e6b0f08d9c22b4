import Mathlib.Data.String.Basic

/-! The order of texts is that of their bytes in UTF-8, and what a common end does to it. -/

namespace TypedRoutes

/-- The bytes of a text in UTF-8. -/
def bytesOf (text : String) : List UInt8 :=
  text.toUTF8.data.toList

/-- The bytes of a text are those of its characters, side by side. -/
theorem bytesOf_eq (text : String) : bytesOf text = text.toList.flatMap String.utf8EncodeChar := by
  -- The encoding goes through the characters in order.
  rw [bytesOf, String.toUTF8_eq_toByteArray, ← String.utf8Encode_toList, List.utf8Encode,
    List.toList_data_toByteArray]

/-- The bytes of a smaller character are smaller, whatever follows either of them. -/
theorem utf8EncodeChar_lt {c d : Char} (less : c < d) (rest other : List UInt8) :
    String.utf8EncodeChar c ++ rest < String.utf8EncodeChar d ++ other := by
  -- A code is cut into groups of six bits, of which the first that differs decides.
  have codes : c.val.toNat < d.val.toNat := less
  have bound : d.val.toNat < 1114112 := by
    rcases d.valid with low | high
    · exact Nat.lt_trans low (by decide)
    · exact high.2
  unfold String.utf8EncodeChar
  dsimp only
  generalize c.val.toNat = small at *
  generalize d.val.toNat = great at *
  -- The bytes hold the digits of the codes to the base 64, which are compared from the first.
  have ones : small / 64 < great / 64 ∨
      small / 64 = great / 64 ∧ small % 64 < great % 64 := by omega
  have second : small / 64 < great / 64 → small / 4096 < great / 4096 ∨
      small / 4096 = great / 4096 ∧ small / 64 % 64 < great / 64 % 64 := by omega
  have third : small / 4096 < great / 4096 → small / 262144 < great / 262144 ∨
      small / 262144 = great / 262144 ∧ small / 4096 % 64 < great / 4096 % 64 := by omega
  split_ifs <;>
    simp (disch := omega) only [List.cons_append, List.nil_append, List.cons_lt_cons_iff,
      UInt8.lt_iff_toNat_lt, ← UInt8.toNat_inj, UInt8.toNat_ofNat', Nat.mod_eq_of_lt] <;>
    omega

/-- A smaller text has smaller bytes. -/
theorem bytesOf_lt_of_lt {first second : String} (less : first < second) :
    bytesOf first < bytesOf second := by
  rw [String.lt_iff] at less
  rw [bytesOf_eq, bytesOf_eq]
  generalize first.toList = chars at less
  generalize second.toList = others at less
  -- The texts are compared character by character, up to the first that differs.
  induction chars generalizing others with
  | nil =>
    cases others with
    | nil => exact absurd less (List.lt_irrefl [])
    | cons d others =>
      cases bytes : String.utf8EncodeChar d with
      | nil => exact absurd bytes String.utf8EncodeChar_ne_nil
      | cons byte more =>
        rw [List.flatMap_cons, bytes]
        exact List.nil_lt_cons _ _
  | cons c chars ih =>
    cases others with
    | nil => exact absurd less (List.not_lt_nil _)
    | cons d others =>
      rw [List.flatMap_cons, List.flatMap_cons]
      rcases List.cons_lt_cons_iff.mp less with smaller | ⟨rfl, later⟩
      · exact utf8EncodeChar_lt smaller _ _
      · exact List.append_left_lt (ih _ later)

/-- Texts are ordered as their bytes are. -/
theorem bytesOf_lt_iff {first second : String} :
    bytesOf first < bytesOf second ↔ first < second := by
  -- Of two texts one is smaller or both are the same, and the bytes follow either case.
  refine ⟨fun less => ?_, bytesOf_lt_of_lt⟩
  rcases lt_trichotomy first second with smaller | rfl | greater
  · exact smaller
  · exact absurd less (List.lt_irrefl _)
  · exact absurd less (List.lt_asymm (bytesOf_lt_of_lt greater))

/-- A character behind both of two lists keeps their order, unless the greater one goes on from the
smaller one with a character that comes before it. -/
theorem concat_lt_concat_iff {stop : Char} {chars others : List Char} (less : chars < others) :
    chars ++ [stop] < others ++ [stop] ↔ ∀ c rest, others = chars ++ c :: rest → stop ≤ c := by
  induction chars generalizing others with
  | nil =>
    cases others with
    | nil => exact absurd less (List.lt_irrefl [])
    | cons d others =>
      -- What is compared is the end of the one and a character of the other.
      have next : [stop] < d :: (others ++ [stop]) ↔ stop ≤ d := by
        rw [List.cons_lt_cons_iff, le_iff_lt_or_eq]
        cases others <;> simp
      rw [List.nil_append, List.cons_append, next]
      constructor
      · intro before c rest same
        cases same
        exact before
      · intro before
        exact before d others rfl
  -- In front, equal characters change nothing and different ones decide.
  | cons c chars ih =>
    cases others with
    | nil => exact absurd less (List.not_lt_nil _)
    | cons d others =>
      rw [List.cons_append, List.cons_append, List.cons_lt_cons_iff]
      rcases List.cons_lt_cons_iff.mp less with smaller | ⟨rfl, later⟩
      · refine iff_of_true (Or.inl smaller) fun e rest same => ?_
        exact absurd (List.cons.inj same).1 (ne_of_gt smaller)
      · rw [or_iff_right (lt_irrefl c), ih later]
        simp

end TypedRoutes

import TypedRoutes.Java.StringLiteral

/-! The first pass of Java over source text: Unicode escapes become the characters they name. -/

namespace TypedRoutes.Java

/-- The value of a hexadecimal digit of either case. -/
def hexValue? (c : Char) : Option Nat :=
  if '0' ≤ c ∧ c ≤ '9' then some (c.toNat - '0'.toNat)
  else if 'a' ≤ c ∧ c ≤ 'f' then some (c.toNat - 'a'.toNat + 10)
  else if 'A' ≤ c ∧ c ≤ 'F' then some (c.toNat - 'A'.toNat + 10)
  else none

/-- The character that four hexadecimal digits name. Half of a surrogate pair is refused, since it
is no character. -/
def namedChar? (a b c d : Char) : Option Char := do
  let first ← hexValue? a
  let second ← hexValue? b
  let third ← hexValue? c
  let fourth ← hexValue? d
  let code := ((16 * first + second) * 16 + third) * 16 + fourth
  if code.isValidChar then some (Char.ofNat code) else none

mutual

/-- Translates Unicode escapes in a text, where `slashes` backslashes stand just before it. A
backslash starts an escape if an even number of backslashes stands before it and a `u` behind it. -/
def translate? (slashes : Nat) : List Char → Option (List Char)
  | [] => some []
  | c :: rest =>
    if c = '\\' then
      if slashes % 2 = 0 ∧ rest.head? = some 'u' then translateEscape? rest
      else (translate? (slashes + 1) rest).map (c :: ·)
    else (translate? 0 rest).map (c :: ·)

/-- Goes on behind the backslash of an escape: any number of markers, then four digits. -/
def translateEscape? : List Char → Option (List Char)
  | 'u' :: rest => translateEscape? rest
  | a :: b :: c :: d :: rest =>
    match namedChar? a b c d with
    | some named => (translate? 0 rest).map (named :: ·)
    | none => none
  | _ => none

end

/-- Text that is translated to some characters, whatever follows it. -/
def Translates (text image : List Char) : Prop :=
  ∀ rest, translate? 0 (text ++ rest) = (translate? 0 rest).map (image ++ ·)

/-- Only the parity of the backslashes before a text matters. -/
theorem translate?_add_two (slashes : Nat) (text : List Char) :
    translate? (slashes + 2) text = translate? slashes text := by
  -- A further backslash adds one on both sides, and anything else forgets the count.
  induction text generalizing slashes with
  | nil => simp [translate?]
  | cons c rest ih =>
    have same : (slashes + 2) % 2 = slashes % 2 := by omega
    have next := ih (slashes + 1)
    rw [Nat.add_right_comm] at next
    simp only [translate?, same, next]

namespace Translates

/-- Nothing is translated to nothing. -/
theorem nil : Translates [] [] := by
  intro rest
  simp

/-- Texts side by side are translated apart from each other. -/
theorem append {first second image other : List Char} (begun : Translates first image)
    (ended : Translates second other) : Translates (first ++ second) (image ++ other) := by
  -- The second text is what follows the first one.
  intro rest
  rw [List.append_assoc, begun, ended, Option.map_map]
  simp [Function.comp_def]

/-- A character other than a backslash stands for itself. -/
theorem char {c : Char} (plain : c ≠ '\\') : Translates [c] [c] := by
  intro rest
  simp [translate?, plain]

/-- Text without backslashes stands for itself. -/
theorem plain {text : List Char} (free : '\\' ∉ text) : Translates text text := by
  -- One character after the other, none of them a backslash.
  induction text with
  | nil => exact nil
  | cons c rest ih =>
    simp only [List.mem_cons, not_or] at free
    exact (char (Ne.symm free.1)).append (ih free.2)

/-- A backslash with a character that is no marker stands for itself. -/
theorem pair {c : Char} (unmarked : c ≠ 'u') : Translates ['\\', c] ['\\', c] := by
  intro rest
  by_cases slash : c = '\\'
  -- Two backslashes leave an even number before the rest.
  · subst slash
    simp [translate?, translate?_add_two 0, Function.comp_def]
  · simp [translate?, unmarked, slash, Function.comp_def]

/-- An escape stands for the character that it names. -/
theorem escape {a b c d named : Char} (unmarked : a ≠ 'u')
    (found : namedChar? a b c d = some named) : Translates ['\\', 'u', a, b, c, d] [named] := by
  intro rest
  simp [translate?, translateEscape?, found]

/-- Pieces of text that are each translated are translated together. -/
theorem flatMap {raw image : Char → List Char} {text : List Char}
    (each : ∀ c ∈ text, Translates (raw c) (image c)) :
    Translates (text.flatMap raw) (text.flatMap image) := by
  -- One piece is put in front at a time.
  induction text with
  | nil => exact nil
  | cons c rest ih =>
    rw [List.flatMap_cons, List.flatMap_cons]
    exact (each c (by simp)).append (ih fun d member => each d (by simp [member]))

/-- Translated text is the whole translation where nothing follows. -/
theorem translate?_eq {text image : List Char} (translated : Translates text image) :
    translate? 0 text = some image := by
  simpa [translate?] using translated []

end Translates

/-- A digit below sixteen is read back. -/
theorem hexValue?_hexDigit {value : Nat} (small : value < 16) :
    hexValue? (hexDigit value) = some value := by
  -- There are sixteen digits.
  have all : ∀ digit < 16, hexValue? (hexDigit digit) = some digit := by decide
  exact all value small

/-- No digit is a marker or one of the characters that matter to string literals. -/
theorem hexDigit_not_mem {value : Nat} (small : value < 16) :
    hexDigit value ∉ ['u', '\\', '"', '\n', '\r'] := by
  -- Again only sixteen digits are to be looked at.
  have all : ∀ digit < 16, hexDigit digit ∉ ['u', '\\', '"', '\n', '\r'] := by decide
  exact all value small

/-- The four digits of a character of at most sixteen bits name the character. -/
theorem namedChar?_fourHexDigits {c : Char} (small : c.toNat < 65536) :
    namedChar? (hexDigit (c.toNat / 4096 % 16)) (hexDigit (c.toNat / 256 % 16))
      (hexDigit (c.toNat / 16 % 16)) (hexDigit (c.toNat % 16)) = some c := by
  -- The digits are those of the code, which is that of a character.
  have code : ((16 * (c.toNat / 4096 % 16) + c.toNat / 256 % 16) * 16 + c.toNat / 16 % 16) * 16 +
      c.toNat % 16 = c.toNat := by
    omega
  have valid : c.toNat.isValidChar := c.valid
  have digit (value : Nat) : hexValue? (hexDigit (value % 16)) = some (value % 16) :=
    hexValue?_hexDigit (Nat.mod_lt _ (by decide))
  simp [namedChar?, digit, code, valid]

end TypedRoutes.Java

import Mathlib.Tactic.SplitIfs
import TypedRoutes.Proofs.Java.UnicodeEscape

/-! Escaped text stands for itself inside a string literal, and the literal ends where it should. -/

namespace TypedRoutes.Java

/-- The character that a backslash makes of a letter or a mark. Octal escapes are refused. -/
def simpleEscape? (c : Char) : Option Char :=
  if c = 'b' then some '\x08'
  else if c = 's' then some ' '
  else if c = 't' then some '\t'
  else if c = 'n' then some '\n'
  else if c = 'f' then some '\x0c'
  else if c = 'r' then some '\r'
  else if c = '"' ∨ c = '\'' ∨ c = '\\' then some c
  else none

mutual

/-- Reads a string literal behind its opening quote: the value, and what follows the closing quote.
Unicode escapes have been translated before. -/
def stringBody? : List Char → Option (List Char × List Char)
  | [] => none
  | c :: rest =>
    if c = '"' then some ([], rest)
    else if c = '\n' ∨ c = '\r' then none
    else if c = '\\' then stringEscape? rest
    else (stringBody? rest).map fun (value, left) => (c :: value, left)

/-- Goes on behind a backslash in a string literal. -/
def stringEscape? : List Char → Option (List Char × List Char)
  | [] => none
  | mark :: rest =>
    match simpleEscape? mark with
    | some meant => (stringBody? rest).map fun (value, left) => (meant :: value, left)
    | none => none

end

/-- The number of backslashes at the end of a text. -/
def trailingSlashes (text : List Char) : Nat :=
  (text.reverse.takeWhile (· == '\\')).length

/-- Text that cannot end the string literal it stands in, nor the line. -/
structure Sealed (body : List Char) : Prop where
  /-- Every quote is escaped. -/
  quotes : ∀ before after, body = before ++ '"' :: after → trailingSlashes before % 2 = 1
  /-- There is no line feed. -/
  lineFeed : '\n' ∉ body
  /-- There is no carriage return. -/
  carriageReturn : '\r' ∉ body
  /-- The quote behind the text is not escaped. -/
  ending : trailingSlashes body % 2 = 0

/-- Only a text of nothing but backslashes goes on with those of the text before it. -/
theorem trailingSlashes_append {first : List Char} (even : trailingSlashes first % 2 = 0)
    (second : List Char) :
    trailingSlashes (first ++ second) % 2 = trailingSlashes second % 2 := by
  -- The count of the second text runs into the first one only where the second is all backslashes.
  unfold trailingSlashes at even ⊢
  rw [List.reverse_append, List.takeWhile_append]
  split
  -- All of the second text is counted, and an even number is added.
  · rename_i all
    rw [List.length_append, ← all]
    omega
  · rfl

namespace Sealed

/-- Nothing at all is sealed. -/
theorem nil : Sealed [] := by
  refine ⟨?_, by simp, by simp, rfl⟩
  intro before after split
  simp at split

/-- Sealed texts side by side are sealed. -/
theorem append {first second : List Char} (begun : Sealed first) (ended : Sealed second) :
    Sealed (first ++ second) := by
  -- The parity of the backslashes at the seam is even, so both texts keep their own counts.
  refine ⟨?_, ?_, ?_, ?_⟩
  · intro before after split
    -- The quote stands in the first text or in the second.
    rcases List.append_eq_append_iff.mp split with ⟨between, longer, rest⟩ | ⟨between, longer, rest⟩
    · subst longer
      rw [trailingSlashes_append begun.ending]
      exact ended.quotes between after rest
    · cases between with
      | nil =>
        have even := begun.ending
        have quote := ended.quotes [] after (by simpa using rest.symm)
        simp [trailingSlashes] at quote
      | cons head between =>
        cases rest
        exact begun.quotes before between longer
  · simpa using ⟨begun.lineFeed, ended.lineFeed⟩
  · simpa using ⟨begun.carriageReturn, ended.carriageReturn⟩
  · rw [trailingSlashes_append begun.ending]
    exact ended.ending

/-- A character without a meaning of its own is sealed. -/
theorem char {c : Char} (plain : c ∉ ['\\', '"', '\n', '\r']) : Sealed [c] := by
  simp only [List.mem_cons, List.not_mem_nil, or_false, not_or] at plain
  obtain ⟨slash, quote, feed, carriage⟩ := plain
  refine ⟨?_, by simpa using Ne.symm feed, by simpa using Ne.symm carriage, ?_⟩
  · intro before after split
    -- The one character is no quote.
    have member : '"' ∈ [c] := by simp [split]
    exact absurd (List.mem_singleton.mp member).symm quote
  · simp [trailingSlashes, slash]

/-- A backslash seals the character behind it, unless that ends the line. -/
theorem pair {c : Char} (feed : c ≠ '\n') (carriage : c ≠ '\r') : Sealed ['\\', c] := by
  refine ⟨?_, by simpa using Ne.symm feed, by simpa using Ne.symm carriage, ?_⟩
  · intro before after split
    -- Only the second character can be a quote, and the backslash is before it.
    rcases before with _ | ⟨head, _ | ⟨next, before⟩⟩
    · simp at split
    · cases split
      rfl
    · simp at split
  · by_cases slash : c = '\\' <;> simp [trailingSlashes, slash]

/-- Pieces that are sealed are sealed side by side. -/
theorem flatMap {raw : Char → List Char} (each : ∀ c, Sealed (raw c)) (text : List Char) :
    Sealed (text.flatMap raw) := by
  -- One piece is put in front at a time.
  induction text with
  | nil => exact nil
  | cons c rest ih => exact (each c).append ih

end Sealed

/-! What Java makes of an escaped character. -/

/-- An escaped character once Unicode escapes are translated: control characters without an escape
of their own stand for themselves. -/
def translatedEscape (c : Char) : List Char :=
  if c = '\\' then ['\\', '\\']
  else if c = '"' then ['\\', '"']
  else if c = '\n' then ['\\', 'n']
  else if c = '\r' then ['\\', 'r']
  else if c = '\t' then ['\\', 't']
  else [c]

/-- The ways to write a character inside a literal, before and after Unicode escapes are
translated. -/
inductive Escapes (c : Char) : List Char → List Char → Prop where
  /-- A mark behind a backslash. -/
  | short (mark : Char) (meant : simpleEscape? mark = some c) : Escapes c ['\\', mark] ['\\', mark]
  /-- The code in hexadecimal digits. -/
  | code (small : c.toNat < 65536) (plain : c ∉ ['\\', '"', '\n', '\r']) :
    Escapes c ('\\' :: 'u' :: fourHexDigits c.toNat) [c]
  /-- The character itself. -/
  | char (plain : c ∉ ['\\', '"', '\n', '\r']) : Escapes c [c] [c]

/-- Every character is written in one of these ways. -/
theorem escapes_escapeChar (c : Char) : Escapes c (escapeChar c) (translatedEscape c) := by
  -- The cases are those of the emitter, each in one of the three ways.
  unfold escapeChar translatedEscape
  split_ifs with slash quote feed carriage tab control
  -- Five characters have marks.
  · exact slash ▸ .short '\\' rfl
  · exact quote ▸ .short '"' rfl
  · exact feed ▸ .short 'n' rfl
  · exact carriage ▸ .short 'r' rfl
  · exact tab ▸ .short 't' rfl
  -- The codes of control characters have two digits.
  · have small : c.toNat < 65536 := by
      simp only [isControl, Bool.or_eq_true, Bool.and_eq_true, decide_eq_true_eq] at control
      omega
    exact .code small (by simp [slash, quote, feed, carriage])
  · exact .char (by simp [slash, quote, feed, carriage])

namespace Escapes

variable {c : Char} {raw image : List Char}

/-- A mark neither starts a Unicode escape nor ends the line. -/
theorem mark_not_mem {mark : Char} (meant : simpleEscape? mark = some c) :
    mark ∉ ['u', '\n', '\r'] := by
  intro member
  -- None of the three is a mark.
  simp only [List.mem_cons, List.not_mem_nil, or_false] at member
  rcases member with rfl | rfl | rfl <;> cases meant

/-- What is written for a character is translated to what Java sees of it. -/
theorem translates (written : Escapes c raw image) : Translates raw image := by
  -- A mark stays as it is, a code names its character, and any other character is no backslash.
  cases written with
  | short mark meant =>
    have other := mark_not_mem meant
    exact .pair fun same => other (by simp [same])
  | code small plain =>
    have first := hexDigit_not_mem (Nat.mod_lt (c.toNat / 4096) (by decide : 16 > 0))
    exact .escape (fun same => first (by simp [same])) (namedChar?_fourHexDigits small)
  | char plain => exact .char fun same => plain (by simp [same])

/-- What is written for a character is sealed. -/
theorem sealed_raw (written : Escapes c raw image) : Sealed raw := by
  cases written with
  | short mark meant =>
    have other := mark_not_mem meant
    exact .pair (fun same => other (by simp [same])) fun same => other (by simp [same])
  -- Behind the backslash and its marker there are digits only.
  | code small plain =>
    have digit (value : Nat) : Sealed [hexDigit (value % 16)] := by
      have other := hexDigit_not_mem (Nat.mod_lt value (by decide : 16 > 0))
      exact .char fun member => other (List.mem_cons_of_mem _ member)
    have marker : Sealed ['\\', 'u'] := .pair (by decide) (by decide)
    exact marker.append ((digit _).append ((digit _).append ((digit _).append (digit _))))
  | char plain => exact .char plain

/-- What Java sees of it once Unicode escapes are translated is sealed too. -/
theorem sealed_image (written : Escapes c raw image) : Sealed image := by
  -- The character of a code stands there by itself, so it may not be one of the special ones.
  cases written with
  | short mark meant => exact (short mark meant).sealed_raw
  | code small plain => exact .char plain
  | char plain => exact .char plain

/-- The translated escape is read as the character that was escaped. -/
theorem stringBody?_eq (written : Escapes c raw image) (rest : List Char) :
    stringBody? (image ++ rest) = (stringBody? rest).map fun (value, left) => (c :: value, left) := by
  -- A mark is read by its escape, and everything else stands for itself.
  cases written with
  | short mark meant => simp [stringBody?, stringEscape?, meant]
  | code small plain | char plain =>
    simp only [List.mem_cons, List.not_mem_nil, or_false, not_or] at plain
    simp [stringBody?, plain]

end Escapes

/-- Translated escapes are read up to the quote behind them. -/
theorem stringBody?_flatMap (text rest : List Char) :
    stringBody? (text.flatMap translatedEscape ++ '"' :: rest) = some (text, rest) := by
  -- One character is read at a time, until the quote ends the literal.
  induction text with
  | nil => simp [stringBody?]
  | cons c text ih =>
    rw [List.flatMap_cons, List.append_assoc, (escapes_escapeChar c).stringBody?_eq, ih]
    rfl

/-- The characters of an escaped text once Unicode escapes are translated. -/
def translatedBody (text : String) : List Char :=
  text.toList.flatMap translatedEscape

/-- An escaped text is translated as a whole, whatever stands behind it. -/
theorem translates_escape (text : String) :
    Translates (escape text).toList (translatedBody text) := by
  -- Each character is translated apart from the others.
  rw [escape, String.toList_ofList]
  exact .flatMap fun c _ => (escapes_escapeChar c).translates

/-- A string literal is translated with its quotes. -/
theorem translates_quote (text : String) :
    Translates (quote text).toList ('"' :: translatedBody text ++ ['"']) := by
  have mark : Translates ['"'] ['"'] := .char (by decide)
  simpa [quote] using mark.append ((translates_escape text).append mark)

/-- Escaped text is read back from a string literal: Java's two passes undo the escapes, no quote or
line end in between ends the literal, and the quote behind the text does. -/
theorem escape_reads_back (text : String) :
    ∃ body, translate? 0 (escape text).toList = some body ∧
      (∀ rest, stringBody? (body ++ '"' :: rest) = some (text.toList, rest)) ∧
      Sealed (escape text).toList ∧ Sealed body ∧
      (∀ rest image, translate? 0 rest = some image →
        translate? 0 ((quote text).toList ++ rest) = some ('"' :: body ++ '"' :: image)) ∧
      ∀ other, escape other = escape text → other = text := by
  -- The translated text is the same each time, so it is named first and all parts speak of it.
  have body (other : String) : translate? 0 (escape other).toList = some (translatedBody other) :=
    (translates_escape other).translate?_eq
  refine ⟨translatedBody text, body text, stringBody?_flatMap text.toList, ?_, ?_, ?_, ?_⟩
  · rw [escape, String.toList_ofList]
    exact .flatMap (fun c => (escapes_escapeChar c).sealed_raw) _
  · exact .flatMap (fun c => (escapes_escapeChar c).sealed_image) _
  · intro rest image translated
    rw [translates_quote text rest, translated]
    simp
  -- Equal texts are translated and read alike.
  · intro other same
    have translated := body other
    rw [same, body text, Option.some.injEq] at translated
    have read := stringBody?_flatMap other.toList []
    rw [← translatedBody, ← translated, translatedBody, stringBody?_flatMap] at read
    simpa [eq_comm, String.toList_inj] using read

end TypedRoutes.Java

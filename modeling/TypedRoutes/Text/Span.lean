/-! Byte positions in UTF-8 text: sizes, spans, and the text that a span covers. -/

namespace TypedRoutes

/-- The number of bytes that some characters take in UTF-8. -/
def byteSize (text : List Char) : Nat :=
  text.foldr (fun c size => c.utf8Size + size) 0

/-- No characters take no bytes. -/
@[simp] theorem byteSize_nil : byteSize [] = 0 := rfl

/-- The first character counts for its own bytes. -/
@[simp] theorem byteSize_cons (head : Char) (rest : List Char) :
    byteSize (head :: rest) = head.utf8Size + byteSize rest := rfl

/-- Sizes add up over concatenation. -/
@[simp] theorem byteSize_append (first second : List Char) :
    byteSize (first ++ second) = byteSize first + byteSize second := by
  induction first with
  | nil => simp
  | cons head rest ih => simp [ih, Nat.add_assoc]

/-- Characters take as many bytes as the string that they make up. -/
theorem byteSize_eq (text : List Char) : byteSize text = (String.ofList text).utf8ByteSize := by
  induction text with
  | nil => rfl
  | cons head rest ih =>
    rw [byteSize_cons, ih, String.ofList_cons, String.utf8ByteSize_append,
      String.utf8ByteSize_singleton]

/-- A half-open range of byte offsets. -/
structure Span where
  /-- Offset of the first byte. -/
  start : Nat
  /-- Offset just past the last byte. -/
  stop : Nat
  deriving DecidableEq

/-- A value together with the place where it was read. -/
structure Located (α : Type) where
  /-- What was read. -/
  value : α
  /-- Where it stands in the text. -/
  span : Span
  deriving DecidableEq

/-- The characters that start at or after a byte offset. -/
def dropBytes : Nat → List Char → List Char
  | 0, text => text
  | _ + 1, [] => []
  | count + 1, head :: rest => dropBytes (count + 1 - head.utf8Size) rest

/-- The characters that end at or before a byte offset. -/
def takeBytes : Nat → List Char → List Char
  | _, [] => []
  | count, head :: rest =>
    if head.utf8Size ≤ count then head :: takeBytes (count - head.utf8Size) rest else []

/-- The text that a span covers. -/
def Span.slice (span : Span) (text : String) : String :=
  String.ofList (takeBytes (span.stop - span.start) (dropBytes span.start text.toList))

/-- Dropping the bytes of some leading characters and more drops the more from the rest. -/
theorem dropBytes_byteSize_add (first second : List Char) (more : Nat) :
    dropBytes (byteSize first + more) (first ++ second) = dropBytes more second := by
  -- Every character has at least one byte, so the count never runs out early.
  induction first with
  | nil => simp
  | cons head rest ih =>
    have positive : 0 < head.utf8Size := Char.utf8Size_pos head
    obtain ⟨count, shape⟩ : ∃ count, head.utf8Size + byteSize rest + more = count + 1 :=
      ⟨head.utf8Size + byteSize rest + more - 1, by omega⟩
    have left : count + 1 - head.utf8Size = byteSize rest + more := by omega
    simp [shape, dropBytes, left, ih]

/-- Dropping exactly the bytes of some leading characters leaves the rest. -/
theorem dropBytes_byteSize_append (first second : List Char) :
    dropBytes (byteSize first) (first ++ second) = second := by
  have exact_count := dropBytes_byteSize_add first second 0
  simpa [dropBytes] using exact_count

/-- Taking exactly the bytes of some leading characters gives those characters. -/
theorem takeBytes_byteSize_append (first second : List Char) :
    takeBytes (byteSize first) (first ++ second) = first := by
  induction first with
  | nil =>
    cases second with
    | nil => rfl
    | cons head rest =>
      have positive : 0 < head.utf8Size := Char.utf8Size_pos head
      simp [takeBytes, Nat.not_le.2 positive]
  | cons head rest ih => simp [takeBytes, ih]

end TypedRoutes

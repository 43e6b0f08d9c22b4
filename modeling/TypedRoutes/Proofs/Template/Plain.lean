import TypedRoutes.Proofs.Template.Token
import TypedRoutes.Template.Tree

/-! Template trees without places: what they hold, how they are written, and where their parts stand
in the written text. -/

namespace TypedRoutes

/-- A declaration without places. -/
structure PlainDeclaration where
  /-- The word that should name a type. -/
  typeTag : String
  /-- The word that should name the parameter. -/
  name : String
  /-- The text after the equals sign. -/
  default : Option String
  deriving DecidableEq

/-- A part of a path segment without places. -/
inductive PlainPart where
  /-- A run of literal text. -/
  | literal (text : String)
  /-- A declaration in braces. -/
  | placeholder (declaration : PlainDeclaration)
  deriving DecidableEq

/-- A whole template without places. -/
structure PlainTree where
  /-- The path, one segment for each slash. -/
  segments : List (List PlainPart)
  /-- The declarations after the question mark, where there is one. -/
  query : Option (List PlainDeclaration)
  deriving DecidableEq

/-! What is left of a tree without its places. -/

/-- The declaration without places. -/
def Declaration.plain (declaration : Declaration) : PlainDeclaration :=
  ⟨declaration.typeTag.value, declaration.name.value, declaration.default.map Located.value⟩

/-- The part without places. -/
def SegmentPart.plain : SegmentPart → PlainPart
  | literal text => .literal text
  | placeholder declaration => .placeholder declaration.value.plain

/-- The tree without places. -/
def TemplateTree.plain (tree : TemplateTree) : PlainTree :=
  ⟨tree.segments.map fun segment => segment.value.map SegmentPart.plain,
    tree.query.map fun query => query.value.map fun declaration => declaration.value.plain⟩

/-! How a tree is written. -/

namespace PlainDeclaration

/-- The default with its equals sign. -/
def defaultSource (declaration : PlainDeclaration) : String :=
  match declaration.default with
  | none => ""
  | some text => "=" ++ text

/-- The declaration as it stands in the path. -/
def pathSource (declaration : PlainDeclaration) : String :=
  "\x7b" ++ declaration.typeTag ++ ":" ++ declaration.name ++ declaration.defaultSource ++ "\x7d"

/-- The declaration as it stands in the query. -/
def querySource (declaration : PlainDeclaration) : String :=
  declaration.name ++ "=\x7b" ++ declaration.typeTag ++ declaration.defaultSource ++ "\x7d"

end PlainDeclaration

/-- The part as it is written. -/
def PlainPart.source : PlainPart → String
  | literal text => text
  | placeholder declaration => declaration.pathSource

/-- A segment with its slash. -/
def segmentSource (parts : List PlainPart) : String :=
  "/" ++ String.join (parts.map PlainPart.source)

/-- The declarations of a query with ampersands between them. -/
def declarationsSource (declarations : List PlainDeclaration) : String :=
  "&".intercalate (declarations.map PlainDeclaration.querySource)

namespace PlainTree

/-- The path as it is written. -/
def pathSource (tree : PlainTree) : String :=
  String.join (tree.segments.map segmentSource)

/-- The query with its question mark. -/
def querySource (tree : PlainTree) : String :=
  match tree.query with
  | none => ""
  | some declarations => "?" ++ declarationsSource declarations

/-- The template as it is written. -/
def source (tree : PlainTree) : String :=
  tree.pathSource ++ tree.querySource

end PlainTree

/-! What a tree may hold. -/

/-- A text that is not empty and has none of some characters. -/
def FilledWithout (forbidden : List Char) (text : String) : Prop :=
  -- Every such text is a word of the template, so it may not be empty.
  text ≠ "" ∧ ∀ c ∈ text.toList, c ∉ forbidden

instance (forbidden : List Char) (text : String) : Decidable (FilledWithout forbidden text) :=
  decidable_of_iff (text ≠ "" ∧ (text.toList.all fun c => !forbidden.contains c) = true)
    (by simp [FilledWithout])

/-- Type tags and names hold no structural character, and defaults hold no brace. -/
structure PlainDeclaration.WellFormed (declaration : PlainDeclaration) : Prop where
  /-- The tag is a word. -/
  typeTag : FilledWithout ['/', '?', '&', '{', '}', ':', '='] declaration.typeTag
  /-- The name is a word. -/
  name : FilledWithout ['/', '?', '&', '{', '}', ':', '='] declaration.name
  /-- A default ends at the closing brace. -/
  default : ∀ text ∈ declaration.default, FilledWithout ['{', '}'] text

instance (declaration : PlainDeclaration) : Decidable declaration.WellFormed :=
  decidable_of_iff (_ ∧ _ ∧ _)
    ⟨fun ⟨typeTag, name, default⟩ => ⟨typeTag, name, default⟩,
      fun ⟨typeTag, name, default⟩ => ⟨typeTag, name, default⟩⟩

/-- Literal text ends where a placeholder, a segment or the query begins. -/
def PlainPart.WellFormed : PlainPart → Prop
  | literal text => FilledWithout ['/', '?', '{', '}'] text
  | placeholder declaration => declaration.WellFormed

instance : DecidablePred PlainPart.WellFormed
  | .literal text => inferInstanceAs (Decidable (FilledWithout _ text))
  | .placeholder declaration => inferInstanceAs (Decidable declaration.WellFormed)

/-- Whether a part is literal text. -/
def PlainPart.isLiteral : PlainPart → Bool
  | literal _ => true
  | placeholder _ => false

/-- Parts that keep their boundary when they are written side by side. -/
def PlainPart.Apart (left right : PlainPart) : Prop :=
  -- Only two literals melt into one when they are written side by side.
  ¬ (left.isLiteral = true ∧ right.isLiteral = true)

instance : DecidableRel PlainPart.Apart :=
  fun _ _ => inferInstanceAs (Decidable (¬ _))

/-- The trees that templates stand for. -/
structure PlainTree.WellFormed (tree : PlainTree) : Prop where
  /-- There is a path. -/
  path : tree.segments ≠ []
  /-- Every part can be written. -/
  parts : ∀ parts ∈ tree.segments, ∀ part ∈ parts, part.WellFormed
  /-- Literal text is never split into two literals. -/
  apart : ∀ parts ∈ tree.segments, parts.IsChain PlainPart.Apart
  /-- A query has a declaration. -/
  query : tree.query ≠ some []
  /-- Every declaration of the query can be written. -/
  declarations : ∀ declarations ∈ tree.query, ∀ declaration ∈ declarations, declaration.WellFormed

instance (tree : PlainTree) : Decidable tree.WellFormed :=
  decidable_of_iff (_ ∧ _ ∧ _ ∧ _ ∧ _)
    ⟨fun ⟨path, parts, apart, query, declarations⟩ => ⟨path, parts, apart, query, declarations⟩,
      fun ⟨path, parts, apart, query, declarations⟩ => ⟨path, parts, apart, query, declarations⟩⟩

/-! Where the parts of a tree stand in the text that is written for it. -/

/-- A text that starts at an offset. -/
def locateText (offset : Nat) (text : String) : Located String :=
  ⟨text, ⟨offset, offset + byteSize text.toList⟩⟩

namespace PlainDeclaration

/-- The places of a declaration that starts at an offset of the path. -/
def placeInPath (declaration : PlainDeclaration) (offset : Nat) : Located Declaration :=
  -- Behind the brace comes the tag, behind the colon the name, behind the equals sign the default.
  let typeTag := locateText (offset + 1) declaration.typeTag
  let name := locateText (typeTag.span.stop + 1) declaration.name
  let default := declaration.default.map (locateText (name.span.stop + 1))
  ⟨⟨typeTag, name, default⟩, ⟨offset, offset + byteSize declaration.pathSource.toList⟩⟩

/-- The places of a declaration that starts at an offset of the query. -/
def placeInQuery (declaration : PlainDeclaration) (offset : Nat) : Located Declaration :=
  -- The name comes first, and the tag stands behind an equals sign and a brace.
  let name := locateText offset declaration.name
  let typeTag := locateText (name.span.stop + 2) declaration.typeTag
  let default := declaration.default.map (locateText (typeTag.span.stop + 1))
  ⟨⟨typeTag, name, default⟩, ⟨offset, offset + byteSize declaration.querySource.toList⟩⟩

end PlainDeclaration

/-- The places of a part that starts at an offset. -/
def PlainPart.place (offset : Nat) : PlainPart → SegmentPart
  | literal text => .literal text
  | placeholder declaration => .placeholder (declaration.placeInPath offset)

/-- The places of parts side by side. -/
def placeParts (offset : Nat) : List PlainPart → Segment
  | [] => []
  | part :: rest =>
    part.place offset :: placeParts (offset + byteSize part.source.toList) rest

/-- The places of segments side by side. -/
def placeSegments (offset : Nat) : List (List PlainPart) → List (Located Segment)
  | [] => []
  | parts :: rest =>
    let stop := offset + byteSize (segmentSource parts).toList
    -- The parts begin behind the slash.
    ⟨placeParts (offset + 1) parts, ⟨offset, stop⟩⟩ :: placeSegments stop rest

/-- The places of declarations in the query, with an ampersand between one and the next. -/
def placeDeclarations (offset : Nat) : List PlainDeclaration → List (Located Declaration)
  | [] => []
  | declaration :: rest =>
    declaration.placeInQuery offset ::
      placeDeclarations (offset + byteSize declaration.querySource.toList + 1) rest

/-- The tree with the places that its parts have in the text written for it. -/
def PlainTree.place (tree : PlainTree) : TemplateTree :=
  let start := byteSize tree.pathSource.toList
  -- The question mark is the first byte of the query, and its declarations stand behind it.
  ⟨placeSegments 0 tree.segments,
    tree.query.map fun declarations =>
      ⟨placeDeclarations (start + 1) declarations, ⟨start, byteSize tree.source.toList⟩⟩⟩

/-! Places do not change a tree. -/

/-- Placing a declaration of the path changes none of its texts. -/
@[simp] theorem PlainDeclaration.plain_placeInPath (declaration : PlainDeclaration) (offset : Nat) :
    (declaration.placeInPath offset).value.plain = declaration := by
  -- Placing keeps a default exactly where there is one.
  cases declaration with
  | mk typeTag name default => cases default <;> rfl

/-- Placing a declaration of the query changes none of its texts. -/
@[simp] theorem PlainDeclaration.plain_placeInQuery (declaration : PlainDeclaration)
    (offset : Nat) : (declaration.placeInQuery offset).value.plain = declaration := by
  -- As in the path.
  cases declaration with
  | mk typeTag name default => cases default <;> rfl

/-- Placing a part changes none of its texts. -/
@[simp] theorem PlainPart.plain_place (part : PlainPart) (offset : Nat) :
    (part.place offset).plain = part := by
  -- A literal is kept as it is, and a placeholder holds a declaration of the path.
  cases part <;> simp [place, SegmentPart.plain]

/-- Placing parts side by side changes none of them. -/
@[simp] theorem plain_placeParts (offset : Nat) (parts : List PlainPart) :
    (placeParts offset parts).map SegmentPart.plain = parts := by
  -- The offset moves on from part to part, and no part depends on it.
  induction parts generalizing offset with
  | nil => rfl
  | cons part rest ih => simp [placeParts, ih]

/-- Placing segments side by side changes none of them. -/
theorem plain_placeSegments (offset : Nat) (segments : List (List PlainPart)) :
    (placeSegments offset segments).map (fun segment => segment.value.map SegmentPart.plain) =
      segments := by
  -- As for the parts, whatever the offset of a segment is.
  induction segments generalizing offset with
  | nil => rfl
  | cons parts rest ih => simp [placeSegments, ih]

/-- Placing the declarations of a query changes none of them. -/
theorem plain_placeDeclarations (offset : Nat) (declarations : List PlainDeclaration) :
    (placeDeclarations offset declarations).map (fun declaration => declaration.value.plain) =
      declarations := by
  -- As for the parts, with an ampersand between two declarations.
  induction declarations generalizing offset with
  | nil => rfl
  | cons declaration rest ih => simp [placeDeclarations, ih]

/-- A tree is the same without its places. -/
@[simp] theorem PlainTree.plain_place (tree : PlainTree) : tree.place.plain = tree := by
  -- Path and query are placed apart from each other.
  cases tree with
  | mk segments query =>
    cases query <;>
      simp [place, TemplateTree.plain, plain_placeSegments, plain_placeDeclarations]

end TypedRoutes

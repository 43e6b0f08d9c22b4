import TypedRoutes.Text.Span

/-! The tree of a route template: segments of literal text and placeholders, then an optional query. -/

namespace TypedRoutes

/-- A parameter as it is written; its type tag and name are still plain text. -/
structure Declaration where
  /-- The word that should name a type. -/
  typeTag : Located String
  /-- The word that should name the parameter. -/
  name : Located String
  /-- The text after the equals sign, kept verbatim. -/
  default : Option (Located String)
  deriving DecidableEq

/-- A part of a path segment. -/
inductive SegmentPart where
  /-- A run of literal text. -/
  | literal (text : String)
  /-- A declaration in braces. -/
  | placeholder (declaration : Located Declaration)
  deriving DecidableEq

/-- What follows one slash of the path, up to the next. -/
abbrev Segment := List SegmentPart

/-- A whole template. -/
structure TemplateTree where
  /-- The path, one segment for each slash. -/
  segments : List (Located Segment)
  /-- The declarations after the question mark, where there is one. -/
  query : Option (Located (List (Located Declaration)))
  deriving DecidableEq

/-- The declaration of a part, if it is a placeholder. -/
def SegmentPart.declaration? : SegmentPart → Option (Located Declaration)
  | literal _ => none
  | placeholder declaration => some declaration

namespace TemplateTree

/-- The declarations in the path, from left to right. -/
def pathDeclarations (tree : TemplateTree) : List (Located Declaration) :=
  tree.segments.flatMap fun segment => segment.value.filterMap SegmentPart.declaration?

/-- The declarations in the query, from left to right. -/
def queryDeclarations (tree : TemplateTree) : List (Located Declaration) :=
  match tree.query with
  | none => []
  | some query => query.value

end TemplateTree

end TypedRoutes

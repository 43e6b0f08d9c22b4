import TypedRoutes.Param.Resolve

/-! The path under which a route is registered: the template with bare names for its placeholders. -/

namespace TypedRoutes

/-- How a bare placeholder is written. -/
inductive PlaceholderForm where
  /-- The name in braces. -/
  | braces
  /-- A colon before the name. -/
  | colon
  deriving DecidableEq

/-- What becomes of the query of a template. -/
inductive QueryHandling where
  /-- It is left out. -/
  | strip
  /-- It is kept as it was written. -/
  | keep
  deriving DecidableEq

/-- How registration paths are written. -/
structure PathOptions where
  /-- The form of a placeholder. -/
  style : PlaceholderForm := .braces
  /-- What becomes of the query. -/
  query : QueryHandling := .strip
  deriving DecidableEq

/-- A placeholder of this name. -/
def PlaceholderForm.write (style : PlaceholderForm) (name : String) : String :=
  match style with
  | braces => "\x7b" ++ name ++ "\x7d"
  | colon => ":" ++ name

/-- A part of a segment in a registration path. -/
def SegmentPart.registered (style : PlaceholderForm) : SegmentPart → String
  | literal text => text
  | placeholder declaration => style.write declaration.value.name.value

namespace TemplateTree

/-- The path of a tree with bare placeholders. -/
def barePath (tree : TemplateTree) (style : PlaceholderForm) : String :=
  String.join (tree.segments.map fun segment =>
    "/" ++ String.join (segment.value.map (SegmentPart.registered style)))

/-- The registration path of a tree that was read from `template`. -/
def registrationPath (tree : TemplateTree) (template : String) (options : PathOptions) : String :=
  match options.query, tree.query with
  -- The query is cut out of the template as it stands, with its question mark.
  | .keep, some query => tree.barePath options.style ++ query.span.slice template
  | _, _ => tree.barePath options.style

end TemplateTree

/-- The registration path of a template; only a template with valid parameters has one. -/
def registrationPath (template : String) (options : PathOptions) :
    Except TemplateError String := do
  let tree ← parseTree template
  -- The parameters are not needed here, but they have to be valid.
  let _ ← tree.resolve
  pure (tree.registrationPath template options)

end TypedRoutes

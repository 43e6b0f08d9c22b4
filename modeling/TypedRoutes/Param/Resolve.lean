import TypedRoutes.Param.Basic
import TypedRoutes.Template.Parser
import TypedRoutes.Text.Identifier

/-! The parameters that a template declares: known types, proper names, and each name only once. -/

namespace TypedRoutes

namespace Declaration

/-- The declared type, or the error that the tag names none. -/
def resolveType (declaration : Declaration) : Except TemplateError ParamType :=
  match ParamType.ofTag? declaration.typeTag.value with
  | some type => .ok type
  | none => .error (.unknownType declaration.typeTag.value declaration.typeTag.span.start)

/-- The error that the declared name is no identifier, where it is none. -/
def checkName (declaration : Declaration) : Except TemplateError Unit :=
  if isIdentifier declaration.name.value then .ok ()
  else .error (.invalidName declaration.name.value declaration.name.span.start)

/-- The error that an earlier name is the declared one. -/
def checkNew (declaration : Declaration) (earlier : List (Located String)) :
    Except TemplateError Unit :=
  match earlier.find? fun name => name.value == declaration.name.value with
  | none => .ok ()
  | some first =>
    .error (.repeatedName declaration.name.value first.span declaration.name.span)

/-- The declared parameter. Type and name are checked in the order in which they are written: the
type comes first in the path and the name in the query. -/
def resolve (declaration : Declaration) (source : Source) (earlier : List (Located String)) :
    Except TemplateError Param := do
  let type ← match source with
    | .path => do
      let type ← declaration.resolveType
      declaration.checkName
      pure type
    | .query => do
      declaration.checkName
      declaration.resolveType
  -- Whether the name is new is asked last, when type and name are known to be proper.
  declaration.checkNew earlier
  pure ⟨declaration.name.value, source, type, declaration.default.map Located.value⟩

end Declaration

/-- The parameters of some declarations of one source, after names that were declared earlier. -/
def resolveAll (source : Source) (earlier : List (Located String)) :
    List Declaration → Except TemplateError (List Param)
  | [] => .ok []
  | declaration :: rest => do
    let param ← declaration.resolve source earlier
    let params ← resolveAll source (earlier ++ [declaration.name]) rest
    pure (param :: params)

/-- The parameters of a tree. The first declaration with a fault decides the error. -/
def TemplateTree.resolve (tree : TemplateTree) : Except TemplateError ParamList := do
  let pathDeclarations := tree.pathDeclarations.map Located.value
  let path ← resolveAll .path [] pathDeclarations
  -- Names of the path count as earlier for the query.
  let query ← resolveAll .query (pathDeclarations.map Declaration.name)
    (tree.queryDeclarations.map Located.value)
  pure ⟨path, query⟩

/-- The parameters of a template. -/
def parseParams (template : String) : Except TemplateError ParamList := do
  let tree ← parseTree template
  tree.resolve

end TypedRoutes

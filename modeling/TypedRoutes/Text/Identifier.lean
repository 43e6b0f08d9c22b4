import TypedRoutes.Text.Split

/-! Identifiers of ASCII letters, digits and underscores, alone and joined by dots. -/

namespace TypedRoutes

/-- An ASCII letter or an underscore may start an identifier. -/
def isIdentifierStart (c : Char) : Bool :=
  c.isAlpha || c == '_'

/-- ASCII digits may follow as well. -/
def isIdentifierPart (c : Char) : Bool :=
  c.isAlphanum || c == '_'

/-- `[A-Za-z_][A-Za-z0-9_]*`. -/
def isIdentifier (text : String) : Bool :=
  match text.toList with
  | [] => false
  | first :: rest => isIdentifierStart first && rest.all isIdentifierPart

/-- Identifiers joined by single dots. -/
def isDottedIdentifier (text : String) : Bool :=
  (splitBy '.' text.toList).all fun part => isIdentifier (String.ofList part)

end TypedRoutes

import TypedRoutes.Template.Token

/-! What can be wrong with a template, where, and how it is worded. -/

namespace TypedRoutes

/-- Something that could stand at the place of a syntax error. -/
inductive Expectation where
  /-- One particular structural token. -/
  | token (token : Token)
  /-- Any token at all, as inside a default. -/
  | anyToken
  /-- The end of the template. -/
  | endOfTemplate
  deriving DecidableEq

/-- A token that cannot continue the template, or an end that comes too early. -/
structure SyntaxError where
  /-- The place that is shown. -/
  span : Span
  /-- The token that is blamed; `none` is the end of the template. -/
  found : Option Token
  /-- What could have stood there instead. -/
  expected : List Expectation
  deriving DecidableEq

/-- The reasons why a template is refused. -/
inductive TemplateError where
  /-- There is no path: the text is blank or starts with its query. -/
  | noPath
  /-- The type tag at this offset names no type. -/
  | unknownType (tag : String) (position : Nat)
  /-- The name at this offset is no identifier. -/
  | invalidName (name : String) (position : Nat)
  /-- The name was declared at `first` and again at `again`. -/
  | repeatedName (name : String) (first again : Span)
  /-- The template does not follow the grammar. -/
  | malformed (error : SyntaxError)
  deriving DecidableEq

/-- A token as errors show it. -/
def Token.describe : Token → String
  | text run => "text '" ++ run ++ "'"
  | token => "'" ++ token.source ++ "'"

/-- An expectation as errors show it. -/
def Expectation.describe : Expectation → String
  | token expected => expected.describe
  | anyToken => "any token"
  | endOfTemplate => "end of template"

/-- A span as errors show it. -/
def Span.describe (span : Span) : String :=
  toString span.start ++ ".." ++ toString span.stop

namespace SyntaxError

/-- What stands at the place of the error. -/
def foundText (error : SyntaxError) : String :=
  match error.found with
  | some token => token.describe
  | none => "end of template"

/-- The error in one line. -/
def message (error : SyntaxError) : String :=
  "syntax error at " ++ error.span.describe ++ ": Unexpected " ++ error.foundText

end SyntaxError

namespace TemplateError

/-- The error in one line. -/
def message : TemplateError → String
  | noPath => "template is empty or has no path segment"
  | unknownType tag position =>
    "unknown parameter type '" ++ tag ++ "' at offset " ++ toString position
  | invalidName name position =>
    "invalid parameter name '" ++ name ++ "' at offset " ++ toString position
  | repeatedName name _ _ => "duplicate parameter '" ++ name ++ "'"
  | malformed error => error.message

/-- The place that the error points at. -/
def span : TemplateError → Span
  | noPath => ⟨0, 0⟩
  | unknownType token position | invalidName token position =>
    ⟨position, position + byteSize token.toList⟩
  | repeatedName _ _ again => again
  | malformed error => error.span

end TemplateError

end TypedRoutes

import TypedRoutes.Compile
import TypedRoutes.Report.Layout

/-! Reports of errors in templates. -/

namespace TypedRoutes

open Report

/-- The labels of an error. Its byte offsets are given as if they were character offsets. -/
def TemplateError.labels (error : TemplateError) : List Label :=
  match error with
  | .noPath => []
  | .unknownType _ _ => [⟨error.span, "not a parameter type", .red⟩]
  | .invalidName _ _ => [⟨error.span, "names must match [A-Za-z_][A-Za-z0-9_]*", .red⟩]
  | .repeatedName _ first again =>
    -- The later declaration is at fault, and the earlier one is shown for comparison.
    [⟨again, "declared again here", .red⟩, ⟨first, "first declared here", .blue⟩]
  | .malformed cause =>
    let text :=
      if cause.expected.isEmpty then "here"
      else "expected " ++ ", ".intercalate (cause.expected.map Expectation.describe)
    [⟨cause.span, text, .red⟩]

/-- The advice for an error. -/
def TemplateError.help : TemplateError → Option String
  | .unknownType _ _ => some ("valid types are " ++ ", ".intercalate (ParamType.all.map ParamType.tag))
  | _ => none

/-- The report of an error in a template. -/
def TemplateError.report (error : TemplateError) (template fileName : String) : String :=
  Diagnostic.render ⟨error.message, error.span.start, error.labels, error.help⟩ template fileName

/-- The report of an error of any kind. -/
def CompileError.report (error : CompileError) (template fileName : String) : String :=
  match error with
  | .template cause => cause.report template fileName
  | .code cause => "Error: " ++ cause.message ++ " (in " ++ fileName ++ ")\n"

end TypedRoutes

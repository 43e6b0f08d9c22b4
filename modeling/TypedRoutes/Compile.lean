import TypedRoutes.Java.Statement
import TypedRoutes.RegistrationPath

/-! The whole way of one template: its registration path, its parameters and their code. -/

namespace TypedRoutes

/-- The reasons why a template yields no code. -/
inductive CompileError where
  /-- The template is refused. -/
  | template (error : TemplateError)
  /-- The template is fine, but no code can be written for it. -/
  | code (error : Java.CodeError)
  deriving DecidableEq

/-- The error in one line. -/
def CompileError.message : CompileError → String
  | template error => "template error: " ++ error.message
  | code error => "emit error: " ++ error.message

/-- What a template yields. -/
structure RouteCode where
  /-- The registration path. -/
  path : String
  /-- The declared parameters. -/
  params : ParamList
  /-- The code for the parameters. -/
  code : Java.Code
  deriving DecidableEq

/-- A step that looks at the template only. -/
def ofTemplate {α : Type} (step : Except TemplateError α) : Except CompileError α :=
  step.mapError .template

/-- A step that writes code. -/
def ofCode {α : Type} (step : Except Java.CodeError α) : Except CompileError α :=
  step.mapError .code

/-- Compiles a template. -/
def compile (template : String) (pathOptions : PathOptions) (codeNames : Java.CodeNames) :
    Except CompileError RouteCode := do
  let tree ← ofTemplate (parseTree template)
  let params ← ofTemplate tree.resolve
  -- Code is only asked for where the template is valid, so errors of the template come first.
  let code ← ofCode (Java.codeFor codeNames params)
  pure ⟨tree.registrationPath template pathOptions, params, code⟩

end TypedRoutes

import TypedRoutes.Compile
import TypedRoutes.Manifest.Basic

/-! The file that a route generates. -/

namespace TypedRoutes

/-- A generated source file. -/
structure SourceFile where
  /-- The name of the file. -/
  name : String
  /-- The registration path that the file holds. -/
  path : String
  /-- The content of the file. -/
  source : String
  deriving DecidableEq

/-- What became of one route. -/
structure Outcome where
  route : Route
  result : Except CompileError SourceFile

/-- What the files of a manifest have in common. -/
def Manifest.unitOptions (manifest : Manifest) : Java.UnitOptions :=
  let defaults : Java.UnitOptions := {}
  { defaults with runtimePackage := manifest.runtimePackage }

/-- Generates the file for one route. -/
def Manifest.fileFor (manifest : Manifest) (route : Route) :
    Except CompileError SourceFile := do
  let tree ← ofTemplate (parseTree route.template)
  let params ← ofTemplate tree.resolve
  -- The path is written for the router, the template stays as the user wrote it.
  let path := tree.registrationPath route.template manifest.pathOptions
  let handler := route.handler manifest.package
  let source ← ofCode (Java.unitSource handler path params manifest.unitOptions)
  pure ⟨handler.fileName, path, source⟩

/-- What becomes of one route. -/
def Manifest.outcome (manifest : Manifest) (route : Route) : Outcome :=
  ⟨route, manifest.fileFor route⟩

end TypedRoutes

import TypedRoutes.Generate.Basic
import TypedRoutes.Proofs.Manifest.Check

/-! The file of a route: when there is one, and what it is called. -/

namespace TypedRoutes.Manifest

variable {manifest : Manifest} {route : Route} {file : SourceFile}

/-- A route has a file if its template has parameters for which a source can be written. -/
theorem fileFor_eq_ok_iff :
    manifest.fileFor route = .ok file ↔ ∃ tree params source,
      parseTree route.template = .ok tree ∧ tree.resolve = .ok params ∧
      Java.unitSource (route.handler manifest.package)
        (tree.registrationPath route.template manifest.pathOptions) params manifest.unitOptions =
          .ok source ∧
      file = ⟨(route.handler manifest.package).fileName,
        tree.registrationPath route.template manifest.pathOptions, source⟩ := by
  -- The three steps may fail, and the last one only puts together what they give.
  simp only [fileFor, ofTemplate, ofCode, bind_eq_ok_iff, mapError_eq_ok_iff, pure,
    Except.pure, Except.ok.injEq, exists_and_left, eq_comm (a := file)]

/-- The package has no part in the name of a file. -/
theorem name_of_fileFor (made : manifest.fileFor route = .ok file) :
    file.name = route.generatedClass ++ ".java" := by
  -- The name is that of the generated class.
  obtain ⟨tree, params, source, -, -, -, rfl⟩ := fileFor_eq_ok_iff.mp made
  rfl

end TypedRoutes.Manifest

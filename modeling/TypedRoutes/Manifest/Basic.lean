import TypedRoutes.Java.Unit
import TypedRoutes.RegistrationPath
import TypedRoutes.Text.Identifier

/-! Manifests: the routes of a project with the settings that they share, and what makes one valid. -/

namespace TypedRoutes

/-- One route: a template and the method that handles its requests. -/
structure Route where
  /-- The simple name of the class that holds the method. -/
  className : String
  /-- The name of the method. -/
  method : String
  /-- The typed template. -/
  template : String
  deriving DecidableEq

/-- The name of a route in messages. -/
def Route.title (route : Route) : String :=
  route.className ++ "." ++ route.method

/-- Routes with shared settings. -/
structure Manifest where
  /-- The package of the generated classes; empty for the default package. -/
  package : String := ""
  /-- The package of the classes that read requests. -/
  runtimePackage : String := Java.defaultRuntimePackage
  /-- How registration paths are written. -/
  pathOptions : PathOptions := ⟨.braces, .strip⟩
  /-- The routes. -/
  routes : List Route := []
  deriving DecidableEq

/-- The handler of a route in a package. -/
def Route.handler (route : Route) (package : String) : Java.Handler :=
  ⟨package, route.className, route.method⟩

/-- What is wrong with a name in a route. -/
inductive RouteFault where
  | className (name : String)
  | methodName (name : String)
  deriving DecidableEq

/-- The fault in words. -/
def RouteFault.message : RouteFault → String
  | className name => "'" ++ name ++ "' is not a valid class name"
  | methodName name => "'" ++ name ++ "' is not a valid method name"

/-- The reasons why a manifest is refused. -/
inductive ManifestError where
  /-- The text is no TOML, or it does not have the form of a manifest. -/
  | badForm
  /-- A name of the route at this index is no identifier. -/
  | badRouteName (index : Nat) (fault : RouteFault)
  /-- A package is not made of identifiers. -/
  | badPackage (package : String)
  /-- The route at `index` generates the same class as an earlier one. -/
  | sameClass (index first : Nat) (generated : String)
  deriving DecidableEq

/-- The error in one line. -/
def ManifestError.message : ManifestError → String
  | badForm => "Failed to parse manifest TOML"
  | badRouteName index fault => "Invalid route #" ++ toString index ++ ": " ++ fault.message
  | badPackage package => "Invalid package name '" ++ package ++ "'"
  | sameClass index first generated =>
    "Routes #" ++ toString first ++ " and #" ++ toString index ++ " both generate class "
      ++ generated

namespace Manifest

/-- The error that a package is neither empty nor made of identifiers. -/
def checkPackage (package : String) : Except ManifestError Unit :=
  if package.isEmpty || isDottedIdentifier package then .ok ()
  else .error (.badPackage package)

/-- The error of a route after routes that generate the classes `earlier`. -/
def checkRoute (route : Route) (earlier : List String) : Except ManifestError Unit :=
  let index := earlier.length
  let generated := (route.handler "").generatedClass
  if !isIdentifier route.className then .error (.badRouteName index (.className route.className))
  else if !isIdentifier route.method then .error (.badRouteName index (.methodName route.method))
  else
    -- Two routes of one class would write the same file.
    match earlier.idxOf? generated with
    | some first => .error (.sameClass index first generated)
    | none => .ok ()

/-- The first error of some routes after routes that generate the classes `earlier`. -/
def checkRoutes (earlier : List String) : List Route → Except ManifestError Unit
  | [] => .ok ()
  | route :: rest => do
    checkRoute route earlier
    checkRoutes (earlier ++ [(route.handler "").generatedClass]) rest

/-- The first error of a manifest: packages come before routes. Only the package of the generated
classes may be empty. -/
def check (manifest : Manifest) : Except ManifestError Unit := do
  checkPackage manifest.package
  checkPackage manifest.runtimePackage
  -- Imports need a package, while a class may do without.
  if manifest.runtimePackage.isEmpty then .error (.badPackage "")
  checkRoutes [] manifest.routes

end Manifest

end TypedRoutes

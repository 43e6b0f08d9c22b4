import TypedRoutes.Manifest.Basic
import TypedRoutes.Toml.Document

/-! Manifests as TOML documents. -/

namespace TypedRoutes

open Toml (Value Entries)

/-- The text of a string. -/
def decodeString : Value → Option String
  | .string text => some text
  | _ => none

/-- The entry for a key, or a default where there is none. -/
def decodeField {α : Type} (decode : Value → Option α) (absent : Option α) (entries : Entries)
    (key : String) : Option α :=
  match entries.lookup key with
  | some value => decode value
  | none => absent

/-- Whether a value is an array or a table without content. -/
def isHollow : Value → Bool
  | .array items => items.isEmpty
  | .tables elements => elements.isEmpty
  | .table _ entries => entries.isEmpty
  | _ => false

/-- The word of a choice: a string, or the only key of a table, under which nothing stands. -/
def decodeWord : Value → Option String
  | .string word => some word
  | .table _ [(word, content)] => if isHollow content then some word else none
  | _ => none

/-- The form of placeholders that a word names. -/
def decodeStyle (value : Value) : Option PlaceholderForm :=
  match decodeWord value with
  | some "braces" => some .braces
  | some "colon" => some .colon
  | _ => none

/-- The treatment of queries that a word names. -/
def decodeQuery (value : Value) : Option QueryHandling :=
  match decodeWord value with
  | some "strip" => some .strip
  | some "keep" => some .keep
  | _ => none

/-- A route as a table. -/
def decodeRouteTable (entries : Entries) : Option Route := do
  let className ← decodeField decodeString none entries "class"
  let method ← decodeField decodeString none entries "method"
  let template ← decodeField decodeString none entries "path"
  pure ⟨className, method, template⟩

/-- A route: a table, or an array that starts with class, method and path. -/
def decodeRoute : Value → Option Route
  | .table _ entries => decodeRouteTable entries
  -- What follows the three is ignored, like keys that mean nothing.
  | .array (className :: method :: template :: _) => do
    pure ⟨← decodeString className, ← decodeString method, ← decodeString template⟩
  | _ => none

/-- Routes, in an array or under headers of their own. -/
def decodeRoutes : Value → Option (List Route)
  | .array items => items.mapM decodeRoute
  | .tables elements => elements.mapM decodeRouteTable
  | _ => none

/-- The manifest of a document; keys that mean nothing are ignored. -/
def Manifest.decode? (entries : Entries) : Option Manifest := do
  let defaults : Manifest := {}
  let package ← decodeField decodeString (some defaults.package) entries "package"
  let runtimePackage ←
    decodeField decodeString (some defaults.runtimePackage) entries "runtime_package"
  let style ←
    decodeField decodeStyle (some defaults.pathOptions.style) entries "placeholder_style"
  let query ← decodeField decodeQuery (some defaults.pathOptions.query) entries "query"
  let routes ← decodeField decodeRoutes (some defaults.routes) entries "route"
  pure ⟨package, runtimePackage, ⟨style, query⟩, routes⟩

/-- The valid manifest that a text holds. -/
def Manifest.read (text : String) : Except ManifestError Manifest := do
  match (Toml.parse? text).bind Manifest.decode? with
  | none => .error .badForm
  -- Only a manifest that passes the checks is handed out.
  | some manifest =>
    manifest.check
    pure manifest

end TypedRoutes

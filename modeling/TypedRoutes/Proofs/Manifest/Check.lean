import Mathlib.Data.List.Nodup
import TypedRoutes.Manifest.Decode
import TypedRoutes.Proofs.Lists

/-! Manifests that are accepted: every name can be written in a file, and every route has a class of
its own. -/

namespace TypedRoutes

/-- The name of the class that a route generates, which is the same in every package. -/
def Route.generatedClass (route : Route) : String :=
  (route.handler "").generatedClass

/-- A route whose class and method have simple names. -/
structure Route.Named (route : Route) : Prop where
  /-- The class has one. -/
  className : isIdentifier route.className = true
  /-- So has the method. -/
  method : isIdentifier route.method = true

namespace Manifest

/-- A route is accepted if it has simple names and its class is new. -/
theorem checkRoute_eq_ok_iff {route : Route} {earlier : List String} :
    checkRoute route earlier = .ok () ↔ route.Named ∧ route.generatedClass ∉ earlier := by
  have new : earlier.idxOf? route.generatedClass = none ↔ route.generatedClass ∉ earlier :=
    List.idxOf?_eq_none_iff
  simp only [checkRoute, Route.generatedClass] at new ⊢
  -- The class is looked at first, then the method, and then the classes before.
  by_cases className : isIdentifier route.className = true
  · by_cases method : isIdentifier route.method = true
    · simp only [className, method, Bool.not_true, Bool.false_eq_true, if_false, ← new]
      cases earlier.idxOf? (route.handler "").generatedClass with
      | none => simpa using ⟨className, method⟩
      | some first => simp
    · simp only [className, method, Bool.not_true, Bool.not_false, Bool.false_eq_true, if_false,
        if_true]
      exact ⟨nofun, fun ⟨named, _⟩ => absurd named.method method⟩
  · simp only [className, Bool.not_false, if_true]
    exact ⟨nofun, fun ⟨named, _⟩ => absurd named.className className⟩

/-- Routes are accepted if all have simple names and no two have the same class. -/
theorem checkRoutes_eq_ok_iff {routes : List Route} {earlier : List String} :
    checkRoutes earlier routes = .ok () ↔ (∀ route ∈ routes, route.Named) ∧
      (routes.map Route.generatedClass).Nodup ∧
      ∀ route ∈ routes, route.generatedClass ∉ earlier := by
  -- Each route is compared with the classes of all routes before it, so the list of these grows.
  induction routes generalizing earlier with
  | nil => simp [checkRoutes]
  | cons route routes ih =>
    have step : checkRoutes earlier (route :: routes) = .ok () ↔
        checkRoute route earlier = .ok () ∧
          checkRoutes (earlier ++ [route.generatedClass]) routes = .ok () := by
      simp [checkRoutes, bind_eq_ok_iff, Unique.exists_iff, Route.generatedClass]
    rw [step, checkRoute_eq_ok_iff, ih]
    simp only [List.forall_mem_cons, List.map_cons, List.nodup_cons, List.mem_map, List.mem_append,
      List.mem_singleton, not_or, not_exists, not_and]
    -- The class of the first route is one that the others must not have.
    constructor
    · rintro ⟨⟨named, new⟩, others, distinct, fresh⟩
      exact ⟨⟨named, others⟩, ⟨fun other member => (fresh other member).2, distinct⟩, new,
        fun other member => (fresh other member).1⟩
    · rintro ⟨⟨named, others⟩, ⟨alone, distinct⟩, new, fresh⟩
      exact ⟨⟨named, new⟩, others, distinct, fun other member =>
        ⟨fresh other member, alone other member⟩⟩

/-- Names in an accepted manifest. -/
structure Valid (manifest : Manifest) : Prop where
  /-- Generated classes are in a package with a dotted name or in none. -/
  package : manifest.package = "" ∨ isDottedIdentifier manifest.package = true
  /-- The request parsers have a package. -/
  runtimePackage : isDottedIdentifier manifest.runtimePackage = true
  /-- Classes and methods have simple names. -/
  named : ∀ route ∈ manifest.routes, route.Named
  /-- No two routes generate the same class. -/
  distinct : (manifest.routes.map Route.generatedClass).Nodup

/-- A package passes the check if it is empty or a dotted name. -/
theorem checkPackage_eq_ok_iff {package : String} :
    checkPackage package = .ok () ↔ package = "" ∨ isDottedIdentifier package = true := by
  -- The empty package is the only one that passes without a name.
  unfold checkPackage
  by_cases empty : package = ""
  · simp [empty]
  · by_cases dotted : isDottedIdentifier package = true <;> simp [empty, dotted]

/-- Exactly the valid manifests are accepted. -/
theorem check_eq_ok_iff {manifest : Manifest} : manifest.check = .ok () ↔ manifest.Valid := by
  -- The check of the request parsers' package passes the empty name, which is refused next.
  have steps : manifest.check = .ok () ↔ checkPackage manifest.package = .ok () ∧
      checkPackage manifest.runtimePackage = .ok () ∧ manifest.runtimePackage ≠ "" ∧
      checkRoutes [] manifest.routes = .ok () := by
    by_cases empty : manifest.runtimePackage = "" <;>
      simp [check, bind_eq_ok_iff, Unique.exists_iff, empty]
  rw [steps, checkPackage_eq_ok_iff, checkPackage_eq_ok_iff, checkRoutes_eq_ok_iff]
  constructor
  · rintro ⟨package, runtime, filled, named, distinct, -⟩
    exact ⟨package, runtime.resolve_left filled, named, distinct⟩
  · rintro ⟨package, runtime, named, distinct⟩
    refine ⟨package, Or.inr runtime, ?_, named, distinct, by simp⟩
    -- The empty text is no dotted name.
    intro empty
    rw [empty] at runtime
    exact absurd runtime (by decide)

/-- What is read from a text is valid. -/
theorem valid_of_read {text : String} {manifest : Manifest}
    (read : Manifest.read text = .ok manifest) : manifest.Valid := by
  -- A manifest that is read has been decoded and checked.
  unfold Manifest.read at read
  split at read
  · cases read
  · rename_i found decoded
    cases checked : found.check with
    | error fault =>
      rw [checked] at read
      cases read
    | ok =>
      rw [checked] at read
      cases read
      exact check_eq_ok_iff.mp checked

end Manifest

end TypedRoutes

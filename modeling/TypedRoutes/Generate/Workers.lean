import TypedRoutes.Generate.Basic

/-! The generation of all routes of a manifest by workers that run side by side. -/

namespace TypedRoutes

/-- The number of routes in a share: as even as possible, with no more workers than routes. -/
def shareSize (routes parallelism : Nat) : Nat :=
  let workers := min parallelism routes
  -- The quotient is rounded up, so that no route is left over.
  (routes + workers - 1) / workers

/-- Cuts a list of at most `fuel` items into parts of a size; the last part may be shorter. -/
def cut {α : Type} (size : Nat) : Nat → List α → List (List α)
  | 0, _ => []
  | _ + 1, [] => []
  | fuel + 1, items => items.take size :: cut size fuel (items.drop size)

/-- The routes that each worker gets. -/
def Manifest.shares (manifest : Manifest) (parallelism : Nat) : List (List Route) :=
  let routes := manifest.routes
  cut (shareSize routes.length parallelism) routes.length routes

/-- The outcomes of one worker's share. -/
structure Completion where
  /-- The place of the worker's share among all shares. -/
  worker : Nat
  /-- What became of the routes of the share. -/
  outcomes : List Outcome

/-- The work of each worker. -/
def Manifest.jobs (manifest : Manifest) (parallelism : Nat) : List (Unit → Completion) :=
  (manifest.shares parallelism).mapIdx fun worker share _ =>
    ⟨worker, share.map manifest.outcome⟩

/-- All outcomes in the order of the shares, whatever the order in which the workers finished. -/
def collect (completions : List Completion) : List Outcome :=
  -- The workers are taken by their places, not in the order in which they finished.
  (List.range completions.length).flatMap fun worker =>
    (completions.filter (·.worker == worker)).flatMap (·.outcomes)

/-- Generates all routes, in the order of the manifest. -/
def Manifest.generate (manifest : Manifest) (parallelism : Nat) : List Outcome :=
  collect ((manifest.jobs parallelism).map fun job => job ())

end TypedRoutes

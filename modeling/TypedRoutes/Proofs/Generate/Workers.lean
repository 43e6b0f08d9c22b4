import TypedRoutes.Generate.Workers
import TypedRoutes.Proofs.Lists

/-! The outcomes of all workers are those of the routes in the order of the manifest, whatever the
number of workers and the order in which they finish. -/

namespace TypedRoutes

/-- With fuel left, the first part is cut off and the rest is cut. -/
theorem cut_cons {α : Type} (size fuel : Nat) (item : α) (items : List α) :
    cut size (fuel + 1) (item :: items) =
      (item :: items).take size :: cut size fuel ((item :: items).drop size) :=
  rfl

/-- Cutting loses nothing, if the parts are not empty and there is fuel for every item. -/
theorem flatten_cut {α : Type} {size fuel : Nat} {items : List α} (positive : 0 < size)
    (enough : items.length ≤ fuel) : (cut size fuel items).flatten = items := by
  -- Each part is put back in front of what is left behind it.
  induction fuel generalizing items with
  | zero =>
    have none : items = [] := List.eq_nil_of_length_eq_zero (by omega)
    simp [cut, none]
  | succ fuel ih =>
    cases items with
    | nil => simp [cut]
    | cons item items =>
      -- A part takes at least one item, so less is left than there is fuel.
      have left : ((item :: items).drop size).length ≤ fuel := by
        simp only [List.length_drop, List.length_cons] at enough ⊢
        omega
      rw [cut_cons, List.flatten_cons, ih left, List.take_append_drop]

/-- No part is empty, if parts are not. -/
theorem ne_nil_of_mem_cut {α : Type} {size fuel : Nat} {items part : List α} (positive : 0 < size)
    (member : part ∈ cut size fuel items) : part ≠ [] := by
  -- A part is the first one, or a part of what is left behind it.
  induction fuel generalizing items with
  | zero => simp [cut] at member
  | succ fuel ih =>
    cases items with
    | nil => simp [cut] at member
    | cons item items =>
      rw [cut_cons, List.mem_cons] at member
      rcases member with rfl | later
      · -- The first part starts with the first item.
        intro empty
        have lengths := congrArg List.length empty
        simp only [List.length_take, List.length_cons, List.length_nil] at lengths
        omega
      · exact ih later

/-- There are no more parts than it takes to hold all items. -/
theorem length_cut_le {α : Type} {size fuel count : Nat} {items : List α}
    (enough : items.length ≤ count * size) : (cut size fuel items).length ≤ count := by
  induction fuel generalizing items count with
  | zero => simp [cut]
  | succ fuel ih =>
    cases items with
    | nil => simp [cut]
    | cons item items =>
      -- One part is taken away, and the others have to hold what is left.
      cases count with
      | zero => simp at enough
      | succ count =>
        have left : ((item :: items).drop size).length ≤ count * size := by
          rw [List.length_drop]
          rw [Nat.succ_mul] at enough
          omega
        have others := ih left
        rw [cut_cons, List.length_cons]
        omega

/-- A share has room for a route, where there are routes and workers. -/
theorem shareSize_pos {routes parallelism : Nat} (some : 0 < routes) (positive : 0 < parallelism) :
    0 < shareSize routes parallelism := by
  -- Rounding up gives at least one.
  have workers : 0 < min parallelism routes := by omega
  exact Nat.div_pos (by omega) workers

/-- The workers together can take all routes. -/
theorem le_mul_shareSize {routes parallelism : Nat} (some : 0 < routes)
    (positive : 0 < parallelism) :
    routes ≤ min parallelism routes * shareSize routes parallelism := by
  have workers : 0 < min parallelism routes := by omega
  -- Rounding up leaves out less than one route for each worker.
  have split := Nat.div_add_mod (routes + min parallelism routes - 1) (min parallelism routes)
  have less := Nat.mod_lt (routes + min parallelism routes - 1) workers
  show routes ≤ min parallelism routes *
    ((routes + min parallelism routes - 1) / min parallelism routes)
  omega

namespace Manifest

/-- What the workers of a manifest get: parts of its routes, none of them empty, and no more parts
than can be worked on side by side. -/
structure SharedOut (manifest : Manifest) (parallelism : Nat) : Prop where
  /-- A share has room for a route, where there are routes. -/
  size : manifest.routes ≠ [] → 0 < shareSize manifest.routes.length parallelism
  /-- No worker is without work. -/
  filled : ∀ share ∈ manifest.shares parallelism, share ≠ []
  /-- The shares are the routes, cut into parts. -/
  whole : (manifest.shares parallelism).flatten = manifest.routes
  /-- There are neither more shares than workers nor more than routes. -/
  few : (manifest.shares parallelism).length ≤ min parallelism manifest.routes.length

/-- The shares of the workers are the routes, one share behind the other. -/
theorem flatten_shares (manifest : Manifest) {parallelism : Nat} (positive : 0 < parallelism) :
    (manifest.shares parallelism).flatten = manifest.routes := by
  cases routes : manifest.routes with
  | nil => simp [shares, routes, cut]
  | cons route rest =>
    have some : 0 < manifest.routes.length := by simp [routes]
    rw [← routes]
    exact flatten_cut (shareSize_pos some positive) (Nat.le_refl _)

/-- Routes are shared out as they should be, for any number of workers. -/
theorem sharedOut (manifest : Manifest) {parallelism : Nat} (positive : 0 < parallelism) :
    manifest.SharedOut parallelism := by
  have whole := manifest.flatten_shares positive
  by_cases none : manifest.routes = []
  -- Without routes there is nothing to share out.
  · have empty : manifest.shares parallelism = [] := by simp [shares, none, cut]
    exact ⟨fun some => absurd none some, by simp [empty], whole, by simp [empty]⟩
  · have some : 0 < manifest.routes.length := List.length_pos_iff.mpr none
    have size := shareSize_pos some positive
    exact ⟨fun _ => size, fun share member => ne_nil_of_mem_cut size member, whole,
      length_cut_le (le_mul_shareSize some positive)⟩

/-- The jobs, done one after the other, give the outcomes of the shares with the numbers of the
workers. -/
theorem completions_eq (manifest : Manifest) (parallelism : Nat) :
    (manifest.jobs parallelism).map (fun job => job ()) =
      ((manifest.shares parallelism).map (List.map manifest.outcome)).mapIdx Completion.mk := by
  -- Job by job, the number and the outcomes are the same.
  apply List.ext_getElem <;> simp [jobs]

end Manifest

/-- The completion of a worker is the only one with its number. -/
theorem filter_worker {shares : List (List Outcome)} {worker : Nat} {share : List Outcome}
    (found : shares[worker]? = some share) :
    (shares.mapIdx Completion.mk).filter (·.worker == worker) = [⟨worker, share⟩] := by
  -- The list is split at the worker, and no other worker has its number.
  obtain ⟨before, after, rfl, rfl⟩ := exists_split_of_getElem? found
  rw [List.mapIdx_append, List.mapIdx_cons, List.filter_append, List.filter_cons]
  -- The workers before and behind have smaller and greater numbers.
  have early : (before.mapIdx Completion.mk).filter (·.worker == before.length) = [] := by
    rw [List.filter_eq_nil_iff]
    intro completion member
    obtain ⟨index, inside, rfl⟩ := List.mem_mapIdx.mp member
    simpa using Nat.ne_of_lt inside
  have late : (after.mapIdx fun index => Completion.mk (index + 1 + before.length)).filter
      (·.worker == before.length) = [] := by
    rw [List.filter_eq_nil_iff]
    intro completion member
    obtain ⟨index, inside, rfl⟩ := List.mem_mapIdx.mp member
    simp only [beq_iff_eq]
    omega
  simp [early, late]

/-- Lists taken out by their places are the lists themselves. -/
theorem flatMap_range_getElem {α : Type} (lists : List (List α)) :
    (List.range lists.length).flatMap (fun index => (lists[index]?).getD []) = lists.flatten := by
  rw [List.flatMap_def]
  congr 1
  apply List.ext_getElem
  · simp
  · intro index first second
    simp [second]

/-- However the workers finish, their outcomes are put in the order of the shares. -/
theorem collect_eq_of_perm {shares : List (List Outcome)} {completions : List Completion}
    (finished : completions.Perm (shares.mapIdx Completion.mk)) :
    collect completions = shares.flatten := by
  have count : completions.length = shares.length := by simpa using finished.length_eq
  rw [← flatMap_range_getElem, collect, count, List.flatMap_def, List.flatMap_def]
  -- Both sides go through the workers by number, so it is enough to compare one.
  congr 1
  apply List.map_congr_left
  intro worker member
  have inside : worker < shares.length := List.mem_range.mp member
  have found := List.getElem?_eq_getElem inside
  -- Picking out one worker does not depend on the order.
  have only := finished.filter (·.worker == worker)
  rw [filter_worker found, List.perm_singleton] at only
  simp [only, found]

/-- All routes are generated, in the order of the manifest. -/
theorem Manifest.collect_eq (manifest : Manifest) {parallelism : Nat}
    {completions : List Completion} (positive : 0 < parallelism)
    (finished : completions.Perm ((manifest.jobs parallelism).map fun job => job ())) :
    collect completions = manifest.routes.map manifest.outcome := by
  -- The completions are those of the shares, which hold the routes in order.
  rw [manifest.completions_eq] at finished
  rw [collect_eq_of_perm finished, ← List.map_flatten, manifest.flatten_shares positive]

end TypedRoutes

import Mathlib.Algebra.Ring.Nat
import Mathlib.Logic.Relation
import TypedRoutes.Proofs.Generate.Workers

/-! Workers that generate routes side by side, one step of one worker after the other: in whatever
order the steps are taken, the outcomes are those of the routes in the order of the manifest. -/

namespace TypedRoutes

/-- A worker in the middle of its share. -/
structure Worker where
  /-- The place of the share among all shares. -/
  number : Nat
  /-- The routes that are left. -/
  left : List Route
  /-- What became of the routes before. -/
  done : List Outcome

/-- Workers side by side. -/
structure Crew where
  /-- The workers that have not finished. -/
  working : List Worker
  /-- The others, in the order in which they finished. -/
  completions : List Completion

namespace Manifest

/-- All workers before their first step. -/
def crew (manifest : Manifest) (parallelism : Nat) : Crew :=
  ⟨(manifest.shares parallelism).mapIdx fun number share => ⟨number, share, []⟩, []⟩

/-- One step of one worker, whichever it is. -/
inductive Step (manifest : Manifest) : Crew → Crew → Prop where
  /-- The next route of the worker is generated. -/
  | outcome (before after : List Worker) (number : Nat) (route : Route) (left : List Route)
    (done : List Outcome) (completions : List Completion) :
    Step manifest ⟨before ++ ⟨number, route :: left, done⟩ :: after, completions⟩
      ⟨before ++ ⟨number, left, done ++ [manifest.outcome route]⟩ :: after, completions⟩
  /-- A worker with nothing left finishes. -/
  | finish (before after : List Worker) (number : Nat) (done : List Outcome)
    (completions : List Completion) :
    Step manifest ⟨before ++ ⟨number, [], done⟩ :: after, completions⟩
      ⟨before ++ after, completions ++ [⟨number, done⟩]⟩

/-- The workers get from one state to another. -/
abbrev Run (manifest : Manifest) : Crew → Crew → Prop :=
  Relation.ReflTransGen manifest.Step

/-- Some order of steps, taken until all workers have finished, leaves these outcomes. -/
def Generates (manifest : Manifest) (parallelism : Nat) (outcomes : List Outcome) : Prop :=
  ∃ finished, manifest.Run (manifest.crew parallelism) finished ∧ finished.working = [] ∧
    collect finished.completions = outcomes

end Manifest

/-- What a worker will have done in the end. -/
def Worker.completion (manifest : Manifest) (worker : Worker) : Completion :=
  ⟨worker.number, worker.done ++ worker.left.map manifest.outcome⟩

namespace Crew

/-- What all workers will have done in the end. -/
def expected (manifest : Manifest) (crew : Crew) : List Completion :=
  crew.completions ++ crew.working.map (Worker.completion manifest)

/-- The number of steps that are left. -/
def stepsLeft (crew : Crew) : Nat :=
  (crew.working.map fun worker => worker.left.length + 1).sum

end Crew

namespace Manifest

variable {manifest : Manifest} {crew next : Crew}

/-! One step. -/

/-- A step does nothing but what was expected of its worker. -/
theorem Step.expected_perm (step : manifest.Step crew next) :
    (next.expected manifest).Perm (crew.expected manifest) := by
  cases step with
  | outcome before after number route left done completions =>
    -- The outcome goes from what is left to what is done.
    have same : Worker.completion manifest ⟨number, left, done ++ [manifest.outcome route]⟩ =
        Worker.completion manifest ⟨number, route :: left, done⟩ := by
      simp [Worker.completion]
    simp only [Crew.expected, List.map_append, List.map_cons, same]
    exact List.Perm.refl _
  | finish before after number done completions =>
    -- The completion moves in front of those of the workers before it.
    have whole : Worker.completion manifest ⟨number, [], done⟩ = ⟨number, done⟩ := by
      simp [Worker.completion]
    simp only [Crew.expected, List.map_append, List.map_cons, whole, List.append_assoc,
      List.cons_append, List.nil_append]
    exact (List.perm_middle.symm).append_left completions

/-- After a step there is one step less to take. -/
theorem Step.stepsLeft_eq (step : manifest.Step crew next) :
    next.stepsLeft + 1 = crew.stepsLeft := by
  -- A step takes one route from a worker, or one worker from the crew.
  cases step with
  | outcome =>
    simp only [Crew.stepsLeft, List.map_append, List.map_cons, List.sum_append, List.sum_cons,
      List.length_cons]
    omega
  | finish =>
    simp only [Crew.stepsLeft, List.map_append, List.map_cons, List.sum_append, List.sum_cons,
      List.length_nil]
    omega

/-- No worker waits for another: as long as one has not finished, there is a step. -/
theorem exists_step (manifest : Manifest) (working : crew.working ≠ []) :
    ∃ next, manifest.Step crew next := by
  -- The first of the workers can always go on, whatever the others do.
  obtain ⟨workers, completions⟩ := crew
  cases workers with
  | nil => exact absurd rfl working
  | cons worker after =>
    obtain ⟨number, left, done⟩ := worker
    cases left with
    | nil => exact ⟨_, .finish [] after number done completions⟩
    | cons route left => exact ⟨_, .outcome [] after number route left done completions⟩

/-! A run of steps. -/

/-- No run goes on for ever. -/
theorem wellFounded_step (manifest : Manifest) :
    WellFounded fun next crew => manifest.Step crew next := by
  -- With every step there are fewer steps left.
  have fewer : WellFounded fun next crew : Crew => next.stepsLeft < crew.stepsLeft :=
    (measure Crew.stepsLeft).wf
  refine Subrelation.wf ?_ fewer
  intro next crew step
  have one := step.stepsLeft_eq
  omega

/-- From every state the workers can finish. -/
theorem exists_finished (manifest : Manifest) (crew : Crew) :
    ∃ finished, manifest.Run crew finished ∧ finished.working = [] := by
  -- Steps are taken until none is left.
  induction crew using (wellFounded_step manifest).induction with
  | _ crew ih =>
    by_cases working : crew.working = []
    · exact ⟨crew, .refl, working⟩
    · obtain ⟨next, step⟩ := manifest.exists_step working
      obtain ⟨finished, run, done⟩ := ih next step
      exact ⟨finished, .head step run, done⟩

/-- What is expected of the workers is the same during a whole run, but for its order. -/
theorem Run.expected_perm (run : manifest.Run crew next) :
    (next.expected manifest).Perm (crew.expected manifest) := by
  -- The induction is on the run, with the step lemma for its last step.
  induction run with
  | refl => exact List.Perm.refl _
  | tail _ step ih => exact step.expected_perm.trans ih

/-- In the beginning, a worker is expected to do its job. -/
theorem expected_crew (manifest : Manifest) (parallelism : Nat) :
    (manifest.crew parallelism).expected manifest =
      (manifest.jobs parallelism).map fun job => job () := by
  -- Worker by worker, all of the share is left and nothing is done.
  apply List.ext_getElem <;> simp [crew, Crew.expected, Worker.completion, jobs]

/-- Whatever order of steps is taken, the outcomes are those of the routes in the order of the
manifest. -/
theorem generates_iff {parallelism : Nat} (positive : 0 < parallelism) (outcomes : List Outcome) :
    manifest.Generates parallelism outcomes ↔ outcomes = manifest.routes.map manifest.outcome := by
  -- When all have finished, what was expected in the beginning is done.
  have collected {finished : Crew} (run : manifest.Run (manifest.crew parallelism) finished)
      (done : finished.working = []) :
      collect finished.completions = manifest.routes.map manifest.outcome := by
    have order := run.expected_perm
    rw [expected_crew, Crew.expected, done, List.map_nil, List.append_nil] at order
    exact manifest.collect_eq positive order
  constructor
  · rintro ⟨finished, run, done, rfl⟩
    exact collected run done
  -- The other way round, some order of steps comes to an end.
  · rintro rfl
    obtain ⟨finished, run, done⟩ := manifest.exists_finished (manifest.crew parallelism)
    exact ⟨finished, run, done, collected run done⟩

/-- Working off the shares one after the other is one of the orders. -/
theorem generate_eq (manifest : Manifest) {parallelism : Nat} (positive : 0 < parallelism) :
    manifest.generate parallelism = manifest.routes.map manifest.outcome :=
  manifest.collect_eq positive (List.Perm.refl _)

/-- Another route in one place. -/
def replace (manifest : Manifest) (index : Nat) (route : Route) : Manifest :=
  { manifest with routes := manifest.routes.set index route }

/-- The routes of a manifest are shared out among its workers. These can finish from every state
that they get to, whoever takes the next step, and none of their runs goes on for ever. However they
finish, the outcomes are those of the routes in the order of the manifest, so that another route in
one place changes the outcome in this place only, on any other number of workers as well. -/
theorem generate_side_by_side (manifest : Manifest) {parallelism : Nat}
    (positive : 0 < parallelism) :
    manifest.SharedOut parallelism ∧
    (WellFounded fun next crew => manifest.Step crew next) ∧
    (∀ crew, manifest.Run (manifest.crew parallelism) crew →
      ∃ finished, manifest.Run crew finished ∧ finished.working = []) ∧
    (∀ outcomes, manifest.Generates parallelism outcomes ↔
      outcomes = manifest.routes.map fun route => ⟨route, manifest.fileFor route⟩) ∧
    manifest.generate parallelism =
      manifest.routes.map (fun route => ⟨route, manifest.fileFor route⟩) ∧
    ∀ index route other, 0 < other → ∀ outcomes changed,
      manifest.Generates parallelism outcomes →
      (manifest.replace index route).Generates other changed →
      ∀ place, place ≠ index → changed[place]? = outcomes[place]? := by
  refine ⟨manifest.sharedOut positive, manifest.wellFounded_step,
    fun crew _ => manifest.exists_finished crew, generates_iff positive,
    manifest.generate_eq positive, ?_⟩
  intro index route other some outcomes changed generated replaced place apart
  rw [generates_iff positive] at generated
  rw [generates_iff some] at replaced
  -- Both are lists of the outcomes of routes, and a route of its own place is generated alike.
  have alike : (manifest.replace index route).outcome = manifest.outcome := rfl
  rw [generated, replaced, alike]
  simp only [List.getElem?_map, replace]
  rw [List.getElem?_set_ne (Ne.symm apart)]

/-- Three routes for two workers. -/
def threeRoutes : Manifest :=
  { routes := [⟨"A", "a", "/"⟩, ⟨"B", "b", "/"⟩, ⟨"C", "c", "/"⟩] }

/-- The second worker may finish before the first one has begun. -/
theorem generate_side_by_side_overtaken :
    (threeRoutes.shares 2).map List.length = [2, 1] ∧
    ∃ finished, threeRoutes.Run (threeRoutes.crew 2) finished ∧ finished.working = [] ∧
      finished.completions.map Completion.worker = [1, 0] ∧
      collect finished.completions = threeRoutes.routes.map fun route =>
        ⟨route, threeRoutes.fileFor route⟩ := by
  let first : Worker := ⟨0, [⟨"A", "a", "/"⟩, ⟨"B", "b", "/"⟩], []⟩
  -- The second worker generates its only route and finishes, then the first one does all it has to.
  have late : threeRoutes.Run (threeRoutes.crew 2)
      ⟨[first], [⟨1, [threeRoutes.outcome ⟨"C", "c", "/"⟩]⟩]⟩ :=
    .head (.outcome [first] [] 1 _ [] [] []) (.single (.finish [first] [] 1 _ []))
  have both := late.trans (.head (.outcome [] [] 0 _ _ _ _)
    (.head (.outcome [] [] 0 _ _ _ _) (.single (.finish [] [] 0 _ _))))
  have positive : 0 < 2 := by decide
  have outcomes := (generate_side_by_side threeRoutes positive).2.2.2.1
  exact ⟨rfl, _, both, rfl, rfl, (outcomes _).mp ⟨_, both, rfl, rfl⟩⟩

end Manifest

end TypedRoutes

import TypedRoutes.Cli.Run
import TypedRoutes.Proofs.Cli.FileTree
import TypedRoutes.Proofs.Generate.Basic
import TypedRoutes.Proofs.Generate.Workers

/-! How generated files are delivered to a directory, one route after the other: what is written,
and what is logged and reported. -/

namespace TypedRoutes.Cli

/-- What a run meets that neither its arguments nor the files before it decide. -/
structure Circumstances where
  /-- Failures of writes that the tree of files would allow, by path. -/
  refusal : String → Option FileError
  /-- The number of workers that can run side by side. -/
  parallelism : Nat
  /-- There is a worker. -/
  positive : 0 < parallelism
  /-- The order in which workers finish. -/
  finish : List Completion → List Completion
  /-- All of them do. -/
  finished : ∀ completions, (finish completions).Perm completions
  /-- Which entries are logged, where the environment decides it. -/
  logFilter : Option (LogEntry → Bool)
  /-- The line of an entry. No two entries of a run are equal, so the time may be a part of it. -/
  logLine : LogEntry → String
  /-- The order in which the entries of several workers are logged. -/
  interleave : List (List LogEntry) → List LogEntry
  /-- No entry is lost, and none is added. -/
  interleaved : ∀ logs, (interleave logs).Perm logs.flatten

namespace Circumstances

/-- The tree with a text in a file, unless the write is refused or fails. -/
def write (circumstances : Circumstances) (tree : FileTree) (path text : String) :
    Except FileError FileTree :=
  match circumstances.refusal path with
  | some error => .error error
  | none => tree.write path text

/-- A tree of files in some circumstances. A write that fails changes nothing. -/
def host (circumstances : Circumstances) : Host (StateM FileTree) :=
  { FileTree.host with
    write := fun path text => FileTree.change (circumstances.write · path text)
    parallelism := circumstances.parallelism
    perform := fun jobs => pure (circumstances.finish (jobs.map fun job => job ()))
    logFilter := circumstances.logFilter
    logLine := fun entry => pure (circumstances.logLine entry)
    interleave := fun logs => pure (circumstances.interleave logs) }

/-- Whether an entry is logged. -/
def logs (circumstances : Circumstances) (verbose : Bool) (entry : LogEntry) : Bool :=
  circumstances.logFilter.getD (LogEntry.wanted verbose) entry

/-- The line of an entry that is logged, and nothing for others. -/
def lineOf (circumstances : Circumstances) (verbose : Bool) (entry : LogEntry) : String :=
  if circumstances.logs verbose entry then circumstances.logLine entry else ""

/-- The lines of some entries. -/
def linesOf (circumstances : Circumstances) (verbose : Bool) (entries : List LogEntry) : String :=
  String.join (entries.map (circumstances.lineOf verbose))

/-- What is told of a route: a route without a file is logged and reported, and a file in the
directory is logged. -/
def messageOf (circumstances : Circumstances) (verbose : Bool) (directory : String)
    (manifest : Manifest) (route : Route) : String :=
  match manifest.fileFor route with
  | .error error => circumstances.lineOf verbose (.failed route.title) ++ reportOf route error
  | .ok file => circumstances.lineOf verbose (.wrote (joinPath directory file.name) file.path)

/-- Whether a file cannot be written in a directory. -/
def refuses (circumstances : Circumstances) (tree : FileTree) (directory : String)
    (file : SourceFile) : Bool :=
  match circumstances.write tree (joinPath directory file.name) file.source with
  | .ok _ => false
  | .error _ => true

/-- Whether a run ends at a route: it has no file and the run does not keep going, or its file
cannot be written. -/
def stops (circumstances : Circumstances) (tree : FileTree) (directory : String)
    (keepGoing : Bool) (manifest : Manifest) (route : Route) : Bool :=
  match manifest.fileFor route with
  | .error _ => !keepGoing
  | .ok file => circumstances.refuses tree directory file

/-- The routes before the first one at which a run ends, and all of them if it does not. -/
def passed (circumstances : Circumstances) (tree : FileTree) (directory : String)
    (keepGoing : Bool) (manifest : Manifest) : List Route :=
  manifest.routes.take
    (manifest.routes.findIdx (circumstances.stops tree directory keepGoing manifest))

end Circumstances

/-- The reports of the routes that have no file, in order. -/
def reportsOf (manifest : Manifest) (routes : List Route) : List String :=
  routes.filterMap fun route =>
    match manifest.fileFor route with
    | .error error => some (reportOf route error)
    | .ok _ => none

/-- The files of the routes that have one, in order. -/
def filesOf (manifest : Manifest) (routes : List Route) : List SourceFile :=
  routes.filterMap fun route => (manifest.fileFor route).toOption

/-! The files of routes. -/

section

variable {manifest : Manifest} {route : Route}

/-- A route without a file adds none to those of the others. -/
theorem filesOf_cons_error {error : CompileError} (failed : manifest.fileFor route = .error error)
    (routes : List Route) : filesOf manifest (route :: routes) = filesOf manifest routes := by
  simp [filesOf, failed, Except.toOption]

/-- A route with a file has it in front of those of the others. -/
theorem filesOf_cons_ok {file : SourceFile} (made : manifest.fileFor route = .ok file)
    (routes : List Route) :
    filesOf manifest (route :: routes) = file :: filesOf manifest routes := by
  simp [filesOf, made, Except.toOption]

/-- A route without a file has its report in front of those of the others. -/
theorem reportsOf_cons_error {error : CompileError} (failed : manifest.fileFor route = .error error)
    (routes : List Route) :
    reportsOf manifest (route :: routes) = reportOf route error :: reportsOf manifest routes := by
  simp [reportsOf, failed]

/-- A route with a file adds no report. -/
theorem reportsOf_cons_ok {file : SourceFile} (made : manifest.fileFor route = .ok file)
    (routes : List Route) : reportsOf manifest (route :: routes) = reportsOf manifest routes := by
  simp [reportsOf, made]

end

namespace Circumstances

variable {circumstances : Circumstances} {tree other : FileTree} {directory : String}
  {place : List String} {file : SourceFile}

end Circumstances

/-- The tree with some files in the directory at a place. -/
def putFiles (tree : FileTree) (place : List String) (files : List SourceFile) : FileTree :=
  files.foldl (fun tree file => tree.put (place ++ [file.name]) file.source) tree

section

variable (circumstances : Circumstances) (verbose : Bool) (tree : FileTree)

end

/-! The steps of a delivery. -/

section

variable {circumstances : Circumstances} {verbose keepGoing : Bool} {tree after : FileTree}
  {directory : String} {total failed : Nat} {manifest : Manifest} {route : Route}
  {rest : List Outcome} {last : Transcript}

end

/-! Deliveries. -/

/-- What a delivery leaves behind, where `failed` routes before these had no file. -/
structure Delivered (circumstances : Circumstances) (verbose : Bool) (base : FileTree)
    (directory : String) (place : List String) (keepGoing : Bool) (manifest : Manifest)
    (total failed : Nat) (routes : List Route) (tree : FileTree)
    (result : Transcript × FileTree) : Prop where
  /-- The files of the routes before the one at which the run ends are written. -/
  files : result.2 = putFiles tree place (filesOf manifest
    (routes.takeWhile fun route => !circumstances.stops base directory keepGoing manifest route))
  /-- The run succeeds if every route has a file that can be written. -/
  code : result.1.code = 0 ↔ failed = 0 ∧ ∀ route ∈ routes, ∃ file,
    manifest.fileFor route = .ok file ∧ circumstances.refuses base directory file = false
  /-- A run to the end tells of each route in order, and counts those without a file. -/
  errors : (∀ route ∈ routes,
      circumstances.stops base directory keepGoing manifest route = false) →
    result.1.errors =
      String.join (routes.map (circumstances.messageOf verbose directory manifest)) ++
      if failed + (reportsOf manifest routes).length = 0 then ""
      else summary (failed + (reportsOf manifest routes).length) total

namespace Delivered

variable {circumstances : Circumstances} {verbose keepGoing : Bool} {base tree after : FileTree}
  {directory : String} {place : List String} {manifest : Manifest} {total failed : Nat}
  {route : Route} {routes : List Route} {last : Transcript}

/-- At the end, the run has failed if a route before has. -/
theorem nil : Delivered circumstances verbose base directory place keepGoing manifest total failed
    [] tree (if failed = 0 then .success "" else .failure (summary failed total), tree) := by
  -- What counts is whether there was a failure before, not how many there were.
  refine ⟨rfl, ?_, ?_⟩
  · by_cases none : failed = 0 <;> simp [none, Transcript.success, Transcript.failure]
  · intro _
    by_cases none : failed = 0 <;>
      simp [none, Transcript.success, Transcript.failure, reportsOf]

/-- The run ends at a route that has no file, or whose file cannot be written. -/
theorem ends (stops : circumstances.stops base directory keepGoing manifest route = true)
    (message : String) :
    Delivered circumstances verbose base directory place keepGoing manifest total failed
      (route :: routes) tree (.failure message, tree) := by
  -- A file that could be written would let the run go on.
  have unwritten : ¬ ∃ file, manifest.fileFor route = .ok file ∧
      circumstances.refuses base directory file = false := by
    rintro ⟨file, made, allowed⟩
    simp [Circumstances.stops, made, allowed] at stops
  refine ⟨?_, ?_, ?_⟩
  · simp [stops, filesOf, putFiles]
  · simp [Transcript.failure, unwritten]
  -- What the message says does not matter, since the run does not reach its end.
  · intro goes
    rw [goes route (by simp)] at stops
    cases stops

/-- The run goes on behind a route without a file. -/
theorem keep {error : CompileError} (fault : manifest.fileFor route = .error error)
    (behind : Delivered circumstances verbose base directory place true manifest total (failed + 1)
      routes tree (last, after)) :
    Delivered circumstances verbose base directory place true manifest total failed
      (route :: routes) tree
      (last.afterErrors (circumstances.messageOf verbose directory manifest route), after) := by
  -- The route writes nothing, fails the run and adds its message.
  have goes : circumstances.stops base directory true manifest route = false := by
    simp [Circumstances.stops, fault]
  refine ⟨?_, ?_, ?_⟩
  · simpa [goes, filesOf_cons_error fault] using behind.files
  -- The run fails in any case, since the routes behind count this one.
  · have code := behind.code
    simp only [Nat.add_eq_zero_iff, Nat.one_ne_zero, and_false, false_and, iff_false] at code
    simpa [Transcript.afterErrors, fault] using code
  · intro others
    have errors : last.errors = _ :=
      behind.errors fun other member => others other (by simp [member])
    -- This route is counted among those before the others, or among the reported ones.
    have count : failed + 1 + (reportsOf manifest routes).length =
        failed + ((reportsOf manifest routes).length + 1) := by omega
    rw [count] at errors
    simp only [reportsOf_cons_error fault, Transcript.afterErrors, errors, List.length_cons,
      List.map_cons, String.join_cons, String.append_assoc]

/-- The run goes on behind a file that is written. -/
theorem written {file : SourceFile} (made : manifest.fileFor route = .ok file)
    (allowed : circumstances.refuses base directory file = false)
    (behind : Delivered circumstances verbose base directory place keepGoing manifest total failed
      routes (tree.put (place ++ [file.name]) file.source) (last, after)) :
    Delivered circumstances verbose base directory place keepGoing manifest total failed
      (route :: routes) tree
      (last.afterErrors (circumstances.messageOf verbose directory manifest route), after) := by
  -- The file is the first of those that are put into the directory.
  have goes : circumstances.stops base directory keepGoing manifest route = false := by
    simp [Circumstances.stops, made, allowed]
  refine ⟨?_, ?_, ?_⟩
  · simpa [goes, filesOf_cons_ok made, putFiles] using behind.files
  · simpa [made, allowed, Transcript.afterErrors] using behind.code
  · intro others
    have errors : last.errors = _ :=
      behind.errors fun other member => others other (by simp [member])
    -- The file is told of, but it is no failure to count.
    rw [reportsOf_cons_ok made]
    simp only [Transcript.afterErrors, errors, List.map_cons, String.join_cons,
      String.append_assoc]

end Delivered

end TypedRoutes.Cli

import TypedRoutes.Generate.Workers

/-! The log of a run: what is told of each step, and how urgent it is. -/

namespace TypedRoutes.Cli

/-- How urgent an entry of the log is. -/
inductive LogLevel where
  | debug
  | info
  | warn
  deriving DecidableEq

namespace LogLevel

/-- The more urgent a level, the higher its rank. -/
def rank : LogLevel → Nat
  | debug => 0
  | info => 1
  | warn => 2

/-- The name of a level. -/
def name : LogLevel → String
  | debug => "DEBUG"
  | info => "INFO"
  | warn => "WARN"

/-- The least level that is logged where the environment does not decide it. -/
def least (verbose : Bool) : LogLevel :=
  if verbose then debug else warn

end LogLevel

/-- An entry of the log. -/
inductive LogEntry where
  /-- Routes are shared among workers. -/
  | started (routes workers : Nat)
  /-- A worker has made the file of a route. -/
  | generated (route path : String) (params : Nat)
  /-- A route has no file. -/
  | failed (route : String)
  /-- A file was written. -/
  | wrote (file path : String)
  deriving DecidableEq

namespace LogEntry

/-- How urgent an entry is. -/
def level : LogEntry → LogLevel
  | started .. | generated .. => .debug
  | failed .. => .warn
  | wrote .. => .info

/-- The words of an entry. -/
def text : LogEntry → String
  | started .. => "generating routes"
  | generated .. => "generated parameter parser"
  | failed .. => "route failed"
  | wrote .. => "wrote"

/-- The data of an entry by their names. -/
def fields : LogEntry → List (String × String)
  | started routes workers => [("routes", toString routes), ("workers", toString workers)]
  | generated route path params => [("route", route), ("path", path), ("params", toString params)]
  | failed route => [("route", route)]
  | wrote file path => [("file", file), ("path", path)]

/-- An entry in one line, without the time. -/
def line (entry : LogEntry) : String :=
  let data := entry.fields.map fun field => " " ++ field.1 ++ "=" ++ field.2
  entry.level.name ++ " " ++ entry.text ++ String.join data ++ "\n"

/-- Whether an entry is logged where the environment does not decide it. -/
def wanted (verbose : Bool) (entry : LogEntry) : Bool :=
  (LogLevel.least verbose).rank ≤ entry.level.rank

end LogEntry

/-- What a worker logs of a route: the file that it has made, with the parameters in it. -/
def entryFor? (manifest : Manifest) (route : Route) : Option LogEntry :=
  match manifest.fileFor route, parseParams route.template with
  | .ok file, .ok params => some (.generated route.title file.path params.all.length)
  | _, _ => none

/-- What each worker logs, in the order of its share. -/
def workerEntries (manifest : Manifest) (parallelism : Nat) : List (List LogEntry) :=
  (manifest.shares parallelism).map fun share => share.filterMap (entryFor? manifest)

/-- What is logged before the first worker starts; without routes there are none. -/
def openingEntries (manifest : Manifest) (parallelism : Nat) : List LogEntry :=
  let routes := manifest.routes.length
  -- A manifest without routes is done before any worker is asked for.
  if routes = 0 then [] else [.started routes (min parallelism routes)]

end TypedRoutes.Cli

import TypedRoutes.Cli.Log
import TypedRoutes.Cli.Path

/-! What a command needs from its surroundings: files, directories, workers and a log. -/

namespace TypedRoutes.Cli

/-- Why an operation on files fails. -/
inductive FileError where
  | notFound
  | alreadyExists
  | notDirectory
  | isDirectory
  | nameTooLong
  /-- Another failure, in the words of the system. -/
  | other (text : String)
  deriving DecidableEq

/-- The failure in the words of the system. -/
def FileError.message : FileError → String
  | notFound => "No such file or directory (os error 2)"
  | alreadyExists => "File exists (os error 17)"
  | notDirectory => "Not a directory (os error 20)"
  | isDirectory => "Is a directory (os error 21)"
  | nameTooLong => "File name too long (os error 36)"
  | other text => text

/-- The surroundings of a command. -/
structure Host (m : Type → Type) where
  /-- The text of a file. -/
  read : String → m (Except FileError String)
  /-- Puts a text into a file in the place of what is there. -/
  write : String → String → m (Except FileError Unit)
  /-- Creates a directory in one that is there. -/
  makeDirectory : String → m (Except FileError Unit)
  /-- Whether a path leads to a directory. -/
  isDirectory : String → m Bool
  /-- The number of workers that can run side by side. -/
  parallelism : Nat
  /-- Runs the work of all workers; the completions are in the order in which they finished. -/
  perform : List (Unit → Completion) → m (List Completion)
  /-- Which entries are logged, where the environment decides it. -/
  logFilter : Option (LogEntry → Bool)
  /-- The line of an entry, with the time. -/
  logLine : LogEntry → m String
  /-- What several workers log, in the order in which it is logged. -/
  interleave : List (List LogEntry) → m (List LogEntry)

namespace Host

variable {m : Type → Type} [Monad m]

/-- Creates a directory, where a directory that is there already is as good. -/
def makeOrKeep (host : Host m) (path : String) : m (Except FileError Unit) := do
  match ← host.makeDirectory path with
  | .ok () => pure (.ok ())
  | .error error => do
    -- Whatever the error was, a directory is all that is asked for.
    if ← host.isDirectory path then pure (.ok ()) else pure (.error error)

/-- Creates a directory; where that fails because those above it are missing, creates them and tries
once more. -/
def makeBelow (host : Host m) (path : String) (makeAbove : m (Except FileError Unit)) :
    m (Except FileError Unit) := do
  match ← host.makeOrKeep path with
  -- Only where something above is missing a second try can help.
  | .error .notFound => do
    match ← makeAbove with
    | .ok () => host.makeOrKeep path
    | .error error => pure (.error error)
  | result => pure result

/-- Creates the directory whose names are given in reverse, and those above it. Names at its end that
lead nowhere are left out. -/
def makeAll (host : Host m) : List String → m (Except FileError Unit)
  | [] => pure (.ok ())
  | last :: above =>
    if isIdle last then makeAll host above
    else host.makeBelow (pathOf (last :: above).reverse) (makeAll host above)

/-- Creates a directory and those above it, unless they are there. -/
def createDirectory (host : Host m) (path : String) : m (Except FileError Unit) :=
  -- The path itself is tried first, as it was given.
  host.makeBelow path (host.makeAll (((namesOf path).reverse.dropWhile isIdle).drop 1))

/-- The line of an entry that is logged, and nothing for others. -/
def log (host : Host m) (verbose : Bool) (entry : LogEntry) : m String :=
  -- The environment has precedence over the flag.
  if host.logFilter.getD (LogEntry.wanted verbose) entry then host.logLine entry else pure ""

/-- The lines of some entries. -/
def logAll (host : Host m) (verbose : Bool) (entries : List LogEntry) : m String := do
  let lines ← entries.mapM (host.log verbose)
  pure (String.join lines)

end Host

/-- What a command leaves behind on the terminal. -/
structure Transcript where
  /-- Zero for success. -/
  code : Nat
  /-- The text on standard output. -/
  output : String
  /-- The text on standard error. -/
  errors : String
  deriving DecidableEq

namespace Transcript

/-- Success, with some output. -/
def success (output : String) : Transcript := ⟨0, output, ""⟩

/-- Failure, with a message. -/
def failure (errors : String) : Transcript := ⟨1, "", errors⟩

/-- The transcript after some earlier output. -/
def afterOutput (transcript : Transcript) (output : String) : Transcript :=
  { transcript with output := output ++ transcript.output }

/-- The transcript after some earlier messages. -/
def afterErrors (transcript : Transcript) (errors : String) : Transcript :=
  { transcript with errors := errors ++ transcript.errors }

end Transcript

end TypedRoutes.Cli

import TypedRoutes.Cli.Run

/-! The program: commands with the files and the terminal of the machine. -/

namespace TypedRoutes.Cli

/-- Whether a failure has this number, which some actions report negated. -/
def isErrorCode (code : UInt32) (number : Nat) : Bool :=
  code == UInt32.ofNat number || code + UInt32.ofNat number == 0

/-- A failure of the machine as one of the known failures, where it is one. -/
def FileError.ofSystem (error : IO.Error) : FileError :=
  match error with
  | .noFileOrDirectory .. => .notFound
  | .alreadyExists .. => .alreadyExists
  | .inappropriateType _ code _ => if isErrorCode code 20 then .notDirectory else .isDirectory
  | .invalidArgument _ code _ =>
    if isErrorCode code 36 then .nameTooLong else .other (toString error)
  | _ => .other (toString error)

/-- The result of an action, or its failure. -/
def attempt {α : Type} (action : IO α) : IO (Except FileError α) := do
  try
    return .ok (← action)
  catch error =>
    return .error (FileError.ofSystem error)

/-- The files and threads of the machine, with a log in milliseconds. -/
def machine : Host IO where
  read path := attempt (IO.FS.readFile path)
  write path text := attempt (IO.FS.writeFile path text)
  makeDirectory path := attempt (IO.FS.createDir path)
  isDirectory path := do
    try
      (← IO.FS.realPath path).isDir
    catch _ =>
      return false
  parallelism := 4
  perform jobs := do
    let tasks := jobs.map fun job => Task.spawn job
    return tasks.map Task.get
  logFilter := none
  logLine entry := return toString (← IO.monoMsNow) ++ " " ++ entry.line
  interleave logs := return logs.flatten

end TypedRoutes.Cli

/-- Runs the program and prints what it leaves. -/
def main (arguments : List String) : IO UInt32 := do
  let transcript ← TypedRoutes.Cli.run TypedRoutes.Cli.machine arguments
  (← IO.getStdout).putStr transcript.output
  (← IO.getStderr).putStr transcript.errors
  return UInt32.ofNat transcript.code

import TypedRoutes.Cli.Args
import TypedRoutes.Cli.FileTree
import TypedRoutes.Cli.Grammar
import TypedRoutes.Manifest.Decode
import TypedRoutes.Report.Error

/-! What each command does, and what it leaves on the terminal. -/

namespace TypedRoutes.Cli

/-- The name that reports give to a template from the command line. -/
def templateName : String := "template"

/-- Lists the parameters of a template. -/
def listParameters (template : String) : Transcript :=
  match parseParams template with
  | .error error => .failure (error.report template templateName)
  | .ok params =>
    if params.isEmpty then .success (joinLines ["(no parameters)"])
    else .success (joinLines (params.all.map Param.describe))

/-- Shows the registration path of a template. -/
def showPath (template : String) (options : PathOptions) : Transcript :=
  match registrationPath template options with
  | .error error => .failure (error.report template templateName)
  | .ok path => .success (joinLines [path])

/-- Shows the code for the parameters of a template: the statements, and after an empty line the
record. -/
def showCode (template record : String) : Transcript :=
  let defaults : Java.CodeNames := {}
  -- The path is not shown, so it does not matter how it is written.
  match compile template ⟨.braces, .strip⟩ { defaults with record := record } with
  | .error error => .failure (error.report template templateName)
  | .ok route =>
    let statements := route.code.statements
    let gap := if statements.isEmpty then [] else [""]
    .success (joinLines (statements ++ gap ++ [route.code.recordDeclaration]))

/-- The message at the end of a run in which some routes failed. -/
def summary (failed total : Nat) : String :=
  joinLines [toString failed ++ " of " ++ toString total ++ " routes failed"]

/-- A generated file as it is shown where no directory is given. -/
def showFile (file : SourceFile) : String :=
  joinLines ["// " ++ file.name] ++ file.source ++ "\n"

/-- The report of a route that failed. -/
def reportOf (route : Route) (error : CompileError) : String :=
  error.report route.template route.title

variable {m : Type → Type} [Monad m]

/-- Puts generated files into a directory or on the terminal, where `failed` counts the routes that
have failed among all of them. A file that cannot be written ends the run, and so does a route that
failed, unless the run keeps going. Each file in the directory is logged, and so is each route that
failed, before its report. -/
def deliver (host : Host m) (verbose : Bool) (outDir : Option String) (keepGoing : Bool)
    (total failed : Nat) : List Outcome → m Transcript
  | [] => pure (if failed = 0 then .success "" else .failure (summary failed total))
  | ⟨route, .error error⟩ :: rest => do
    -- The log line is written at once, so it stands before the report in either case.
    let line ← host.log verbose (.failed route.title)
    let message := line ++ reportOf route error
    if keepGoing then
      let last ← deliver host verbose outDir keepGoing total (failed + 1) rest
      pure (last.afterErrors message)
    else pure (.failure message)
  | ⟨_, .ok file⟩ :: rest =>
    match outDir with
    | none => do
      let last ← deliver host verbose outDir keepGoing total failed rest
      pure (last.afterOutput (showFile file))
    | some directory => do
      let path := joinPath directory file.name
      match ← host.write path file.source with
      -- Only a file that was written is logged.
      | .ok () => do
        let line ← host.log verbose (.wrote path file.path)
        let last ← deliver host verbose outDir keepGoing total failed rest
        pure (last.afterErrors line)
      | .error error =>
        pure (.failure (joinLines ["Error writing '" ++ path ++ "': " ++ error.message]))

/-- Generates the files of a manifest that was read. Whatever the workers log comes before anything
is delivered, since all of them have finished by then. -/
def generateFiles (host : Host m) (verbose : Bool) (manifest : Manifest) (outDir : Option String)
    (keepGoing : Bool) : m Transcript := do
  let opening ← host.logAll verbose (openingEntries manifest host.parallelism)
  let completions ← host.perform (manifest.jobs host.parallelism)
  let entries ← host.interleave (workerEntries manifest host.parallelism)
  let lines ← host.logAll verbose entries
  -- The workers finished in any order, and collecting puts their routes back in order.
  let last ← deliver host verbose outDir keepGoing manifest.routes.length 0 (collect completions)
  pure (last.afterErrors (opening ++ lines))

/-- Generates the files of the manifest in a file. -/
def generateFrom (host : Host m) (verbose : Bool) (manifestPath : String)
    (outDir : Option String) (keepGoing : Bool) : m Transcript := do
  let loadingFailed (reason : String) : Transcript :=
    .failure (joinLines ["Error loading manifest '" ++ manifestPath ++ "': " ++ reason])
  match ← host.read manifestPath with
  | .error error => pure (loadingFailed ("Failed to read manifest file: " ++ error.message))
  | .ok text =>
    match Manifest.read text with
    | .error error => pure (loadingFailed error.message)
    | .ok manifest =>
      -- Without a directory there is nothing to create.
      match outDir with
      | none => generateFiles host verbose manifest none keepGoing
      | some directory =>
        match ← host.createDirectory directory with
        | .ok () => generateFiles host verbose manifest (some directory) keepGoing
        | .error error =>
          pure (.failure (joinLines ["Error creating '" ++ directory ++ "': " ++ error.message]))

/-- Runs a command. -/
def Command.run (host : Host m) (verbose : Bool) : Command → m Transcript
  | .parse template => pure (listParameters template)
  | .sanitize template options => pure (showPath template options)
  | .emit template record => pure (showCode template record)
  | .generate manifest outDir keepGoing => generateFrom host verbose manifest outDir keepGoing
  | .grammar => pure (.success (joinLines [grammarText]))

/-- Runs the program with some arguments. -/
def run (host : Host m) (arguments : List String) : m Transcript :=
  match Invocation.ofArguments arguments with
  | .ok invocation => invocation.command.run host invocation.verbose
  -- Help is an answer and goes to standard output; a wrong call is told on standard error.
  | .error .help => pure (.success (joinLines [helpText]))
  | .error .usage => pure ⟨2, "", joinLines [helpText]⟩

end TypedRoutes.Cli

import TypedRoutes.Java.Statement
import TypedRoutes.RegistrationPath

/-! The arguments of the command line. -/

namespace TypedRoutes.Cli

/-- What the user asks for. -/
inductive Command where
  /-- Lists the parameters of a template. -/
  | parse (template : String)
  /-- Shows the registration path of a template. -/
  | sanitize (template : String) (options : PathOptions)
  /-- Shows the code for the parameters of a template. -/
  | emit (template : String) (record : String)
  /-- Generates the files of a manifest, into a directory if one is given. -/
  | generate (manifest : String) (outDir : Option String) (keepGoing : Bool)
  /-- Shows the grammar of templates. -/
  | grammar
  deriving DecidableEq

/-- A command, with the wish for a longer log. -/
structure Invocation where
  /-- Whether every step is logged. -/
  verbose : Bool
  /-- The command. -/
  command : Command
  deriving DecidableEq

/-- Why no command is run. -/
inductive Refusal where
  /-- The arguments are no command. -/
  | usage
  /-- The user asks for help. -/
  | help
  deriving DecidableEq

/-- An option of a command. -/
structure OptionRule where
  /-- The name after two hyphens. -/
  long : String
  /-- The letter after one hyphen. -/
  short : Option Char
  /-- Which values are accepted; a flag has none. -/
  value : Option (String → Bool)

/-- What may follow the name of a command. -/
structure Rules where
  /-- The options. -/
  options : List OptionRule
  /-- Which values are accepted for the positional argument; without a rule there is none. -/
  positional : Option (String → Bool)

/-- The arguments read so far. -/
structure Given where
  /-- Options by their long names, each with its value; a flag has an empty one. -/
  options : List (String × String)
  /-- The positional argument. -/
  positional : Option String

/-- The flag that asks for help, and the flag that asks for a log. -/
def sharedRules : List OptionRule :=
  [⟨"help", some 'h', none⟩, ⟨"verbose", some 'v', none⟩]

/-- The rules for what stands before the name of a command. -/
def topRules : Rules := ⟨sharedRules, none⟩

/-- The name of each command with its rules. -/
def commandRules : List (String × Rules) :=
  let template : Option (String → Bool) := some fun _ => true
  let notEmpty : String → Bool := fun value => !value.isEmpty
  [("parse", ⟨sharedRules, template⟩),
    ("sanitize",
      ⟨sharedRules ++ [⟨"style", none, some fun value => ["braces", "colon"].contains value⟩,
        ⟨"keep-query", none, none⟩], template⟩),
    ("emit", ⟨sharedRules ++ [⟨"holder", none, some fun _ => true⟩], template⟩),
    ("generate",
      ⟨sharedRules ++ [⟨"out-dir", some 'o', some notEmpty⟩, ⟨"keep-going", none, none⟩],
        some notEmpty⟩),
    ("grammar", ⟨sharedRules, none⟩)]

namespace Given

/-- The value of an option, if it was given. -/
def option? (given : Given) (long : String) : Option String :=
  given.options.lookup long

/-- Whether a flag was given. -/
def flag (given : Given) (long : String) : Bool :=
  (given.option? long).isSome

/-- Adds a flag. Help is given at once, and nothing may be given twice. -/
def addFlag (given : Given) (rule : OptionRule) : Except Refusal Given :=
  -- A request for help ends the reading, whatever stands behind it.
  if rule.long == "help" then .error .help
  else if given.flag rule.long then .error .usage
  else .ok { given with options := given.options ++ [(rule.long, "")] }

/-- Adds an option with its value. -/
def addValue (given : Given) (rule : OptionRule) (accepts : String → Bool) (value : String) :
    Except Refusal Given :=
  if given.flag rule.long || !accepts value then .error .usage
  else .ok { given with options := given.options ++ [(rule.long, value)] }

/-- Adds a positional argument, of which there is at most one. -/
def addPositional (given : Given) (rules : Rules) (value : String) : Except Refusal Given :=
  match given.positional, rules.positional with
  | none, some accepts =>
    if accepts value then .ok { given with positional := some value } else .error .usage
  -- A second argument is refused, and so is a first one where none is wanted.
  | _, _ => .error .usage

/-- Adds positional arguments only. -/
def addPositionals (given : Given) (rules : Rules) (values : List String) :
    Except Refusal Given :=
  values.foldlM (fun given value => given.addPositional rules value) given

end Given

/-- The forms of an argument. -/
inductive Form where
  /-- Two hyphens alone: only positional arguments follow. -/
  | endOfOptions
  /-- Two hyphens and a name, perhaps with a value after an equals sign. -/
  | long (name : String) (value : Option String)
  /-- One hyphen and some letters. -/
  | short (letters : List Char)
  /-- Anything else, a single hyphen included. -/
  | plain

/-- The form of an argument. -/
def formOf (argument : String) : Form :=
  match argument.toList with
  | ['-', '-'] => .endOfOptions
  | '-' :: '-' :: text =>
    let name := text.takeWhile (· != '=')
    match text.dropWhile (· != '=') with
    | _ :: value => .long (String.ofList name) (some (String.ofList value))
    | [] => .long (String.ofList name) none
  -- A single hyphen is a file name to many programs, so it is no option.
  | ['-'] => .plain
  | '-' :: letters => .short letters
  | _ => .plain

/-- Whether an argument can be the value of the option before it. -/
def canBeValue (argument : String) : Bool :=
  match formOf argument with
  | .plain => true
  | _ => false

/-- What an option leaves to be done. -/
inductive Next where
  /-- The option is complete. -/
  | done (given : Given)
  /-- The next argument is its value. -/
  | wants (given : Given) (rule : OptionRule) (accepts : String → Bool)

/-- Reads an option with a long name. -/
def readLong (rules : Rules) (given : Given) (name : String) (value : Option String) :
    Except Refusal Next :=
  match rules.options.find? (·.long == name) with
  | none => .error .usage
  | some rule =>
    match rule.value, value with
    | none, none => (given.addFlag rule).map .done
    | none, some _ => .error .usage
    | some accepts, some value => (given.addValue rule accepts value).map .done
    | some accepts, none => .ok (.wants given rule accepts)

/-- Reads options with short names: flags, and at the end perhaps an option with its value, before
which an equals sign may stand. -/
def readShort (rules : Rules) (given : Given) : List Char → Except Refusal Next
  | [] => .ok (.done given)
  | letter :: rest =>
    match rules.options.find? (·.short == some letter) with
    | none => .error .usage
    | some rule =>
      match rule.value with
      | none =>
        match given.addFlag rule with
        | .ok given => readShort rules given rest
        | .error refusal => .error refusal
      | some accepts =>
        match rest with
        -- The letters end here, so the value is the next argument.
        | [] => .ok (.wants given rule accepts)
        | '=' :: value => (given.addValue rule accepts (String.ofList value)).map .done
        | value => (given.addValue rule accepts (String.ofList value)).map .done

/-- Reads one option. -/
def readOption (rules : Rules) (given : Given) : Form → Except Refusal Next
  | .long name value => readLong rules given name value
  | .short letters => readShort rules given letters
  | _ => .error .usage

/-- Reads all arguments of a command. -/
def readArguments (rules : Rules) (given : Given) : List String → Except Refusal Given
  | [] => .ok given
  | argument :: rest =>
    match formOf argument with
    | .endOfOptions => given.addPositionals rules rest
    | .plain =>
      match given.addPositional rules argument with
      | .ok given => readArguments rules given rest
      | .error refusal => .error refusal
    | form =>
      match readOption rules given form with
      | .error refusal => .error refusal
      | .ok (.done given) => readArguments rules given rest
      | .ok (.wants given rule accepts) =>
        match rest with
        | [] => .error .usage
        | value :: rest =>
          -- What looks like an option is never taken as the value of another.
          if canBeValue value then
            match given.addValue rule accepts value with
            | .ok given => readArguments rules given rest
            | .error refusal => .error refusal
          else .error .usage

/-- The command of a name with its arguments; where one is needed, there is a positional one. -/
def commandOf (name : String) (given : Given) : Except Refusal Command :=
  match name, given.positional with
  | "parse", some template => .ok (.parse template)
  | "sanitize", some template =>
    -- The values of the option have been checked, so all others mean braces.
    let style := if given.option? "style" = some "colon" then .colon else .braces
    let query := if given.flag "keep-query" then .keep else .strip
    .ok (.sanitize template ⟨style, query⟩)
  | "emit", some template =>
    let defaults : Java.CodeNames := {}
    .ok (.emit template ((given.option? "holder").getD defaults.record))
  | "generate", some manifest =>
    .ok (.generate manifest (given.option? "out-dir") (given.flag "keep-going"))
  | "grammar", none => .ok .grammar
  | _, _ => .error .usage

/-- The answer to a request for help on some commands. -/
def helpOn : List String → Refusal
  | [] => .help
  | [name] => if name == "help" || (commandRules.lookup name).isSome then .help else .usage
  | _ => .usage

/-- Reads the flags before the name of a command, and then the command. The flag for the log may
stand on either side of the name, or on both. -/
def readCommand (given : Given) : List String → Except Refusal Invocation
  | [] => .error .usage
  | argument :: rest =>
    match formOf argument with
    -- Behind two hyphens there could be positional arguments only, and none is known here.
    | .endOfOptions => .error .usage
    | .plain =>
      if argument == "help" then .error (helpOn rest)
      else
        match commandRules.lookup argument with
        | none => .error .usage
        | some rules =>
          match readArguments rules ⟨[], none⟩ rest with
          | .ok inner =>
            let verbose := given.flag "verbose" || inner.flag "verbose"
            (commandOf argument inner).map fun command => ⟨verbose, command⟩
          | .error refusal => .error refusal
    | form =>
      match readOption topRules given form with
      | .ok (.done given) => readCommand given rest
      | .ok (.wants _ _ _) => .error .usage
      | .error refusal => .error refusal

/-- The command of a list of arguments. -/
def Invocation.ofArguments (arguments : List String) : Except Refusal Invocation :=
  readCommand ⟨[], none⟩ arguments

end TypedRoutes.Cli

import TypedRoutes.Cli.Host
import TypedRoutes.Text.Span

/-! Files and directories in memory, with the rules by which paths name them. There are no links, so
a file has one place. -/

namespace TypedRoutes.Cli

/-- Files and directories by the names on the way from the root. -/
structure FileTree where
  /-- Each file with its text. -/
  files : List (List String × String)
  /-- The directories below the root. -/
  directories : List (List String)
  /-- The directory from which relative paths start. -/
  here : List String
  deriving DecidableEq

/-- What stands at a place. -/
inductive Entry where
  | file (text : String)
  | directory
  deriving DecidableEq

/-- The greatest number of bytes of a name. -/
def nameLimit : Nat := 255

/-- The greatest number of bytes of a path. -/
def pathLimit : Nat := 4095

namespace FileTree

/-- What stands at a place, if anything does. -/
def lookup? (tree : FileTree) (place : List String) : Option Entry :=
  -- The root is a directory that no entry stands for.
  if place.isEmpty || tree.directories.contains place then some .directory
  else (tree.files.lookup place).map .file

/-- The place where a path starts. -/
def startOf (tree : FileTree) (path : String) : List String :=
  if path.toList.head? = some '/' then [] else tree.here

/-- Goes from a directory through further directories. -/
def enter (tree : FileTree) (place : List String) : List String → Except FileError (List String)
  | [] => .ok place
  | name :: rest =>
    if name = "" ∨ name = "." then enter tree place rest
    -- There are no links, so the directory above is the place without its last name.
    else if name = ".." then enter tree place.dropLast rest
    else if nameLimit < byteSize name.toList then .error .nameTooLong
    else
      match tree.lookup? (place ++ [name]) with
      | none => .error .notFound
      | some (.file _) => .error .notDirectory
      | some .directory => enter tree (place ++ [name]) rest

/-- The place that names lead to: everything but the last of them must be a directory. The last
one may be missing; `none` stands for a directory that no new name leads to. -/
def locate (tree : FileTree) (start : List String) (names : List String) :
    Except FileError (Option (List String)) := do
  let place ← tree.enter start names.dropLast
  match names.getLast? with
  | none => pure none
  | some name =>
    if name = "" ∨ name = "." ∨ name = ".." then pure none
    else if nameLimit < byteSize name.toList then .error .nameTooLong
    else pure (some (place ++ [name]))

/-- The error that a path is too long. -/
def checkLength (path : String) : Except FileError Unit :=
  if pathLimit < byteSize path.toList then .error .nameTooLong else .ok ()

/-- The text of a file. -/
def read (tree : FileTree) (path : String) : Except FileError String := do
  checkLength path
  match ← tree.locate (tree.startOf path) (namesOf path) with
  | none => .error .isDirectory
  | some place =>
    match tree.lookup? place with
    | none => .error .notFound
    | some .directory => .error .isDirectory
    | some (.file text) => pure text

/-- The tree with a text in a file. -/
def write (tree : FileTree) (path text : String) : Except FileError FileTree := do
  checkLength path
  match ← tree.locate (tree.startOf path) (namesOf path) with
  | none => .error .isDirectory
  | some place =>
    match tree.lookup? place with
    | some .directory => .error .isDirectory
    | none => pure { tree with files := tree.files ++ [(place, text)] }
    -- The file keeps its place among the others.
    | some (.file _) =>
      pure { tree with files := tree.files.map fun file =>
        if file.1 == place then (place, text) else file }

/-- Slashes at the end of the path of a new directory mean nothing. -/
def trimSlashes (names : List String) : List String :=
  (names.reverse.dropWhile (· == "")).reverse

/-- The tree with one more directory, in a directory that is there. -/
def makeDirectory (tree : FileTree) (path : String) : Except FileError FileTree := do
  checkLength path
  match ← tree.locate (tree.startOf path) (trimSlashes (namesOf path)) with
  | none => .error .alreadyExists
  | some place =>
    match tree.lookup? place with
    | some _ => .error .alreadyExists
    | none => pure { tree with directories := tree.directories ++ [place] }

/-- Whether a path leads to a directory. -/
def isDirectory (tree : FileTree) (path : String) : Bool :=
  match tree.enter (tree.startOf path) (namesOf path) with
  | .ok _ => true
  | .error _ => false

/-- The names and texts of the files in the directory that a path names. -/
def list (tree : FileTree) (path : String) : List (String × String) :=
  match tree.enter (tree.startOf path) (namesOf path) with
  | .error _ => []
  | .ok place =>
    tree.files.filterMap fun file =>
      match file.1.getLast? with
      | some name => if file.1.dropLast == place then some (name, file.2) else none
      | none => none

/-- All directories above a place, from the root on. -/
def above (place : List String) : List (List String) :=
  (List.range place.length).drop 1 |>.map place.take

/-- The directory in which commands start in a tree of their own. -/
def home : List String := ["tmp", "work"]

/-- A tree with some files, whose paths start from the directory of commands. -/
def ofFiles (files : List (String × String)) : FileTree :=
  let placed := files.map fun file => (home ++ (namesOf file.1).filter (!isIdle ·), file.2)
  ⟨placed, (["tmp"] :: home :: placed.flatMap fun file => above file.1).eraseDups, home⟩

end FileTree

/-- Changes the tree in the state, unless the change fails. -/
def FileTree.change (step : FileTree → Except FileError FileTree) :
    StateM FileTree (Except FileError Unit) := do
  match step (← get) with
  | .ok tree => set tree; return .ok ()
  | .error error => return .error error

/-- A host that keeps a tree of files in its state and no log. -/
def FileTree.host : Host (StateM FileTree) where
  read path := return (← get).read path
  write path text := FileTree.change (·.write path text)
  makeDirectory path := FileTree.change (·.makeDirectory path)
  isDirectory path := return (← get).isDirectory path
  parallelism := 4
  perform jobs := return jobs.map fun job => job ()
  logFilter := some fun _ => false
  logLine entry := return entry.line
  interleave logs := return logs.flatten

end TypedRoutes.Cli

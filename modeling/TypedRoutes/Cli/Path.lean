import TypedRoutes.Text.Split

/-! Paths of files and the names that they are made of. -/

namespace TypedRoutes.Cli

/-- The names in a path; two slashes side by side have an empty name between them. -/
def namesOf (path : String) : List String :=
  (splitBy '/' path.toList).map String.ofList

/-- The path of some names. -/
def pathOf (names : List String) : String :=
  "/".intercalate names

/-- Whether a name leads nowhere else. -/
def isIdle (name : String) : Bool :=
  name == "" || name == "."

/-- The path of a file in a directory, which the empty path leaves to the surroundings. -/
def joinPath (directory name : String) : String :=
  -- A slash at the end of the directory is not repeated.
  if directory.isEmpty || directory.toList.getLast? == some '/' then directory ++ name
  else directory ++ "/" ++ name

end TypedRoutes.Cli

/-! Values of TOML documents. -/

namespace TypedRoutes.Toml

/-- How a table came to be, which decides whether it may still grow. -/
inductive Origin where
  /-- As a part of the path in the header of another table. -/
  | implied
  /-- As a part of a dotted key. -/
  | dotted
  /-- By a header of its own. -/
  | declared
  /-- In braces. -/
  | inline
  deriving DecidableEq

/-- A value; numbers and moments that nothing is computed with keep their spelling. -/
inductive Value where
  | string (text : String)
  | integer (value : Int)
  | float (spelling : String)
  | boolean (value : Bool)
  | moment (spelling : String)
  /-- Values in brackets. -/
  | array (items : List Value)
  /-- The tables of a header in double brackets. -/
  | tables (elements : List (List (String × Value)))
  | table (origin : Origin) (entries : List (String × Value))

/-- Keys with their values; no key occurs twice. -/
abbrev Entries := List (String × Value)

/-- The entries with another value for a key that occurs. -/
def Entries.replace (entries : Entries) (key : String) (value : Value) : Entries :=
  entries.map fun entry => if entry.1 == key then (key, value) else entry

/-- The entries with a further one. -/
def Entries.add (entries : Entries) (key : String) (value : Value) : Entries :=
  entries ++ [(key, value)]

end TypedRoutes.Toml

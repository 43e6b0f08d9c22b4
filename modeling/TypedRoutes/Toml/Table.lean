import TypedRoutes.Toml.Value

/-! The growth of tables: which keys and headers may add to what stands there already. -/

namespace TypedRoutes.Toml

/-- Changes the last table of a list; an empty list has none. -/
def changeLast? (change : Entries → Option Entries) : List Entries → Option (List Entries)
  | [] => none
  | [last] => (change last).map ([·])
  | table :: rest => (changeLast? change rest).map (table :: ·)

/-- Adds a value under a dotted key. Tables on the way are made, or must come from dotted keys or
from headers of other tables; the last of them must come from a dotted key. -/
def assign? (value : Value) : List String → Entries → Option Entries
  | [], _ => none
  | [key], entries =>
    match entries.lookup key with
    | none => some (entries.add key value)
    | some _ => none
  | key :: next :: path, entries =>
    match entries.lookup key with
    | none =>
      (assign? value (next :: path) []).map fun inner => entries.add key (.table .dotted inner)
    | some (.table .dotted inner) =>
      (assign? value (next :: path) inner).map fun inner =>
        entries.replace key (.table .dotted inner)
    | some (.table .implied inner) =>
      -- A table that a header implied may be passed through, but not be added to.
      if path.isEmpty then none
      else
        (assign? value (next :: path) inner).map fun inner =>
          entries.replace key (.table .implied inner)
    | some (.tables elements) =>
      -- The same holds for the last table of an array.
      if path.isEmpty then none
      else
        (changeLast? (assign? value (next :: path)) elements).map fun elements =>
          entries.replace key (.tables elements)
    | some _ => none

/-- Adds assignments one after the other. -/
def assignAll? (assignments : List (List String × Value)) (entries : Entries) : Option Entries :=
  assignments.foldlM (fun entries assignment => assign? assignment.2 assignment.1 entries) entries

/-- Declares a table under a key and fills it. Only headers of other tables may have implied it. -/
def declareTable? (key : String) (fill : Entries → Option Entries) (entries : Entries) :
    Option Entries :=
  match entries.lookup key with
  | none => (fill []).map fun inner => entries.add key (.table .declared inner)
  | some (.table .implied inner) =>
    (fill inner).map fun inner => entries.replace key (.table .declared inner)
  | some _ => none

/-- Declares a further table of an array of tables and fills it. -/
def declareElement? (key : String) (fill : Entries → Option Entries) (entries : Entries) :
    Option Entries :=
  match entries.lookup key with
  | none => (fill []).map fun inner => entries.add key (.tables [inner])
  | some (.tables elements) =>
    (fill []).map fun inner => entries.replace key (.tables (elements ++ [inner]))
  | some _ => none

/-- Follows the path of a header, in which the last table stands for an array of tables, and changes
the table where it ends. -/
def follow? (change : Entries → Option Entries) : List String → Entries → Option Entries
  | [], entries => change entries
  | key :: path, entries =>
    match entries.lookup key with
    | none => (follow? change path []).map fun inner => entries.add key (.table .implied inner)
    -- A table in braces is complete.
    | some (.table .inline _) => none
    | some (.table origin inner) =>
      (follow? change path inner).map fun inner => entries.replace key (.table origin inner)
    | some (.tables elements) =>
      (changeLast? (follow? change path) elements).map fun elements =>
        entries.replace key (.tables elements)
    | some _ => none

end TypedRoutes.Toml

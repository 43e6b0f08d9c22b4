import TypedRoutes.Cli.FileTree
import TypedRoutes.Proofs.Lists
import TypedRoutes.Proofs.Text.Lines

/-! Files in a directory: the names that lead to them, and what a write changes and what it
leaves. -/

namespace TypedRoutes.Cli

namespace FileTree

/-- The tree with a text in a file, in the place of the text that it had if it was there. -/
def put (tree : FileTree) (place : List String) (text : String) : FileTree :=
  match tree.lookup? place with
  | some (.file _) => { tree with files := tree.files.map fun file =>
      if file.1 == place then (place, text) else file }
  | _ => { tree with files := tree.files ++ [(place, text)] }

/-- Writing a file makes no directory. -/
@[simp] theorem directories_put (tree : FileTree) (place : List String) (text : String) :
    (tree.put place text).directories = tree.directories := by
  unfold put
  split <;> rfl

/-- Writing a file does not move the start of relative paths. -/
@[simp] theorem here_put (tree : FileTree) (place : List String) (text : String) :
    (tree.put place text).here = tree.here := by
  unfold put
  split <;> rfl

/-- A later tree with the files of an earlier one, where what was there still is. -/
structure Grows (tree after : FileTree) : Prop where
  /-- The files are the same. -/
  files : after.files = tree.files
  /-- Nothing has gone. -/
  entries : ∀ place entry, tree.lookup? place = some entry → after.lookup? place = some entry

namespace Grows

/-- A tree has grown from itself. -/
theorem refl (tree : FileTree) : Grows tree tree :=
  ⟨rfl, fun _ _ found => found⟩

/-- Growing twice is growing. -/
theorem trans {tree middle after : FileTree} (first : Grows tree middle)
    (second : Grows middle after) : Grows tree after :=
  ⟨second.files.trans first.files,
    fun place entry found => second.entries place entry (first.entries place entry found)⟩

end Grows

end FileTree

end TypedRoutes.Cli

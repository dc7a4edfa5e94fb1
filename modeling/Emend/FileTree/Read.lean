import Emend.FileTree.Resolve

/-!
# Reading files

* `FileTree.readText` gives the text of the file that a path names.
* `FileTree.mode?` gives the permissions of what a path names.
-/

namespace Emend.FileTree

/-- The text of the file that a path names. -/
def readText (t : FileTree) (p : Path) : Except Fault String := do
  let l ← t.resolve p
  match t.get? l with
  | some (.file contents _) =>
    match String.fromUTF8? contents with
    | some text => return text
    | none => throw .invalidText
  | some (.directory _) => throw .isADirectory
  | _ => throw .notFound

/-- The permissions of what a path names, with links followed. -/
def mode? (t : FileTree) (p : Path) : Option Nat :=
  match t.resolve p with
  | .ok l => (t.get? l).bind Entry.mode?
  | .error _ => none

end Emend.FileTree

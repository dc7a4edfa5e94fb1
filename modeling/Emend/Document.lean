import Emend.FileTree.Replace

/-!
# Documents

The text of a file while it is edited. The text that was read is kept beside it,
so that a document whose text did not change is not written.
-/

namespace Emend

/-- A file's path, the text that was read from it, and the text that it has come to. -/
structure Document where
  path : Path
  initial : String
  content : String
  deriving DecidableEq

namespace Document

/-- A document with a text that has not been edited. -/
def ofText (path : Path) (text : String) : Document := ⟨path, text, text⟩

/-- Read the document at a path. -/
def load (t : FileTree) (path : Path) : Except Fault Document :=
  (t.readText path).map (ofText path)

/-- Did the text change? -/
def isModified (d : Document) : Bool := d.content ≠ d.initial

/-- Write the document back if its text changed, and say whether it did. -/
def persist (d : Document) (t : FileTree) : FileTree × Except Fault Bool :=
  if d.isModified then
    let (t, written) := t.replaceFile d.path d.content
    (t, written.map fun _ => true)
  else (t, .ok false)

end Document

end Emend

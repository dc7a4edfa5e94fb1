import Emend.Path

/-!
# File trees

Directories, files and symbolic links, each at a location: the list of names that
leads to it from the root. A tree also knows the location from which relative
paths start.

* `FileTree.get?` is the view of a tree: what stands at each location. The root is
  a directory whatever else the tree holds.
* `get?_put_self` and `get?_put_of_ne`: putting an entry changes one location.
-/

namespace Emend

/-- The names that lead from the root to an entry. -/
abbrev Location := List SystemText

/-- What stands at a location. -/
inductive Entry
  | directory (mode : Nat)
  | file (contents : ByteArray) (mode : Nat)
  | link (target : Path)
  deriving DecidableEq

/-- Is the entry a directory? -/
def Entry.isDirectory : Entry → Bool
  | directory _ => true
  | _ => false

/-- The permissions of an entry; a link has none of its own. -/
def Entry.mode? : Entry → Option Nat
  | directory mode => some mode
  | file _ mode => some mode
  | link _ => none

/-- Entries at locations, and the location from which relative paths start. -/
structure FileTree where
  entries : List (Location × Entry) := []
  workingDirectory : Location := []

/-- The permissions of a directory that has not been given others. -/
def directoryMode : Nat := 0o755

/-- The path of a location. -/
def Path.ofLocation : Location → Path
  | [] => ⟨["", ""]⟩
  | names => ⟨"" :: names⟩

namespace FileTree

/-- The path of the working directory. -/
def workingPath (t : FileTree) : Path := .ofLocation t.workingDirectory

/-- What stands at a location. -/
def get? (t : FileTree) (l : Location) : Option Entry :=
  if l = [] then some (.directory directoryMode) else t.entries.lookup l

/-- Let an entry stand at a location of a list; a new location comes last. -/
def putIn (l : Location) (e : Entry) : List (Location × Entry) → List (Location × Entry)
  | [] => [(l, e)]
  | (k, old) :: rest => if k = l then (l, e) :: rest else (k, old) :: putIn l e rest

/-- Let an entry stand at a location, in the place of what stood there. -/
def put (t : FileTree) (l : Location) (e : Entry) : FileTree :=
  { t with entries := putIn l e t.entries }

/-- Remove a location with everything below it. -/
def remove (t : FileTree) (l : Location) : FileTree :=
  { t with entries := t.entries.filter fun (k, _) => !l.isPrefixOf k }

/-- Is there a directory at a location? -/
def isDirectoryAt (t : FileTree) (l : Location) : Bool := (t.get? l).any Entry.isDirectory

/-- The name of an entry that stands directly in a directory. -/
def nameIn (directory l : Location) : Option SystemText :=
  match l.reverse with
  | name :: above => if above.reverse = directory then some name else none
  | [] => none

/-- Put a name where it belongs among increasing names; a name is listed once. -/
def insertName (name : SystemText) : List SystemText → List SystemText
  | [] => [name]
  | other :: rest =>
    if name < other then name :: other :: rest
    else if name = other then other :: rest
    else other :: insertName name rest

/-- The names in a directory, in increasing order. -/
def names (t : FileTree) (directory : Location) : List SystemText :=
  (t.entries.filterMap fun (l, _) => nameIn directory l).foldr insertName []

/-! ## One entry changes -/

theorem lookup_putIn_self (l : Location) (e : Entry) (es : List (Location × Entry)) :
    (putIn l e es).lookup l = some e := by
  induction es with
  | nil => simp [putIn]
  | cons x rest ih =>
    obtain ⟨k, old⟩ := x
    by_cases h : k = l
    · simp [putIn, h]
    · have : (l == k) = false := by simpa using fun c => h c.symm
      simp [putIn, h, List.lookup_cons, this, ih]

theorem lookup_putIn_of_ne {l k : Location} (h : k ≠ l) (e : Entry)
    (es : List (Location × Entry)) : (putIn l e es).lookup k = es.lookup k := by
  induction es with
  | nil =>
    have : (k == l) = false := by simpa using h
    simp [putIn, List.lookup_cons, this]
  | cons x rest ih =>
    obtain ⟨m, old⟩ := x
    by_cases hm : m = l
    · have : (k == l) = false := by simpa using h
      simp [putIn, hm, List.lookup_cons, this]
    · simp only [putIn, hm, if_false, List.lookup_cons]
      split
      · rfl
      · exact ih

theorem get?_put_self (t : FileTree) {l : Location} (h : l ≠ []) (e : Entry) :
    (t.put l e).get? l = some e := by
  simp [get?, put, h, lookup_putIn_self]

theorem get?_put_of_ne (t : FileTree) {l k : Location} (h : k ≠ l) (e : Entry) :
    (t.put l e).get? k = t.get? k := by
  simp [get?, put, lookup_putIn_of_ne h]

end FileTree

end Emend

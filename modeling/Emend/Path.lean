import Emend.SystemText

/-!
# Paths

A path is kept as it was written, as the segments between its slashes, so that it
can be given back as it came. What it says about places is read through
`Path.components`, in which repeated slashes, a slash at the end and dots inside
do not show; two paths that have the same components name the same place
(`Path.same`).

* `Path.text` shows a path to a reader, whatever bytes it has; `Path.text?` is its
  text, which there is only if every segment is a text.
-/

namespace Emend

/-- A path as it was written: what stands between its slashes. -/
structure Path where
  segments : List SystemText
  deriving DecidableEq, Repr, Inhabited

namespace Path

/-- Cut a list at every slash; `soFar` is the piece under way, its last element first. -/
def pieces {α : Type} [DecidableEq α] (slash : α) : (soFar : List α) → List α → List (List α)
  | soFar, [] => [soFar.reverse]
  | soFar, x :: xs =>
    if x = slash then soFar.reverse :: pieces slash [] xs else pieces slash (x :: soFar) xs

/-- The path with a text. -/
def ofText (text : String) : Path :=
  ⟨(pieces '/' [] text.toList).map fun cs => .text (String.ofList cs)⟩

/-- The path that a word of the system is. -/
def ofSystemText : SystemText → Path
  | .text s => ofText s
  | .raw bytes _ => ⟨(pieces '/'.toUInt8 [] bytes.data.toList).map .ofOctets⟩

/-- The path as a reader is shown it. -/
def text (p : Path) : String := String.intercalate "/" (p.segments.map SystemText.display)

/-- The text of a path, if it is one. -/
def text? (p : Path) : Option String :=
  (p.segments.mapM SystemText.text?).map (String.intercalate "/")

/-- Has the path no text? -/
def isEmpty (p : Path) : Bool := p.segments.all (·.isEmpty) && p.segments.length ≤ 1

/-- Does the path start at the root? -/
def isAbsolute (p : Path) : Bool :=
  match p.segments with
  | .text "" :: _ :: _ => true
  | _ => false

/-! ## Components -/

/-- What a path goes through. -/
inductive Component
  | root
  | here
  | up
  | name (s : SystemText)
  deriving DecidableEq, Repr

/-- The components of segments that do not stand at the front. -/
def innerComponents (segments : List SystemText) : List Component :=
  segments.filterMap fun s : SystemText =>
    if s = "" ∨ s = "." then none else if s = ".." then some .up else some (.name s)

/-- The components of a path; a dot counts only at the front. -/
def components (p : Path) : List Component :=
  match p.segments with
  | .text "" :: s :: rest => .root :: innerComponents (s :: rest)
  | .text "." :: rest => .here :: innerComponents rest
  | segments => innerComponents segments

/-- The segment that writes a component. -/
def Component.segment : Component → SystemText
  | root => ""
  | here => "."
  | up => ".."
  | name s => s

/-- The path that writes components. -/
def ofComponents : List Component → Path
  | [] => ⟨[""]⟩
  | [.root] => ⟨["", ""]⟩
  | cs => ⟨cs.map Component.segment⟩

/-- Do two paths go through the same components? -/
def same (p q : Path) : Bool := p.components = q.components

/-- The path without dots, repeated slashes and a slash at the end. -/
def normalize (p : Path) : Path := ofComponents (p.components.filter (· ≠ .here))

/-! ## Joining and taking apart -/

/-- The path that another one names from here; an absolute one stands for itself. -/
def join (p q : Path) : Path :=
  if q.isAbsolute then q
  else if p.isEmpty then q
  else
    match p.segments.reverse with
    | .text "" :: rest => ⟨rest.reverse ++ q.segments⟩
    | _ => ⟨p.segments ++ q.segments⟩

/-- The path of what holds the last component; nothing for the root and the empty path. -/
def parent? (p : Path) : Option Path :=
  match p.components.reverse with
  | [] => none
  | [.root] => none
  | _ :: rest => some (ofComponents rest.reverse)

end Path

end Emend

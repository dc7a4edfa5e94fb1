import Emend.FileTree.Basic
import Emend.FileTree.Fault

/-!
# Resolving paths

A path is walked step by step from the root or from the working directory. Each
step asks that there is a directory to step from; a name has to stand in that
directory, and a step up leads to the directory that holds it; a symbolic link is
replaced by its target, a limited number of times.

* `FileTree.advance` walks up to the next link, by recursion on the steps.
* `FileTree.resolve` follows the links, by recursion on how many may still come.
-/

namespace Emend

/-- The steps of a path, of which those before the first slash of an absolute one are left out. -/
def Path.steps (p : Path) : List SystemText := if p.isAbsolute then p.segments.tail else p.segments

/-- How far a walk comes without following a link. -/
inductive Advance
  | arrived (l : Location)
  | atLink (directory : Location) (target : Path) (rest : List SystemText)
  | stopped (f : Fault)

namespace FileTree

/-- Walk from a location up to the next link. -/
def advance (t : FileTree) : Location → (steps : List SystemText) → Advance
  | l, [] => .arrived l
  | l, s :: rest =>
    if !t.isDirectoryAt l then .stopped .notADirectory
    else if s = "" ∨ s = "." then t.advance l rest
    else if s = ".." then
      if t.isDirectoryAt l.dropLast then t.advance l.dropLast rest else .stopped .notADirectory
    else
      match t.get? (l ++ [s]) with
      | none => .stopped .notFound
      | some (.link target) => .atLink l target rest
      | some _ => t.advance (l ++ [s]) rest

/-- Where the walk along a path starts that stands in a directory. -/
def startOf (directory : Location) (p : Path) : Location :=
  if p.isAbsolute then [] else directory

/-- How many links one walk may follow. -/
def linkLimit : Nat := 40

/-- Walk from a location and follow up to `links` links. -/
def walk (t : FileTree) : (links : Nat) → Location → (steps : List SystemText) →
    Except Fault Location
  | 0, l, steps =>
    match t.advance l steps with
    | .arrived l => .ok l
    | .atLink .. => .error .linkLoop
    | .stopped f => .error f
  | links + 1, l, steps =>
    match t.advance l steps with
    | .arrived l => .ok l
    | .atLink directory target rest =>
      if target.isEmpty then .error .notFound
      else t.walk links (startOf directory target) (target.steps ++ rest)
    | .stopped f => .error f

/-- The location that a path names, with links followed; something stands there. -/
def resolve (t : FileTree) (p : Path) : Except Fault Location :=
  if p.isEmpty then .error .notFound
  else t.walk linkLimit (startOf t.workingDirectory p) p.steps

/-- The location of a directory that a path names. -/
def resolveDirectory (t : FileTree) (p : Path) : Except Fault Location := do
  let l ← t.resolve p
  if t.isDirectoryAt l then return l else throw .notADirectory

end FileTree

end Emend

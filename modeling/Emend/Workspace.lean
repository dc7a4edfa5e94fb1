import Emend.FileTree.Read

/-!
# Workspaces

A workspace confines edits to the files below one directory, apart from a few
directories inside of it whose contents are made by other tools. Both are judged
by real locations, after all links have been followed.

* `Workspace.resolve` gives the location of a path that may be edited.
* `Workspace.check` is the judgement; being outside comes before being forbidden.
-/

namespace Emend

/-- The directory that edits are confined to, and the directories below it that are left alone. -/
structure Workspace where
  root : Location
  forbidden : List Location
  deriving DecidableEq, Repr

/-- The causes for which a workspace refuses a path. -/
inductive WorkspaceError
  | outside (path workspace : Location)
  | forbidden (path directory : Location)
  | unresolved (path : Path) (fault : Fault)
  deriving DecidableEq, Repr

/-- The message of an error. -/
def WorkspaceError.message : WorkspaceError → String
  | outside path workspace =>
    "document is outside workspace: " ++ (Path.ofLocation path).text ++
      " (workspace: " ++ (Path.ofLocation workspace).text ++ ")"
  | forbidden path directory =>
    "document is in forbidden directory: " ++ (Path.ofLocation path).text ++
      " (forbidden: " ++ (Path.ofLocation directory).text ++ ")"
  | unresolved path fault => "failed to resolve " ++ path.text ++ ": " ++ fault.message

namespace Workspace

/-- The names of the directories below a root in which nothing is edited. -/
def forbiddenNames : List SystemText := [".git", "node_modules", "target"]

/-- The location that a path names. -/
def locate (t : FileTree) (p : Path) : Except WorkspaceError Location :=
  (t.resolve p).mapError (.unresolved p)

/-- Where the forbidden directories of a root really are, as far as they exist. -/
def forbiddenBelow (t : FileTree) (root : Location) : List Location :=
  forbiddenNames.filterMap fun name =>
    (t.resolve ((Path.ofLocation root).join ⟨[name]⟩)).toOption

/-- The workspace whose root a path names. -/
def ofPath (t : FileTree) (p : Path) : Except WorkspaceError Workspace := do
  let root ← locate t p
  return { root, forbidden := forbiddenBelow t root }

/-- Judge a location. -/
def check (w : Workspace) (l : Location) : Except WorkspaceError Unit :=
  if !w.root.isPrefixOf l then .error (.outside l w.root)
  else
    match w.forbidden.find? (·.isPrefixOf l) with
    | some directory => .error (.forbidden l directory)
    | none => .ok ()

/-- A path as it is seen from the root. -/
def fromRoot (w : Workspace) (p : Path) : Path := (Path.ofLocation w.root).join p

/-- The location of a path that may be edited; a relative path starts at the root. -/
def resolve (w : Workspace) (t : FileTree) (p : Path) : Except WorkspaceError Location := do
  let l ← locate t (w.fromRoot p)
  w.check l
  return l

/-- Judge once more a path that has been resolved before. -/
def revalidate (w : Workspace) (t : FileTree) (p : Path) : Except WorkspaceError Location := do
  let l ← locate t p
  w.check l
  return l

end Workspace

end Emend

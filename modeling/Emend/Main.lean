import Emend.Command.Run

/-!
# The program

Commands are carried out on a file tree in memory. The program copies into it what
the command can come across on disk, carries out the command, prints what there is
to print, and writes the files that have changed.

A file is written in place, so that it keeps its permissions. Only what has a text
for its path can be reached on disk from here.
-/

namespace Emend.Disk

/-- The location of an absolute path without links. -/
def locationOf (text : String) : Location := (Path.ofText text).steps.filter (!·.isEmpty)

/-- The permissions that are assumed of files; those on disk are not changed. -/
def assumedMode : Nat := 0o644

/-- What stands at a location whose directory has no links on the way to it. -/
def readEntry (l : Location) : IO (Option Entry) := do
  let some text := (Path.ofLocation l).text? | return none
  try
    let real ← IO.FS.realPath text
    if real.toString ≠ text then return some (.link (Path.ofText real.toString))
    match (← real.metadata).type with
    | .dir => return some (.directory directoryMode)
    | .file => return some (.file (← IO.FS.readBinFile text) assumedMode)
    | _ => return none
  catch _ => return none

/-- Copy what stands at a location. -/
def copyEntry (t : FileTree) (l : Location) : IO FileTree := do
  if (t.get? l).isSome then return t
  match ← readEntry l with
  | some e => return t.put l e
  | none => return t

/-- Copy everything on the way to a location that has no links. -/
def copyWay (t : FileTree) (above : Location) : Location → IO FileTree
  | [] => return t
  | name :: rest => do copyWay (← copyEntry t (above ++ [name])) (above ++ [name]) rest

/-- Copy everything that some steps from a location come across. -/
def copySteps (t : FileTree) (l : Location) : List SystemText → IO FileTree
  | [] => return t
  | s :: rest => do
    if s = "" ∨ s = "." then copySteps t l rest
    else if s = ".." then copySteps t l.dropLast rest
    else
      let here := l ++ [s]
      let t ← copyEntry t here
      match t.get? here with
      | some (.link target) =>
        let real := locationOf target.text
        copySteps (← copyWay t [] real) real rest
      | _ => copySteps t here rest

/-- Copy everything that a path comes across. -/
def copyPath (t : FileTree) (p : Path) : IO FileTree :=
  copySteps t (FileTree.startOf t.workingDirectory p) p.steps

/-- Copy some paths. -/
def copyPaths (t : FileTree) (ps : List Path) : IO FileTree := ps.foldlM copyPath t

/-- Copy what a directory holds, if a path names one. -/
def copyDirectory (t : FileTree) (p : Path) : IO FileTree := do
  match t.resolveDirectory p with
  | .error _ => return t
  | .ok l =>
    let some text := (Path.ofLocation l).text? | return t
    let entries ← (← IO.FS.realPath text).readDir
    entries.toList.foldlM (fun t e => copyEntry t (l ++ [.text e.fileName])) t

/-- Copy rule files, and the documents that they name, seen from a root. -/
def copyRules (t : FileTree) (root rules : Path) : IO FileTree := do
  let t ← copyDirectory (← copyPath t rules) rules
  match RuleFile.loadAll t rules with
  | .error _ => return t
  | .ok files =>
    copyPaths t (files.flatMap fun (_, f) =>
      f.rules.map fun d => root.join (f.documentOf root d))

/-- Copy a workspace, and give the path of its root. -/
def copyWorkspace (t : FileTree) (root : Path) : IO (FileTree × Path) := do
  let t ← copyPath t root
  match t.resolve root with
  | .error _ => return (t, root)
  | .ok l =>
    let root := Path.ofLocation l
    return (← copyPaths t (Workspace.forbiddenNames.map fun n => root.join ⟨[n]⟩), root)

/-- Copy what a command can come across. -/
def copyFor (s : Command.Surroundings) (t : FileTree) : Command → IO FileTree
  | .apply rules workspace _ _ _ => do
    let (t, root) ← copyWorkspace t (Command.workspacePath s t workspace)
    copyRules t root rules
  | .check rules workspace _ => do
    let (t, root) ← copyWorkspace t (Command.workspacePath s t workspace)
    copyRules t root rules
  | .list rules => copyRules t t.workingPath rules

/-- The tree before anything but the way to the working directory has been copied. -/
def start : IO FileTree := do
  let here := locationOf (← IO.currentDir).toString
  copyWay { workingDirectory := here } [] here

/-- Write the files that differ between two trees. -/
def writeChanges (before after : FileTree) : IO Unit := do
  for (l, e) in after.entries do
    match e with
    | .file contents _ =>
      if before.get? l ≠ some e then
        if let some text := (Path.ofLocation l).text? then IO.FS.writeBinFile text contents
    | _ => pure ()

end Emend.Disk

open Emend in
/-- Carry out what the command line asks for. -/
def main (args : List String) : IO UInt32 := do
  let workspace := (← IO.getEnv "TEXT_PATCHER_WORKSPACE").map Path.ofText
  let surroundings : Command.Surroundings := { workspace }
  let args := args.map SystemText.text
  let before ← Disk.start
  let before ← match Request.ofArguments args with
    | some (.run command _) => Disk.copyFor surroundings before command
    | _ => pure before
  let output := Command.runArguments surroundings before args
  Disk.writeChanges before output.tree
  (← IO.getStdout).putStr output.printed.out
  (← IO.getStderr).putStr output.printed.err
  return output.exitCode.toUInt32

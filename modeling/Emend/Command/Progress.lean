import Emend.Command.Entry
import Emend.RuleFile.Batch

/-!
# Progress through rule files

A command takes the rule files that it has loaded to their documents, one file
after another; each file sees the tree that the one before it left. `Progress` is
how far it has come.

* `applyAll` and `checkAll` take all files to their documents in a workspace.
* Work ends early if the rules of a file cannot be made. Where entries are asked for, it
  also breaks off at the first file with a document whose entry cannot be made.
-/

namespace Emend.Command

/-- What became of the documents of a rule file. -/
structure FileOutcome where
  file : Path
  log : List LogEntry
  outcomes : List DocumentOutcome

/-- The entries of the documents of a rule file, if all of them can be made. -/
def FileOutcome.entries? (f : FileOutcome) : Option (List Json) :=
  f.outcomes.mapM (outcomeJson? f.file)

/-- All entries of some rule files, if all of them can be made. -/
def entriesOf? (done : List FileOutcome) : Option (List Json) :=
  (done.mapM FileOutcome.entries?).map List.flatten

/-- What became of the documents of some rule files, and the error that ended the work on them. -/
structure Progress where
  tree : FileTree
  done : List FileOutcome := []
  failure : Option Failure := none

/--
Take rule files to their documents, one file after another. If entries are asked for, those of
a file are made before the next file is taken up, and nothing is done after one that cannot be.
-/
def takeAll (listed : Bool) (batch : FileTree → RuleFile → Except RuleError Batch) :
    FileTree → List (Path × RuleFile) → Progress
  | t, [] => { tree := t }
  | t, (path, f) :: rest =>
    match batch t f with
    | .error e => { tree := t, failure := some (Failure.ofRules path e) }
    | .ok b =>
      let here : FileOutcome := ⟨path, b.log, b.outcomes⟩
      if listed && here.entries?.isNone then { tree := b.tree, done := [here] }
      else
        let progress := takeAll listed batch b.tree rest
        { progress with done := here :: progress.done }

/-- Let rule files edit their documents in a workspace. -/
def applyAll (w : Workspace) (dryRun listed : Bool) (t : FileTree)
    (files : List (Path × RuleFile)) : Progress :=
  let e : Editor := { workspace := some w, dryRun }
  takeAll listed (fun t f => e.applyFile t f (Path.ofLocation w.root)) t files

/-- See what rule files would do to their documents in a workspace; entries are always made. -/
def checkAll (w : Workspace) (t : FileTree) (files : List (Path × RuleFile)) : Progress :=
  let e : Editor := { workspace := some w }
  takeAll true (fun t f => e.checkFile t f (Path.ofLocation w.root)) t files

end Emend.Command

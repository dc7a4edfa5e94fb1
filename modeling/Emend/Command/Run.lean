import Emend.Command.Help
import Emend.Command.Listing
import Emend.Command.Status
import Emend.Command.Totals

/-!
# Running commands

`Command.run` carries out a command on a file tree. All rule files are loaded
before the first document is read.

* `apply` takes the rule files to their documents, one file after another.
* `check` sees what they would do, and never changes the tree.
* Entries are printed by `apply` only if they are asked for, but `check` makes them anyway.
* `list` shows the rules.
-/

namespace Emend.Command

/-- What a command knows of its surroundings: the workspace to use if none is named. -/
structure Surroundings where
  workspace : Option Path := none

/-- The path of the workspace: the one named, or the surroundings', or the working directory. -/
def workspacePath (s : Surroundings) (t : FileTree) (named : Option Path) : Path :=
  (named <|> s.workspace).getD t.workingPath

/-- Find the workspace and load the rule files. -/
def prepare (s : Surroundings) (t : FileTree) (named : Option Path) (rules : Path) :
    Except Failure (Workspace × List (Path × RuleFile)) := do
  let root := workspacePath s t named
  let w ← (Workspace.ofPath t root).mapError (Failure.ofWorkspace root)
  let files ← (RuleFile.loadAll t rules).mapError Failure.ofLoad
  return (w, files)

/-- An error ends a command without a change. -/
def fail (t : FileTree) (f : Failure) : Output := ⟨1, f.printed, t⟩

/--
A command breaks off at an entry that cannot be made. It leaves behind what it has done so far,
and none of the entries. Of what is said about the place where it broke off, this is the cause.
-/
def breakOff (above : Printed) (t : FileTree) : Output :=
  ⟨101, above ++ .errorLine "path contains invalid UTF-8 characters", t⟩

/-! ## The commands -/

/-- The lines above all others. -/
def applyHeader (root : Location) (dryRun : Bool) : Printed :=
  .line ("Workspace: " ++ (Path.ofLocation root).text) ++
    (if dryRun then .line "[DRY RUN - no documents will be written]" else {}) ++ .line ""

/-- The lines of a rule file. -/
def fileLines (dryRun diff : Bool) (f : FileOutcome) : Printed :=
  .line ("Applying rules from " ++ f.file.text ++ "...") ++
    .all (f.outcomes.map (outcomeLines dryRun diff)) ++ .line ""

/-- What `apply` prints, up to the last rule file that was taken to its documents. -/
def applyLines (root : Location) (dryRun diff json : Bool) (verbosity : Nat)
    (done : List FileOutcome) : Printed :=
  (if json then {} else applyHeader root dryRun) ++
    .all (done.map fun f =>
      logLines verbosity f.log ++ (if json then {} else fileLines dryRun diff f))

/-- Carry out `apply`. -/
def runApply (s : Surroundings) (t : FileTree) (rules : Path) (named : Option Path)
    (dryRun diff json : Bool) (verbosity : Nat) : Output :=
  match prepare s t named rules with
  | .error f => fail t f
  | .ok (w, files) =>
    let progress := applyAll w dryRun json t files
    let above := applyLines w.root dryRun diff json verbosity progress.done
    match progress.failure with
    | some f => ⟨1, above ++ f.printed, progress.tree⟩
    | none =>
      let totals := Totals.ofDone progress.done
      let exitCode := if 0 < totals.failed then 1 else 0
      if json then
        match entriesOf? progress.done with
        | some entries => ⟨exitCode, above ++ entriesLine entries, progress.tree⟩
        | none => breakOff above progress.tree
      else ⟨exitCode, above ++ totals.lines dryRun, progress.tree⟩

/-- Carry out `check`. -/
def runCheck (s : Surroundings) (t : FileTree) (rules : Path) (named : Option Path)
    (json : Bool) (verbosity : Nat) : Output :=
  match prepare s t named rules with
  | .error f => fail t f
  | .ok (w, files) =>
    let progress := checkAll w t files
    let above := Printed.all (progress.done.map fun f => logLines verbosity f.log)
    match progress.failure, entriesOf? progress.done with
    | some f, _ => ⟨1, above ++ f.printed, progress.tree⟩
    | none, none => breakOff above progress.tree
    | none, some entries =>
      let status := Status.ofDone progress.done
      let below := if json then entriesLine entries else status.lines w.root
      ⟨if status.isClean then 0 else 1, above ++ below, progress.tree⟩

/-- Carry out `list`. -/
def runList (t : FileTree) (rules : Path) : Output :=
  match RuleFile.loadAll t rules with
  | .error e => fail t (Failure.ofLoad e)
  | .ok files => ⟨0, .all (files.map listLines), t⟩

/-! ## All commands -/

/-- Carry out a command. -/
def run (s : Surroundings) (t : FileTree) (verbosity : Nat) : Command → Output
  | .apply rules workspace dryRun diff json =>
    runApply s t rules workspace dryRun diff json verbosity
  | .check rules workspace json => runCheck s t rules workspace json verbosity
  | .list rules => runList t rules

/-- The line that names the program and its version. -/
def versionLine : String := "text-patcher 0.1.0"

/-- What is printed for a command line that is not well formed. -/
def usage : String :=
  String.intercalate "\n"
    ["usage: text-patcher [-v] apply --rules PATH [--workspace PATH] [--dry-run] [--diff] [--json]",
      "       text-patcher [-v] check --rules PATH [--workspace PATH] [--json]",
      "       text-patcher [-v] list --rules PATH"]

/-- Carry out what a command line asks for. -/
def runArguments (s : Surroundings) (t : FileTree) (args : List SystemText) : Output :=
  match Request.ofArguments args with
  | none => ⟨2, .errorLine usage, t⟩
  | some .version => ⟨0, .line versionLine, t⟩
  | some (.help topic) => ⟨0, .line (helpText topic), t⟩
  | some (.run command verbosity) => run s t verbosity command

end Emend.Command

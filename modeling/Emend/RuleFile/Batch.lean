import Emend.RuleFile.Plan
import Emend.Session.Run

/-!
# Batches

A batch takes a rule file to all of its documents, with a session for each plan.
A session that fails does not keep the others from running. No document is read
before every rule has been made.
-/

namespace Emend

/-- What a batch leaves behind, with the outcome for each document. -/
structure Batch where
  tree : FileTree
  log : List LogEntry := []
  outcomes : List (Path × Except SessionError Session) := []

/-- Take plans to their documents, each of which sees the tree that the one before it left. -/
def Batch.ofPlans (session : FileTree → Plan → Run) : FileTree → List Plan → Batch
  | t, [] => { tree := t }
  | t, plan :: rest =>
    let run := session t plan
    let batch := Batch.ofPlans session run.tree rest
    { tree := batch.tree
      log := run.log ++ batch.log
      outcomes := (plan.document, run.result) :: batch.outcomes }

namespace Editor

/-- Take a rule file to its documents. -/
def applyFile (e : Editor) (t : FileTree) (f : RuleFile) (root : Path) :
    Except RuleError Batch := do
  return Batch.ofPlans (fun t plan => e.run t plan.document plan.rules) t (← f.plans root)

/-- See what a rule file would do to its documents. -/
def checkFile (e : Editor) (t : FileTree) (f : RuleFile) (root : Path) :
    Except RuleError Batch := do
  return Batch.ofPlans (fun t plan => e.check t plan.document plan.rules) t (← f.plans root)

end Editor

end Emend

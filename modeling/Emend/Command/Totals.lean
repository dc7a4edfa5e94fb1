import Emend.Command.Progress

/-!
# Totals

How many rules came to what, over all documents of all rule files.

* `Totals.ofDone` counts; a document that failed before its rules ran counts as one
  rule that failed, so `failed` is zero only if no document failed.
-/

namespace Emend.Command

/-- How many rules came to what, in all documents. -/
structure Totals where
  applied : Nat := 0
  alreadyApplied : Nat := 0
  absent : Nat := 0
  failed : Nat := 0
  changedDocuments : Nat := 0
  deriving DecidableEq, Repr

namespace Totals

/-- Count a rule. -/
def countOutcome (t : Totals) : Outcome → Totals
  | .applied _ => { t with applied := t.applied + 1 }
  | .alreadyApplied => { t with alreadyApplied := t.alreadyApplied + 1 }
  | .absent => { t with absent := t.absent + 1 }
  | .failed => { t with failed := t.failed + 1 }

/-- Count the rules of some reports. -/
def countReports (t : Totals) (reports : List Report) : Totals :=
  reports.foldl (fun t r => t.countOutcome r.outcome) t

/-- Count a document. One that failed before its rules ran counts as a rule that failed. -/
def countDocument (t : Totals) : Except SessionError Session → Totals
  | .ok s =>
    let t := t.countReports s.reports
    if s.changed then { t with changedDocuments := t.changedDocuments + 1 } else t
  | .error (.drifted _ _ reports) => t.countReports reports
  | .error _ => { t with failed := t.failed + 1 }

/-- Count all documents. -/
def ofDone (done : List FileOutcome) : Totals :=
  (done.flatMap (·.outcomes)).foldl (fun t o => t.countDocument o.2) {}

/-- The lines below all others. -/
def lines (t : Totals) (dryRun : Bool) : Printed :=
  .all (List.map Printed.line
    ["Summary:",
      "  " ++ toString t.applied ++ (if dryRun then " would apply" else " applied"),
      "  " ++ toString t.alreadyApplied ++ " already applied",
      "  " ++ toString t.absent ++ " skipped (absent)",
      "  " ++ toString t.failed ++ " failed",
      "  " ++ toString t.changedDocuments ++ " document(s) " ++
        (if dryRun then "would change" else "changed")])

end Totals

end Emend.Command

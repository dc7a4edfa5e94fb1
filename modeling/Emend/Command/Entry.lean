import Emend.Command.Output

/-!
# What a command prints for a document

* `outcomeJson?` is the entry of a document in a list of results. There is none if the
  rule file or the document that it names has a path that is no text.
* `reportLines`, `changeLines` and `errorLines` are the same for a reader, and show any path.
-/

namespace Emend.Command

/-- What became of a document under a rule file. -/
abbrev DocumentOutcome := Path × Except SessionError Session

/-! ## Entries -/

/-- The entry of a document in a list of results, if its paths can be printed. -/
def outcomeJson? (file : Path) : DocumentOutcome → Option Json
  | (_, .ok s) => do
    let file ← file.toJson?
    let session ← s.toJson?
    return Json.sorted (.object
      [("rules_file", file), ("status", .text "ok"), ("session", session)])
  | (document, .error (.drifted _ rule reports)) => do
    let file ← file.toJson?
    let document ← document.toJson?
    return Json.sorted (.object
      [("rules_file", file), ("document", document), ("status", .text "aborted"),
        ("failed_rule", .text rule), ("reports", .list (reports.map Report.toJson))])
  | (document, .error e) => do
    let file ← file.toJson?
    let document ← document.toJson?
    return Json.sorted (.object
      [("rules_file", file), ("document", document), ("status", .text "error"),
        ("error", .text e.message)])

/-- A list of results. -/
def entriesLine (entries : List Json) : Printed := .line (Json.list entries).pretty

/-! ## Lines -/

/-- The line of a rule. -/
def reportLine (document : Path) (dryRun : Bool) (r : Report) : Printed :=
  match r.outcome with
  | .applied n =>
    .line ("✓ " ++ r.rule ++ ": " ++ (if dryRun then "Would apply to " else "Applied to ") ++
      document.text ++ (if 1 < n then " (" ++ toString n ++ " replacements)" else ""))
  | .alreadyApplied => .line ("⊙ " ++ r.rule ++ ": Already applied to " ++ document.text)
  | .absent => .line ("⊘ " ++ r.rule ++ ": Skipped (no match in " ++ document.text ++ ")")
  | .failed => .errorLine ("✗ " ++ r.rule ++ ": Failed - required text not found")

/-- The lines of some rules. -/
def reportLines (document : Path) (dryRun : Bool) (reports : List Report) : Printed :=
  .all (reports.map (reportLine document dryRun))

/-- The lines that a session changed. -/
def changeLines (document : Path) (s : Session) : Printed :=
  { out := "\n--- " ++ document.text ++ " (original)\n+++ " ++ document.text ++ " (patched)\n" ++
      Diff.changedLines s.before s.after ++ "\n" }

/-- What is said about a document that has drifted. -/
def driftLines (document : Path) (rule : String) : Printed :=
  .all (List.map Printed.errorLine
    ["  CONFLICT: required rule '" ++ rule ++ "' matched nothing",
      "  File: " ++ document.text,
      "  Possible causes:",
      "    - The document was edited since the rules were written",
      "    - An earlier rule in this file changed the text it expects",
      "  No changes were written to this document."])

/-- The lines of a session that failed. -/
def errorLines (document : Path) (dryRun : Bool) : SessionError → Printed
  | .drifted _ rule reports =>
    reportLines document dryRun reports ++ driftLines document rule
  | .io path fault => .errorLine ("✗ " ++ path.text ++ ": " ++ fault.message)
  | e => .errorLine ("✗ " ++ document.text ++ ": " ++ e.message)

/-- The lines of a document; `diff` asks for the lines that changed. -/
def outcomeLines (dryRun diff : Bool) : DocumentOutcome → Printed
  | (document, .ok s) =>
    reportLines document dryRun s.reports ++
      (if diff && s.changed then changeLines document s else {})
  | (document, .error e) => errorLines document dryRun e

end Emend.Command

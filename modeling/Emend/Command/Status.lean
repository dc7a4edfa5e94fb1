import Emend.Command.Progress

/-!
# Status reports

The rules of all documents, sorted by what they would come to.

* `Status.isClean` says that there is nothing left to do.
-/

namespace Emend.Command

/-- A rule in a document, as it is listed. -/
abbrev Listed := Path × String

/-- The rules of all documents by what they would come to, and the documents that failed. -/
structure Status where
  pending : List Listed := []
  upToDate : List Listed := []
  notApplicable : List Listed := []
  broken : List (Listed × String) := []
  deriving DecidableEq, Repr

namespace Status

/-- Everything of one status, and behind it everything of another. -/
def append (a b : Status) : Status where
  pending := a.pending ++ b.pending
  upToDate := a.upToDate ++ b.upToDate
  notApplicable := a.notApplicable ++ b.notApplicable
  broken := a.broken ++ b.broken

/-- The status of a rule in a document that did not fail. -/
def ofReport (document : Path) (r : Report) : Status :=
  match r.outcome with
  | .applied _ => { pending := [(document, r.rule)] }
  | .alreadyApplied => { upToDate := [(document, r.rule)] }
  | .absent => { notApplicable := [(document, r.rule)] }
  | .failed => { notApplicable := [(document, r.rule)] }

/-- The status of a document. -/
def ofOutcome : DocumentOutcome → Status
  | (document, .ok s) => (s.reports.map (ofReport document)).foldl append {}
  | (document, .error (.drifted _ rule _)) =>
    { broken := [((document, rule), "required text not found")] }
  | (document, .error e) => { broken := [((document, "-"), e.message)] }

/-- The status of all documents. -/
def ofDone (done : List FileOutcome) : Status :=
  ((done.flatMap (·.outcomes)).map ofOutcome).foldl append {}

/-- Is there nothing left to do? -/
def isClean (s : Status) : Bool := s.pending.isEmpty && s.broken.isEmpty

/-- A group of rules with its title; nothing if there are none. -/
def group (mark title : String) (entries : List Listed) : Printed :=
  if entries.isEmpty then {}
  else
    .line (mark ++ " " ++ title ++ " (" ++ toString entries.length ++ " rules)") ++
      .all (entries.map fun (document, rule) =>
        .line ("  - " ++ rule ++ " (" ++ document.text ++ ")")) ++ .line ""

/-- The documents that failed. -/
def brokenLines (broken : List (Listed × String)) : Printed :=
  if broken.isEmpty then {}
  else
    .line ("✗ FAILED (" ++ toString broken.length ++ " documents)") ++
      .all (broken.map fun ((document, rule), reason) =>
        .line ("  - " ++ document.text ++ " [" ++ rule ++ "] (" ++ reason ++ ")")) ++ .line ""

/-- The whole status. -/
def lines (s : Status) (root : Location) : Printed :=
  .line "Rule Status Report" ++ .line ("Workspace: " ++ (Path.ofLocation root).text) ++
    .line "" ++ group "✓" "UP TO DATE" s.upToDate ++ group "⊙" "PENDING" s.pending ++
    group "⊘" "NOT APPLICABLE" s.notApplicable ++ brokenLines s.broken

end Status

end Emend.Command

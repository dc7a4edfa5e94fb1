import Emend.Diff.Unified
import Emend.Fingerprint
import Emend.Json
import Emend.Pass
import Emend.Path

/-!
# Sessions

The record of one set of rules that was taken to one document: what became of
each rule, whether the text changed, and whether it was written back.

* `Session.ofTexts` computes from the two texts what the record says of them.
* `Session.toJson?` is the record as it is printed, which it can be only if the
  document's path is a text; the texts of the document stay out of it.
-/

namespace Emend

/-- What a session has done to a document. -/
structure Session where
  document : Path
  reports : List Report
  changed : Bool
  persisted : Bool
  fingerprintBefore : UInt64
  fingerprintAfter : UInt64
  tally : Diff.Tally
  before : String
  after : String
  deriving DecidableEq

namespace Session

/-- The record of a session that found one text and left another. -/
def ofTexts (document : Path) (reports : List Report) (persisted : Bool)
    (before after : String) : Session where
  document
  reports
  changed := after ≠ before
  persisted
  fingerprintBefore := fingerprint before
  fingerprintAfter := fingerprint after
  tally := Diff.Tally.between before after
  before
  after

/-- How many rules were applied. -/
def applied (s : Session) : Nat := s.reports.countP (·.outcome.isApplied)

/-- How many rules were skipped. -/
def skipped (s : Session) : Nat := s.reports.countP (·.outcome.isSkipped)

/-- What became of the rule with an id. -/
def outcome? (s : Session) (id : String) : Option Outcome :=
  (s.reports.find? (·.rule = id)).map (·.outcome)

/-- The change in the unified format; empty if there is none. -/
def unified (s : Session) : String :=
  if s.changed then Diff.unified s.document.text s.before s.after else ""

end Session

/-! ## Printed records -/

/-- An outcome as it is printed. -/
def Outcome.toJson : Outcome → Json
  | applied n => .object [("outcome", .text "applied"), ("replacements", .number n)]
  | alreadyApplied => .object [("outcome", .text "skipped-guard")]
  | absent => .object [("outcome", .text "skipped-absent")]
  | failed => .object [("outcome", .text "failed")]

/-- A report as it is printed. -/
def Report.toJson (r : Report) : Json :=
  .object [("rule", .text r.rule), ("result", r.outcome.toJson)]

/-- A tally as it is printed. -/
def Diff.Tally.toJson (t : Diff.Tally) : Json :=
  .object [("lines_added", .number t.added), ("lines_removed", .number t.removed)]

/-- A path as it is printed, if it is a text. -/
def Path.toJson? (p : Path) : Option Json := p.text?.map .text

/-- A session as it is printed, if its document's path can be. -/
def Session.toJson? (s : Session) : Option Json := do
  let document ← s.document.toJson?
  return .object
    [("document", document),
      ("reports", .list (s.reports.map Report.toJson)),
      ("changed", .bool s.changed),
      ("persisted", .bool s.persisted),
      ("original_hash", .number s.fingerprintBefore.toNat),
      ("final_hash", .number s.fingerprintAfter.toNat),
      ("diff", s.tally.toJson)]

end Emend

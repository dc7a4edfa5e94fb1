import Emend.Rule.Apply
import Emend.RuleSet

/-!
# Passes

A pass takes a text through the rules of a set in order; each rule sees the text
that the rule before it left. A required rule without a match ends the pass, and
the edits made before it stay in the pass's content.
-/

namespace Emend

/-- What a pass leaves behind: the text, a report for each rule that ran, and who ended it. -/
structure Pass where
  content : String
  reports : List Report
  abortedBy : Option String
  deriving DecidableEq, Repr

/-- Take a text through some rules. -/
def Pass.over : List Rule → (content : String) → Pass
  | [], content => ⟨content, [], none⟩
  | rule :: rest, content =>
    let (next, outcome) := rule.apply content
    let report : Report := ⟨rule.id, outcome⟩
    if outcome.isFailed then ⟨next, [report], some rule.id⟩
    else
      let pass := Pass.over rest next
      { pass with reports := report :: pass.reports }

/-- Take a text through a set. -/
def RuleSet.pass (set : RuleSet) (content : String) : Pass := Pass.over set.rules content

end Emend

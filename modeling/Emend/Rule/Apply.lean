import Emend.Rule.Basic
import Emend.Rule.Outcome
import Emend.Template
import Emend.Text.Splice

/-!
# Applying a rule

`Rule.apply` gives the text after a rule and what became of the rule. The guard
is asked first; only if it is not satisfied does the matcher count.

* `Rule.edit?` is the edit by itself, without guard: the new text and the number
  of replacements, or nothing if the matcher is absent. Only a pattern heeds the scope.
-/

namespace Emend

/-- The text that takes the place of a pattern's match. -/
def Replacement.insertion (r : Replacement) (p : Pattern) (m : Match) : List Char :=
  match r with
  | .literal text => text.toList
  | .template text => Template.expand p.groupIndex? m text

namespace Rule

/-- Does the text satisfy the rule's guard? -/
def guardSatisfied (rule : Rule) (content : String) : Bool :=
  rule.guard.any (·.isMatch content)

/-- The new text and the number of replacements; nothing if there is no match. -/
def edit? (rule : Rule) (content : String) : Option (String × Nat) :=
  match rule.matcher, rule.scope with
  | .pattern p, .all =>
    match p.findAll content with
    | [] => none
    | m :: ms =>
      let places := (m :: ms).map fun m => ((m.start, m.stop), rule.replacement.insertion p m)
      some (String.ofList (Text.weave content.toList places), places.length)
  | .pattern p, .first =>
    (p.find? content).map fun m =>
      (String.ofList (content.toList.take m.start ++ rule.replacement.insertion p m
        ++ content.toList.drop m.stop), 1)
  | .literal text, _ =>
    (Text.cut? text.toList content.toList).map fun (before, after) =>
      (String.ofList (before ++ rule.replacement.text.toList ++ after), 1)

/-- What becomes of a rule whose matcher is absent. -/
def absentOutcome (rule : Rule) : Outcome := if rule.required then .failed else .absent

/-- The text after a rule, and what became of the rule. -/
def apply (rule : Rule) (content : String) : String × Outcome :=
  if rule.guardSatisfied content then (content, .alreadyApplied)
  else
    match rule.edit? content with
    | some (new, n) => (new, .applied n)
    | none => (content, rule.absentOutcome)

end Rule

end Emend

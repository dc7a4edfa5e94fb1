import Emend.Path
import Emend.RuleFile.Basic
import Emend.RuleSet

/-!
# Plans

A plan is a set of rules for one document. The definitions of a rule file are
grouped by the documents that they name, in the order in which those first come
up; paths that differ in dots and repeated slashes only name one document.
-/

namespace Emend

/-- The rules for one document. -/
structure Plan where
  document : Path
  rules : RuleSet
  deriving DecidableEq

namespace RuleFile

/-- The document that a definition names, seen from a root if the file says so. -/
def documentOf (f : RuleFile) (root : Path) (d : Definition) : Path :=
  let file := Path.ofText d.file
  (if f.workspaceRelative then root.join file else file).normalize

/-- Add a rule to the plan for a document, which comes last if it is new. -/
def addToPlans (name : String) (document : Path) (rule : Rule) :
    List Plan → Except RuleError (List Plan)
  | [] =>
    let (rules, pushed) := RuleSet.push { name } rule
    pushed.map fun _ => [⟨document, rules⟩]
  | plan :: rest =>
    if plan.document = document then
      let (rules, pushed) := plan.rules.push rule
      pushed.map fun _ => { plan with rules } :: rest
    else (addToPlans name document rule rest).map (plan :: ·)

/-- Add the rules of some definitions to plans. -/
def planAll (f : RuleFile) (root : Path) : List Definition → List Plan →
    Except RuleError (List Plan)
  | [], plans => .ok plans
  | d :: rest, plans => do
    let rule ← d.toRule
    f.planAll root rest (← addToPlans f.name (f.documentOf root d) rule plans)

/-- The plans of a rule file. -/
def plans (f : RuleFile) (root : Path) : Except RuleError (List Plan) :=
  f.planAll root f.rules []

end RuleFile

end Emend

import Emend.Rule.Basic

/-!
# Rule sets

A named list of rules whose ids are pairwise different. `RuleSet.push` keeps the
order of insertion and refuses an id that the set has already; it gives the set
beside what it says of the rule.
-/

namespace Emend

/-- Rules in the order in which they are applied. -/
structure RuleSet where
  name : String := ""
  rules : List Rule := []
  deriving DecidableEq

namespace RuleSet

/-- The rule with an id. -/
def get? (set : RuleSet) (id : String) : Option Rule := set.rules.find? (·.id = id)

/-- The ids in order. -/
def ids (set : RuleSet) : List String := set.rules.map (·.id)

/-- Add a rule at the end. A set that has the id already stays as it is. -/
def push (set : RuleSet) (rule : Rule) : RuleSet × Except RuleError Unit :=
  if (set.get? rule.id).isSome then (set, .error (.duplicateId rule.id))
  else ({ set with rules := set.rules ++ [rule] }, .ok ())

/-- Add rules at the end, one after another, up to one that is refused. -/
def pushAll (set : RuleSet) : List Rule → RuleSet × Except RuleError Unit
  | [] => (set, .ok ())
  | rule :: rest =>
    match set.push rule with
    | (set, .ok ()) => set.pushAll rest
    | refused => refused

/-- The set of some rules; there is none if one of them is refused. -/
def ofRules (name : String) (rules : List Rule) : Except RuleError RuleSet :=
  let (set, pushed) := pushAll { name } rules
  pushed.map fun _ => set

end RuleSet

end Emend

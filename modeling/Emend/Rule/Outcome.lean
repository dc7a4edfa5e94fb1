/-!
# Outcomes

What became of a rule in a text, and reports that name the rule.
-/

namespace Emend

/-- What became of a rule. -/
inductive Outcome
  /-- Matches were replaced, this many. -/
  | applied (replacements : Nat)
  /-- The guard says that the edit has been made before. -/
  | alreadyApplied
  /-- There is nothing to edit. -/
  | absent
  /-- There is nothing to edit, and there should have been. -/
  | failed
  deriving DecidableEq, Repr

namespace Outcome

/-- Was something replaced? -/
def isApplied : Outcome → Bool
  | applied _ => true
  | _ => false

/-- Was the rule skipped? -/
def isSkipped : Outcome → Bool
  | alreadyApplied => true
  | absent => true
  | _ => false

/-- Was a required rule without a match? -/
def isFailed : Outcome → Bool
  | failed => true
  | _ => false

/-- The outcome in words. -/
def describe : Outcome → String
  | applied n => if n = 1 then "applied" else "applied (" ++ toString n ++ " replacements)"
  | alreadyApplied => "skipped (already applied)"
  | absent => "skipped (matcher absent)"
  | failed => "failed (required matcher absent)"

end Outcome

/-- What became of the rule with an id. -/
structure Report where
  rule : String
  outcome : Outcome
  deriving DecidableEq, Repr

end Emend

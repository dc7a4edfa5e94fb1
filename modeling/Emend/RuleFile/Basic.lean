import Emend.Rule.Basic

/-!
# Rule files

A rule file says which rules are meant for which files. Its definitions are kept
as they were written; `Definition.toRule` makes the rule that one describes.
-/

namespace Emend

/-- A matcher as it is written in a rule file. -/
inductive MatcherSpec
  | literal (text : String)
  | regex (source : String) (flags : PatternFlags)
  deriving DecidableEq, Repr

/-- A rule as it is written in a rule file. -/
structure Definition where
  id : String
  file : String
  find : MatcherSpec
  replace : String := ""
  guard : Option MatcherSpec := none
  required : Bool := false
  scope : Scope := .first
  /-- Is the replacement a template? If nothing is said, it is one for a pattern. -/
  expand : Option Bool := none
  description : Option String := none
  deriving DecidableEq, Repr

/-- A rule file: its definitions in order, and what it says about itself. -/
structure RuleFile where
  name : String := ""
  description : Option String := none
  /-- Do the definitions' files start at the workspace's root? -/
  workspaceRelative : Bool := false
  rules : List Definition := []
  deriving DecidableEq, Repr

namespace MatcherSpec

/-- The matcher, for a rule with an id. -/
def toMatcher (spec : MatcherSpec) (id : String) : Except RuleError Matcher :=
  match spec with
  | literal text => .ok (.literal text)
  | regex source flags => Rule.compileFor id source flags

/-- Does the matcher have no text at all? -/
def isEmpty : MatcherSpec → Bool
  | literal text => text.isEmpty
  | regex source _ => source.isEmpty

/-- The name of the field that holds the matcher's text. -/
def textField : MatcherSpec → String
  | literal _ => "text"
  | regex _ _ => "pattern"

end MatcherSpec

namespace Definition

/-- The replacement that goes with a matcher. -/
def replacementFor (d : Definition) (matcher : Matcher) : Replacement :=
  if d.expand.getD (!matcher.isLiteral) then .template d.replace else .literal d.replace

/-- Guard a rule as a definition says. -/
def addGuard (d : Definition) (rule : Rule) : Except RuleError Rule :=
  match d.guard with
  | some spec => do rule.withGuard (← spec.toMatcher d.id)
  | none => .ok rule

/-- The rule that a definition describes. -/
def toRule (d : Definition) : Except RuleError Rule := do
  let matcher ← d.find.toMatcher d.id
  let rule ← Rule.make d.id matcher (d.replacementFor matcher)
  let rule ← rule.withScope d.scope
  d.addGuard (rule.withRequired d.required)

end Definition

end Emend

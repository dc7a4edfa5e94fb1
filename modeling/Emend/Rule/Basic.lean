import Emend.Matcher
import Emend.Rule.Error

/-!
# Rules

A rule is one edit of a text together with the conditions under which it is
made: a matcher says where, a replacement says what, and a guard, if there is
one, says when the edit has already been made.

Rules are built step by step, and every step refuses what would make no sense:

* a matcher or guard that is the empty text;
* a guard that looks for the same expression as the matcher it guards;
* a template, or the scope `all`, for a rule that looks for a literal text.
-/

namespace Emend

/-- What is put in the place of a match. -/
inductive Replacement
  | literal (text : String)
  | template (text : String)
  deriving DecidableEq, Repr

/-- The text as it was written. -/
def Replacement.text : Replacement → String
  | literal text => text
  | template text => text

/-- Is the replacement a template? -/
def Replacement.isTemplate : Replacement → Bool
  | literal _ => false
  | template _ => true

/-- Which matches are replaced. -/
inductive Scope
  | first
  | all
  deriving DecidableEq, Repr, Inhabited

/-- One edit of a text and the conditions under which it is made. -/
structure Rule where
  id : String
  matcher : Matcher
  replacement : Replacement
  scope : Scope := .first
  guard : Option Matcher := none
  required : Bool := false
  deriving DecidableEq

namespace Rule

/-- A rule without guard that replaces the first match and is not required. -/
def make (id : String) (matcher : Matcher) (replacement : Replacement) :
    Except RuleError Rule :=
  if matcher.isEmptyLiteral then .error (.emptyMatcher id .matcher)
  else if matcher.isLiteral && replacement.isTemplate then
    .error (.conflict id .templateForLiteral)
  else .ok { id, matcher, replacement }

/-- A rule that replaces one text by another. -/
def ofLiteral (id find replace : String) : Except RuleError Rule :=
  make id (.literal find) (.literal replace)

/-- The matcher of a source, for a rule with an id. -/
def compileFor (id source : String) (flags : PatternFlags) : Except RuleError Matcher :=
  (Matcher.ofSource source flags).mapError (.malformedPattern id source)

/-- A rule that replaces a match of a pattern. -/
def ofPattern (id source : String) (flags : PatternFlags) (replacement : Replacement) :
    Except RuleError Rule := do
  make id (← compileFor id source flags) replacement

/-- Guard a rule. -/
def withGuard (rule : Rule) (guard : Matcher) : Except RuleError Rule :=
  if guard.isEmptyLiteral then .error (.emptyMatcher rule.id .guard)
  else if guard.sameExpression rule.matcher then .error (.guardEqualsMatcher rule.id)
  else .ok { rule with guard := some guard }

/-- Guard a rule by a literal text. -/
def withGuardLiteral (rule : Rule) (text : String) : Except RuleError Rule :=
  rule.withGuard (.literal text)

/-- Guard a rule by a pattern. -/
def withGuardPattern (rule : Rule) (source : String) (flags : PatternFlags) :
    Except RuleError Rule := do
  rule.withGuard (← compileFor rule.id source flags)

/-- Choose which matches are replaced. -/
def withScope (rule : Rule) (scope : Scope) : Except RuleError Rule :=
  if scope = .all ∧ rule.matcher.isLiteral then .error (.conflict rule.id .allForLiteral)
  else .ok { rule with scope }

/-- Choose whether the matcher has to match. -/
def withRequired (rule : Rule) (required : Bool) : Rule := { rule with required }

end Rule

end Emend

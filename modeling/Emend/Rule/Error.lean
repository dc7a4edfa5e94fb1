import Emend.Regex.Error
import Emend.Text.Quoted

/-!
# Why a rule is refused

The causes for which a rule, or a set of rules, cannot be built. The wording is
in `RuleError.messageWith`, which leaves it to its caller how a malformed
pattern is explained; `RuleError.message` explains it in full.
-/

namespace Emend

/-- The two places of a rule where a matcher stands. -/
inductive MatcherRole
  | matcher
  | guard
  deriving DecidableEq, Repr

/-- Parts of a rule that do not go together. -/
inductive Conflict
  /-- A template needs the groups of a pattern. -/
  | templateForLiteral
  /-- Only a pattern can replace every match. -/
  | allForLiteral
  deriving DecidableEq, Repr

/-- The causes for which a rule or a set of rules is refused. -/
inductive RuleError
  | emptyMatcher (rule : String) (role : MatcherRole)
  | malformedPattern (rule source : String) (cause : RegexError)
  | guardEqualsMatcher (rule : String)
  | conflict (rule : String) (parts : Conflict)
  | duplicateId (id : String)
  deriving DecidableEq, Repr

/-- The word for a matcher's role. -/
def MatcherRole.word : MatcherRole → String
  | matcher => "matcher"
  | guard => "guard"

/-- What is wrong about two parts of a rule. -/
def Conflict.message : Conflict → String
  | templateForLiteral => "template replacements require a pattern matcher"
  | allForLiteral => "literal rules always replace the first occurrence"

namespace RuleError

/-- The message of an error; `explain` words the cause of a malformed pattern. -/
def messageWith (explain : RegexError → String) : RuleError → String
  | emptyMatcher rule role => "rule '" ++ rule ++ "': " ++ role.word ++ " must not be empty"
  | malformedPattern rule source cause =>
    "rule '" ++ rule ++ "': malformed pattern " ++ Text.quoted source ++ ": " ++ explain cause
  | guardEqualsMatcher rule =>
    "rule '" ++ rule ++ "': guard must differ from the matcher it guards"
  | conflict rule parts => "rule '" ++ rule ++ "': " ++ parts.message
  | duplicateId id => "duplicate rule id '" ++ id ++ "'"

/-- The message of an error. -/
def message : RuleError → String := messageWith RegexError.message

end RuleError

end Emend

import Emend.Pattern
import Emend.Text.Cut
import Emend.Text.Quoted

/-!
# Matchers

A matcher looks for a literal text or for a pattern. `Matcher.find?` gives the
first match; a literal has one group, the text itself.
-/

namespace Emend

/-- What to look for in a text. -/
inductive Matcher
  | literal (text : String)
  | pattern (p : Pattern)
  deriving DecidableEq

namespace Matcher

/-- The matcher of a pattern's source, unless the source is malformed. -/
def ofSource (source : String) (flags : PatternFlags) : Except RegexError Matcher :=
  (Pattern.ofSource source flags).map pattern

/-- The first match in a text. -/
def find? (matcher : Matcher) (content : String) : Option Match :=
  match matcher with
  | literal text =>
    (Text.cut? text.toList content.toList).map fun (before, _) =>
      { start := before.length, stop := before.length + text.toList.length,
        groups := [some text] }
  | pattern p => p.find? content

/-- Does the matcher match somewhere? -/
def isMatch (matcher : Matcher) (content : String) : Bool :=
  match matcher with
  | literal text => Text.occurs text.toList content.toList
  | pattern p => p.isMatch content

/-- Does the matcher look for a literal text? -/
def isLiteral : Matcher → Bool
  | literal _ => true
  | pattern _ => false

/-- The empty literal, which would match everywhere. -/
def isEmptyLiteral : Matcher → Bool
  | literal text => text.isEmpty
  | pattern _ => false

/--
Do two matchers look for the same expression? A literal and a pattern do if the
pattern has no flags and the literal as its source.
-/
def sameExpression : Matcher → Matcher → Bool
  | literal text, pattern p => p.flags = {} && p.source = text
  | pattern p, literal text => p.flags = {} && p.source = text
  | a, b => a = b

/-- The matcher as a reader is shown it. -/
def describe : Matcher → String
  | literal text => "literal " ++ Text.quoted text
  | pattern p => "pattern /" ++ p.source ++ "/"

end Matcher

end Emend

/-!
# Why a pattern is refused

One constructor for each cause. `RegexError.message` is the only place that
words them.
-/

namespace Emend

/-- The causes for which the source of a pattern is refused. -/
inductive RegexError
  | unclosedClass
  | invalidClassRange
  | classEscape
  | unfinishedEscape
  | unknownEscape (c : Char)
  | invalidHexadecimal
  | backreference
  | emptyCount
  | countTooLarge
  | unclosedCount
  | countsOutOfOrder
  | missingOperand
  | unclosedBoundary
  | unknownBoundary
  | unclosedGroup
  | unopenedGroup
  | lookAround
  | invalidGroupName
  | duplicateGroupName (name : String)
  | unknownFlag (c : Char)
  | repeatedFlag
  | danglingNegation
  | unfinishedFlags
  | nestedTooDeeply
  | unknownProperty
  | propertyNeedsUnicode
  | characterNeedsUnicode
  | matchesInvalidText
  | tooLarge
  deriving DecidableEq, Repr

namespace RegexError

/-- What a cause means to the author of the pattern. -/
def cause : RegexError → String
  | unclosedClass => "unclosed character class"
  | invalidClassRange => "invalid character class range"
  | classEscape => "escape that is no member of a character class"
  | unfinishedEscape => "incomplete escape, reached the end of the pattern"
  | unknownEscape c => "unrecognized escape '" ++ c.toString ++ "'"
  | invalidHexadecimal => "invalid hexadecimal code point"
  | backreference => "backreferences are not supported"
  | emptyCount => "repetition without a count"
  | countTooLarge => "repetition count is too large"
  | unclosedCount => "unclosed counted repetition"
  | countsOutOfOrder => "repetition counts are out of order"
  | missingOperand => "repetition without an operand"
  | unclosedBoundary => "unclosed word boundary"
  | unknownBoundary => "unrecognized word boundary"
  | unclosedGroup => "unclosed group"
  | unopenedGroup => "unopened group"
  | lookAround => "look-around is not supported"
  | invalidGroupName => "invalid group name"
  | duplicateGroupName name => "duplicate group name '" ++ name ++ "'"
  | unknownFlag c => "unrecognized flag '" ++ c.toString ++ "'"
  | repeatedFlag => "repeated flag"
  | danglingNegation => "flag negation without a flag"
  | unfinishedFlags => "unfinished flags"
  | nestedTooDeeply => "the pattern is nested too deeply"
  | unknownProperty => "unknown character property"
  | propertyNeedsUnicode => "character properties need Unicode to be on"
  | characterNeedsUnicode => "a character outside ASCII in a class needs Unicode to be on"
  | matchesInvalidText => "the pattern can match invalid UTF-8"
  | tooLarge => "Compiled regex exceeds size limit of 10485760 bytes."

/-- The line that is printed for a refused pattern. -/
def message : RegexError → String
  | tooLarge => tooLarge.cause
  | e => "regex parse error: " ++ e.cause

end RegexError

end Emend

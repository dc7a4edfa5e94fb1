import Emend.Regex.Flags
import Emend.Unicode.Query

/-!
# Patterns as they are written

`Surface` is the tree of a pattern's source: groups, flags in the middle of a
group, bracketed classes with their set operations. Nothing is resolved here, so
that what a class or an assertion means can depend on the flags around it.

* `Surface.depth` counts nesting the way the limit on it is stated: groups,
  repetitions, brackets, set operations, and lists of two or more items each
  add one.
-/

namespace Emend.Regex

open Unicode (Query CharSet)

/-- A character of a pattern, and whether it was written as two hexadecimal digits. -/
structure Literal where
  char : Char
  isByte : Bool := false
  deriving DecidableEq, Repr

/-- The classes that brackets know by name. -/
inductive Posix
  | alnum | alpha | ascii | blank | cntrl | digit | graph
  | lower | print | punct | space | upper | word | xdigit
  deriving DecidableEq, Repr

namespace Posix

/-- The name of a class. -/
def ofName? : String → Option Posix
  | "alnum" => some alnum
  | "alpha" => some alpha
  | "ascii" => some ascii
  | "blank" => some blank
  | "cntrl" => some cntrl
  | "digit" => some digit
  | "graph" => some graph
  | "lower" => some lower
  | "print" => some print
  | "punct" => some punct
  | "space" => some space
  | "upper" => some upper
  | "word" => some word
  | "xdigit" => some xdigit
  | _ => none

/-- The ASCII characters of a class. -/
def set : Posix → CharSet
  | alnum => .ofText "30-39 41-5A 61-7A"
  | alpha => .ofText "41-5A 61-7A"
  | ascii => .ofText "0-7F"
  | blank => .ofText "9 20"
  | cntrl => .ofText "0-1F 7F"
  | digit => .ofText "30-39"
  | graph => .ofText "21-7E"
  | lower => .ofText "61-7A"
  | print => .ofText "20-7E"
  | punct => .ofText "21-2F 3A-40 5B-60 7B-7E"
  | space => .ofText "9-D 20"
  | upper => .ofText "41-5A"
  | word => .ofText "30-39 41-5A 5F 61-7A"
  | xdigit => .ofText "30-39 41-46 61-66"

end Posix

/-- The classes with a one-letter escape. -/
inductive Shorthand
  | digit | space | word
  deriving DecidableEq, Repr

/-- What two operands of a bracketed class are combined by. -/
inductive SetOp
  | inter | diff | symmDiff
  deriving DecidableEq, Repr

/-- The contents of a bracketed class. -/
inductive ClassSet
  | empty
  | literal (l : Literal)
  | range (lo hi : Literal)
  | posix (kind : Posix) (negated : Bool)
  | property (query : Query) (negated : Bool)
  | shorthand (kind : Shorthand) (negated : Bool)
  | bracketed (negated : Bool) (set : ClassSet)
  | union (items : List ClassSet)
  | op (kind : SetOp) (lhs rhs : ClassSet)

/-- Items in a row; one alone is itself. -/
def ClassSet.ofItems : List ClassSet → ClassSet
  | [] => .empty
  | [item] => item
  | items => .union items

/-- The places that a word boundary can ask for. -/
inductive Boundary
  | word | notWord | start | stop | startHalf | stopHalf
  deriving DecidableEq, Repr

/-- Assertions as they are written. -/
inductive Assertion
  | lineStart | lineEnd | textStart | textEnd
  | boundary (kind : Boundary)
  deriving DecidableEq, Repr

/-- What a pair of parentheses does: capture, or change flags inside. -/
inductive GroupKind
  | capture (index : Nat)
  | plain (change : FlagChange)
  deriving DecidableEq, Repr

/-- A pattern as it is written. -/
inductive Surface
  | empty
  | flags (change : FlagChange)
  | literal (l : Literal)
  | dot
  | assertion (a : Assertion)
  | property (query : Query) (negated : Bool)
  | shorthand (kind : Shorthand) (negated : Bool)
  | bracketed (negated : Bool) (set : ClassSet)
  | repeated (sub : Surface) (min : Nat) (max : Option Nat) (greedy : Bool)
  | group (kind : GroupKind) (sub : Surface)
  | seq (items : List Surface)
  | alt (branches : List Surface)

namespace Surface

/-- Items in a row; one alone is itself. -/
def ofItems : List Surface → Surface
  | [] => .empty
  | [item] => item
  | items => .seq items

/-- Alternatives; one alone is itself. -/
def ofBranches : List Surface → Surface
  | [] => .empty
  | [branch] => branch
  | branches => .alt branches

end Surface

mutual

/-- How deeply the contents of a class are nested. -/
def ClassSet.depth : ClassSet → Nat
  | .bracketed _ set => set.depth + 1
  | .union items => depths items + 1
  | .op _ lhs rhs => max lhs.depth rhs.depth + 1
  | _ => 0

/-- The depth of the deepest of some items. -/
def ClassSet.depths : List ClassSet → Nat
  | [] => 0
  | item :: rest => max item.depth (depths rest)

end

mutual

/-- How deeply a pattern is nested. -/
def Surface.depth : Surface → Nat
  | .bracketed _ set => set.depth + 1
  | .repeated sub _ _ _ => sub.depth + 1
  | .group _ sub => sub.depth + 1
  | .seq items => depths items + 1
  | .alt branches => depths branches + 1
  | _ => 0

/-- The depth of the deepest of some patterns. -/
def Surface.depths : List Surface → Nat
  | [] => 0
  | item :: rest => max item.depth (depths rest)

end

end Emend.Regex

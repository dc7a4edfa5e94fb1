import Emend.Regex.Surface

/-!
# Patterns with everything resolved

In an `Expr` every class is a set of characters and every assertion a question
about the two neighbours of a place, so flags are gone.

* `Look.holds` says what an assertion asks of the characters before and after.
* `Expr.mkRepeat` builds a repetition: one of an expression that matches the
  empty text only is never tried more than once, and one that is allowed no time
  at all is the empty expression.
-/

namespace Emend.Regex

open Unicode (CharSet)

/-- What is asserted about a place between two characters. -/
inductive Look
  | textStart | textEnd
  | lineStart | lineEnd
  | crlfStart | crlfEnd
  | boundary (kind : Boundary) (unicode : Bool)
  deriving DecidableEq, Repr

/-- The word characters of ASCII. -/
def asciiWord : CharSet := Posix.word.set

/-- The word characters of Unicode. -/
def unicodeWord : CharSet := Unicode.Property.word

/-- Is there a word character on this side? -/
def isWord (unicode : Bool) (c? : Option Char) : Bool :=
  c?.any (if unicode then unicodeWord else asciiWord).contains

/-- Does a boundary stand between a side that is a word (or not) and one that is (or not)? -/
def Boundary.holds : Boundary → (before after : Bool) → Bool
  | .word, before, after => before != after
  | .notWord, before, after => before == after
  | .start, before, after => !before && after
  | .stop, before, after => before && !after
  | .startHalf, before, _ => !before
  | .stopHalf, _, after => !after

/-- Does the assertion hold between these neighbours? None is an end of the text. -/
def Look.holds : Look → (before after : Option Char) → Bool
  | .textStart, before, _ => before.isNone
  | .textEnd, _, after => after.isNone
  | .lineStart, before, _ => before.all (· = '\n')
  | .lineEnd, _, after => after.all (· = '\n')
  | .crlfStart, before, after =>
    before.all fun c => c = '\n' || (c = '\r' && after ≠ some '\n')
  | .crlfEnd, before, after =>
    after.all fun c => c = '\r' || (c = '\n' && before ≠ some '\r')
  | .boundary kind unicode, before, after =>
    kind.holds (isWord unicode before) (isWord unicode after)

/-- A pattern with its classes, assertions and groups resolved. -/
inductive Expr
  | empty
  | char (set : CharSet)
  | look (l : Look)
  | seq (first second : Expr)
  | alt (first second : Expr)
  | repeated (sub : Expr) (min : Nat) (max : Option Nat) (greedy : Bool)
  | group (index : Nat) (sub : Expr)

namespace Expr

/-- Does the expression match the empty text and no other? -/
def isEmptyOnly : Expr → Bool
  | empty => true
  | char _ => false
  | look _ => true
  | seq a b => a.isEmptyOnly && b.isEmptyOnly
  | alt a b => a.isEmptyOnly && b.isEmptyOnly
  | repeated sub _ _ _ => sub.isEmptyOnly
  | group _ sub => sub.isEmptyOnly

/-- A repetition without needless rounds. -/
def mkRepeat (sub : Expr) (lo : Nat) (hi : Option Nat) (greedy : Bool) : Expr :=
  let (lo, hi) := if sub.isEmptyOnly then (min lo 1, some (min (hi.getD 1) 1)) else (lo, hi)
  if hi = some 0 then empty
  else if lo = 1 ∧ hi = some 1 then sub
  else repeated sub lo hi greedy

/-- Expressions in a row. -/
def seqs : List Expr → Expr
  | [] => empty
  | [e] => e
  | e :: es => seq e (seqs es)

/-- Alternatives, the earlier ones preferred. -/
def alts : List Expr → Expr
  | [] => empty
  | [e] => e
  | e :: es => alt e (alts es)

/-- The number of capture groups that are left, counted by the largest index. -/
def groupCount : Expr → Nat
  | empty => 0
  | char _ => 0
  | look _ => 0
  | seq a b => max a.groupCount b.groupCount
  | alt a b => max a.groupCount b.groupCount
  | repeated sub _ _ _ => sub.groupCount
  | group index sub => max index sub.groupCount

end Expr

end Emend.Regex

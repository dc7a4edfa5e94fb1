/-!
# Sets of characters as sorted ranges

A `CharSet` is a list of closed ranges of code points. Every operation below
gives back a list in *normal form*: the ranges increase, they do not touch, and
so two sets with the same members have the same ranges.

* `CharSet.contains` is the view: everything else is meant to be read through it.
* `union`, `compl`, `inter`, `diff` and `symmDiff` are the set algebra that
  bracketed classes and derived properties need.
* `ofText` reads the tables, which are written as ranges of hexadecimal code
  points such as `41-5A 61-7A AA`.
-/

namespace Emend.Unicode

/-- A set of code points, as closed ranges. -/
structure CharSet where
  ranges : List (Nat × Nat)
  deriving DecidableEq, Repr, Inhabited

namespace CharSet

/-- The largest code point. -/
def maxPoint : Nat := 0x10FFFF

/-- Membership in a sorted list of ranges; the search stops at the first range beyond the point. -/
def memRanges : List (Nat × Nat) → Nat → Bool
  | [], _ => false
  | (lo, hi) :: rest, n => if n < lo then false else n ≤ hi || memRanges rest n

/-- Is the code point in the set? -/
def containsPoint (s : CharSet) (n : Nat) : Bool := memRanges s.ranges n

/-- Is the character in the set? -/
def contains (s : CharSet) (c : Char) : Bool := s.containsPoint c.toNat

/-- The set without members. -/
def empty : CharSet := ⟨[]⟩

/-- The closed range from `lo` to `hi`. -/
def range (lo hi : Nat) : CharSet := if lo ≤ hi then ⟨[(lo, hi)]⟩ else empty

/-- The set of one character. -/
def singleton (c : Char) : CharSet := ⟨[(c.toNat, c.toNat)]⟩

/-- Every code point. -/
def univ : CharSet := range 0 maxPoint

/-- Join the range from `lo` to `hi` with those after it that overlap or touch it, and so on. -/
def coalesceFrom : (lo hi : Nat) → List (Nat × Nat) → List (Nat × Nat)
  | lo, hi, [] => [(lo, hi)]
  | lo, hi, (lo', hi') :: rest =>
    if lo' ≤ hi + 1 then coalesceFrom lo (max hi hi') rest
    else (lo, hi) :: coalesceFrom lo' hi' rest

/-- Join ranges that overlap or touch, in a list that is sorted by lower end. -/
def coalesce : List (Nat × Nat) → List (Nat × Nat)
  | [] => []
  | (lo, hi) :: rest => coalesceFrom lo hi rest

/--
Merge two lists that are sorted by lower end. The fuel is the length of both
together, which every step lowers by one.
-/
def mergeRanges : (fuel : Nat) → List (Nat × Nat) → List (Nat × Nat) → List (Nat × Nat)
  | _, [], bs => bs
  | _, as, [] => as
  | 0, as, bs => as ++ bs
  | fuel + 1, a :: as, b :: bs =>
    if a.1 ≤ b.1 then a :: mergeRanges fuel as (b :: bs) else b :: mergeRanges fuel (a :: as) bs

/-- The members of either set. -/
def union (a b : CharSet) : CharSet :=
  ⟨coalesce (mergeRanges (a.ranges.length + b.ranges.length) a.ranges b.ranges)⟩

/-- The members of any set of the list. -/
def unions (sets : List CharSet) : CharSet := sets.foldl union empty

/-- Put a range before the first one that does not start before it. -/
def insertRange (r : Nat × Nat) : List (Nat × Nat) → List (Nat × Nat)
  | [] => [r]
  | s :: rest => if r.1 ≤ s.1 then r :: s :: rest else s :: insertRange r rest

/-- The set of some characters, given in any order. -/
def ofPoints (ns : List Nat) : CharSet :=
  ⟨coalesce (ns.foldr (fun n rs => insertRange (n, n) rs) [])⟩

/-- The gaps of a sorted list of ranges between `start` and `top`. -/
def gaps (top : Nat) : Nat → List (Nat × Nat) → List (Nat × Nat)
  | start, [] => if start ≤ top then [(start, top)] else []
  | start, (lo, hi) :: rest =>
    if start < lo then (start, lo - 1) :: gaps top (hi + 1) rest else gaps top (hi + 1) rest

/-- The points up to `top` that are not members. -/
def complUpTo (top : Nat) (s : CharSet) : CharSet := ⟨gaps top 0 s.ranges⟩

/-- The points that are not members. -/
def compl (s : CharSet) : CharSet := s.complUpTo maxPoint

/-- The members of both sets. -/
def inter (a b : CharSet) : CharSet := (a.compl.union b.compl).compl

/-- The members of the first set that are not in the second. -/
def diff (a b : CharSet) : CharSet := a.inter b.compl

/-- The members of exactly one of the sets. -/
def symmDiff (a b : CharSet) : CharSet := (a.diff b).union (b.diff a)

/-- Are all members at most `top`? -/
def isUpTo (top : Nat) (s : CharSet) : Bool := s.ranges.all fun r => r.2 ≤ top

/-! ## Reading tables -/

/-- The value of a hexadecimal digit. -/
def hexDigit? (c : Char) : Option Nat :=
  if '0' ≤ c ∧ c ≤ '9' then some (c.toNat - 48)
  else if 'A' ≤ c ∧ c ≤ 'F' then some (c.toNat - 55)
  else if 'a' ≤ c ∧ c ≤ 'f' then some (c.toNat - 87)
  else none

/--
Reads ranges off a table. `lo` is the lower end once a dash was seen, `n` the
number under way and `seen` whether a digit of it has been seen.
-/
def readRanges : List Char → (lo : Option Nat) → (n : Nat) → (seen : Bool) → List (Nat × Nat)
  | [], lo, n, seen => if seen then [(lo.getD n, n)] else []
  | c :: cs, lo, n, seen =>
    match hexDigit? c with
    | some d => readRanges cs lo (16 * n + d) true
    | none =>
      if c = '-' then readRanges cs (some n) 0 false
      else if seen then (lo.getD n, n) :: readRanges cs none 0 false
      else readRanges cs none 0 false

/-- The set that a table of hexadecimal ranges lists in increasing order. -/
def ofText (table : String) : CharSet := ⟨readRanges table.toList none 0 false⟩

example : (ofText "41-5A AA").ranges = [(0x41, 0x5A), (0xAA, 0xAA)] := by decide
example : (ofText "41-5A 61-7A").compl.ranges = [(0, 0x40), (0x5B, 0x60), (0x7B, maxPoint)] := by
  decide
example : ((range 97 122).symmDiff (range 110 130)).ranges = [(97, 109), (123, 130)] := by decide

end CharSet

end Emend.Unicode

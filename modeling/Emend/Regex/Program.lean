import Emend.Regex.Expr

/-!
# Programs

A program is a list of instructions that name their successors. Where two
successors exist the first is preferred, which is how greed and the order of
alternatives are kept.

* `Program.ofExpr` lays out an expression back to front: `emit e next code`
  appends the instructions of `e` and gives the place where it is entered, `next`
  being the place to go on.
* A repetition that may be empty is laid out as an optional loop that tries its
  body once before it may leave, so that an empty round ends the loop and keeps
  what the round captured.
-/

namespace Emend.Regex

open Unicode (CharSet)

/-- One instruction; `next` is the index of its successor. -/
inductive Inst
  /-- Take a character of the set. -/
  | char (set : CharSet) (next : Nat)
  /-- Go on if the assertion holds here. -/
  | look (l : Look) (next : Nat)
  /-- Note the place in a slot. -/
  | save (slot : Nat) (next : Nat)
  /-- Try the first successor, then the second. -/
  | split (first second : Nat)
  /-- The pattern has matched. -/
  | accept
  deriving DecidableEq, Repr

/-- A program: where it is entered, and how many slots its captures need. -/
structure Program where
  code : Array Inst
  entry : Nat
  slots : Nat
  deriving DecidableEq, Repr

/-- Apply a function `n` times. -/
def iterate {α : Type} (f : α → α) : Nat → α → α
  | 0, x => x
  | n + 1, x => iterate f n (f x)

/-- Offer the body before the exit if greedy, after it if not. -/
def branch (greedy : Bool) (body exit : Nat) : Inst :=
  if greedy then .split body exit else .split exit body

/-- Append the instructions of an expression that goes on at `next`. -/
def emit : Expr → (next : Nat) → Array Inst → Nat × Array Inst
  | .empty, next, code => (next, code)
  | .char set, next, code => (code.size, code.push (.char set next))
  | .look l, next, code => (code.size, code.push (.look l next))
  | .seq a b, next, code =>
    let (entry, code) := emit b next code
    emit a entry code
  | .alt a b, next, code =>
    let (first, code) := emit a next code
    let (second, code) := emit b next code
    (code.size, code.push (.split first second))
  | .group index sub, next, code =>
    let (entry, code) := emit sub code.size (code.push (.save (2 * index + 1) next))
    (code.size, code.push (.save (2 * index) entry))
  | .repeated sub lo none greedy, next, code =>
    -- the place of the loop is taken before its body is known, and filled in afterwards
    let again := code.size
    let (body, code) := emit sub again (code.push .accept)
    let code := code.setIfInBounds again (branch greedy body next)
    if lo = 0 then (code.size, code.push (branch greedy body next))
    else iterate (fun (entry, code) => emit sub entry code) (lo - 1) (body, code)
  | .repeated sub lo (some hi) greedy, next, code =>
    let optional := iterate (fun (entry, code) =>
      let (body, code) := emit sub entry code
      (code.size, code.push (branch greedy body next))) (hi - lo) (next, code)
    iterate (fun (entry, code) => emit sub entry code) lo optional

/-- The program of an expression. -/
def Program.ofExpr (e : Expr) : Program :=
  let (entry, code) := emit e 0 #[.accept]
  { code, entry, slots := 2 * (e.groupCount + 1) }

end Emend.Regex

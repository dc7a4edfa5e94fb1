/-!
# A point on a shortest path

Comparing two lists is walking through a grid: to the right over an item that is
deleted, down over one that is inserted, and diagonally for free over one that
both lists share. Two searches, one from each corner, widen round by round; in
round `d` they know the furthest point on each diagonal `d, d - 2, …, -d` that
takes `d` steps with a cost. Where they first meet, a shortest path passes.

The backward search is the forward search over the two lists in reverse.
-/

namespace Emend.Diff

variable {α : Type} [DecidableEq α]

/-- How many items two lists share from a point on. -/
def sharedFrom (old new : Array α) (x y : Nat) : Nat :=
  if hx : x < old.size then
    if hy : y < new.size then
      if old[x] = new[y] then sharedFrom old new (x + 1) (y + 1) + 1 else 0
    else 0
  else 0
termination_by old.size - x

/-- What a search knows after a round: the furthest `x` on each diagonal, the highest first. -/
abbrev Front := Array Nat

/-- The furthest `x` on a diagonal after a round. -/
def Front.on? (front : Front) (round : Nat) (diagonal : Int) : Option Nat :=
  if -(round : Int) ≤ diagonal ∧ diagonal ≤ round then
    front[((round - diagonal) / 2).toNat]?
  else none

/--
The `x` that one more step with a cost reaches on each diagonal after the first;
`right` is what the search knows of the diagonal above.
-/
def stepBelow (right : Nat) : List Nat → List Nat
  | [] => [right]
  | left :: rest => (if left < right then right else left + 1) :: stepBelow left rest

/-- The `x` that one more step with a cost reaches on each diagonal. -/
def step : List Nat → List Nat
  | [] => [0]
  | x :: rest => (x + 1) :: stepBelow x rest

/-- The `y` on a diagonal of a round, for an `x`; diagonals are counted from the highest. -/
def height (round index x : Nat) : Nat := x + 2 * index - round

/-- Walk on for free from some points. -/
def follow (old new : Array α) (round : Nat) (starts : List Nat) : Front :=
  (starts.zipIdx.map fun (x, i) => x + sharedFrom old new x (height round i x)).toArray

/-- The diagonal at an index. -/
def diagonalAt (round index : Nat) : Int := (round : Int) - 2 * index

/--
The first diagonal on which a front has come as far as the other search's front,
which is that of the round `otherRound`.
-/
def meeting (length : Nat) (delta : Int) (round : Nat) (front : Front) (otherRound : Nat)
    (other : Front) : Option Nat :=
  (List.range front.size).find? fun i =>
    match front[i]?, other.on? otherRound (delta - diagonalAt round i) with
    | some x, some x' => length ≤ x + x'
    | _, _ => false

/-- The two lists, and the same in reverse. -/
structure Grid (α : Type) where
  old : Array α
  new : Array α
  oldBack : Array α
  newBack : Array α

/-- The grid of two lists. -/
def Grid.of (old new : List α) : Grid α :=
  ⟨old.toArray, new.toArray, old.reverse.toArray, new.reverse.toArray⟩

/-- The diagonal of the grid's far corner. -/
def Grid.delta (g : Grid α) : Int := (g.old.size : Int) - g.new.size

/--
Search for the meeting point, for some rounds more. If the far corner lies on an
odd diagonal the forward search is the one to notice that the two have met, and
it gives the point where its last free walk began; otherwise it is the backward
search, and it gives the point where its last free walk has ended.
-/
def meetingPoint (g : Grid α) : (rounds round : Nat) → (ahead back : Front) → Option (Nat × Nat)
  | 0, _, _, _ => none
  | rounds + 1, round, ahead, back =>
    let length := g.old.size
    let odd := g.delta % 2 ≠ 0
    let starts := step ahead.toList
    let ahead := follow g.old g.new round starts
    -- the backward search is still at the round before
    let met := if odd then meeting length g.delta round ahead (round - 1) back else none
    match met with
    | some i =>
      let x := (starts[i]?).getD 0
      some (x, height round i x)
    | none =>
      let back := follow g.oldBack g.newBack round (step back.toList)
      let met := if odd then none else meeting length g.delta round back round ahead
      match met with
      | some i =>
        -- counted from the far corner
        let x := (back[i]?).getD 0
        some (length - x, g.new.size - height round i x)
      | none => meetingPoint g rounds (round + 1) ahead back

/-- A point on a shortest path between two lists. -/
def midpoint? (old new : List α) : Option (Nat × Nat) :=
  meetingPoint (Grid.of old new) ((old.length + new.length + 1) / 2 + 1) 0 #[] #[]

end Emend.Diff

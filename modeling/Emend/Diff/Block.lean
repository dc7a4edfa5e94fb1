import Emend.Diff.Settle

/-!
# Blocks and hunks

A script is shown as blocks: stretches that stay the same, and between them
changes that take some items away and put others in their place. A hunk is a run
of changes with a little of what surrounds them.
-/

namespace Emend.Diff

variable {α : Type}

/-- A part of a script as it is shown. -/
inductive Block (α : Type)
  | same (oldStart newStart : Nat) (items : List α)
  | change (oldStart newStart : Nat) (removed added : List α)
  deriving DecidableEq, Repr

namespace Block

/-- Where the block starts in the old list. -/
def oldStart : Block α → Nat
  | same o _ _ => o
  | change o _ _ _ => o

/-- Where the block starts in the new list. -/
def newStart : Block α → Nat
  | same _ n _ => n
  | change _ n _ _ => n

/-- Where the block stops in the old list. -/
def oldStop : Block α → Nat
  | same o _ items => o + items.length
  | change o _ removed _ => o + removed.length

/-- Where the block stops in the new list. -/
def newStop : Block α → Nat
  | same _ n items => n + items.length
  | change _ n _ added => n + added.length

/-- Does the block stay the same? -/
def isSame : Block α → Bool
  | same .. => true
  | change .. => false

/-- The last items only, of a block that stays the same. -/
def keepLast (n : Nat) : Block α → Block α
  | same o s items =>
    let skipped := items.length - n
    same (o + skipped) (s + skipped) (items.drop skipped)
  | block => block

/-- The first items only, of a block that stays the same. -/
def keepFirst (n : Nat) : Block α → Block α
  | same o s items => same o s (items.take n)
  | block => block

end Block

/--
An edit in front of some blocks. A change stands where its first deletion was
found in the old list and its first insertion in the new one; without one of the
two the other says both.
-/
def Edit.addTo (e : Edit α) : List (Block α) → List (Block α)
  | .same o n items :: rest =>
    match e.kind with
    | .keep => .same e.oldPlace e.newPlace (e.items ++ items) :: rest
    | .delete => .change e.oldPlace e.newPlace e.items [] :: .same o n items :: rest
    | .insert => .change e.oldPlace e.newPlace [] e.items :: .same o n items :: rest
  | .change o n removed added :: rest =>
    match e.kind with
    | .keep => .same e.oldPlace e.newPlace e.items :: .change o n removed added :: rest
    | .delete =>
      .change e.oldPlace (if added.isEmpty then e.newPlace else n) (e.items ++ removed) added
        :: rest
    | .insert =>
      .change (if removed.isEmpty then e.oldPlace else o) e.newPlace removed (e.items ++ added)
        :: rest
  | [] =>
    match e.kind with
    | .keep => [.same e.oldPlace e.newPlace e.items]
    | .delete => [.change e.oldPlace e.newPlace e.items []]
    | .insert => [.change e.oldPlace e.newPlace [] e.items]

/-- The blocks of a script. -/
def blocks (s : Script α) : List (Block α) := s.foldr Edit.addTo []

/-! ## Hunks -/

/-- How many items of context stand around a change. -/
def radius : Nat := 3

/-- Only the context is left of what stays the same before the first and after the last change. -/
def trimEnds (bs : List (Block α)) : List (Block α) :=
  let front := match bs with
    | b :: rest => b.keepLast radius :: rest
    | [] => []
  match front.reverse with
  | b :: rest => (b.keepFirst radius :: rest).reverse
  | [] => []

/-- Put a block at the front of the first hunk. -/
def consHunk (b : Block α) : List (List (Block α)) → List (List (Block α))
  | [] => [[b]]
  | hunk :: rest => (b :: hunk) :: rest

/-- Split blocks where more stays the same than two changes need for their context. -/
def splitHunks : List (Block α) → List (List (Block α))
  | [] => [[]]
  | .same o n items :: rest =>
    if 2 * radius < items.length then
      let b := Block.same o n items
      [b.keepFirst radius] :: consHunk (b.keepLast radius) (splitHunks rest)
    else consHunk (.same o n items) (splitHunks rest)
  | b :: rest => consHunk b (splitHunks rest)

/-- The hunks of some blocks; what has no change is none. -/
def hunks (bs : List (Block α)) : List (List (Block α)) :=
  (splitHunks (trimEnds bs)).filter (·.any (!·.isSame))

end Emend.Diff

import Emend.Diff.Between

/-!
# Settling a script

One change can often be written in several places: where a repeated line was
inserted is a matter of taste. Settling moves every insertion first up and then
down as far as it goes, so that changes meet and join. Deletions only join the
changes beside them.

* `shiftUp` and `shiftDown` move one edit, in a script that is held open at it: the
  edits before it with the nearest first, the edit itself, and the edits after it.
* `settle` moves all of them.
-/

namespace Emend.Diff

variable {α : Type}

/-- A script that is held open at an edit. -/
structure Opened (α : Type) where
  before : Script α
  here : Edit α
  after : Script α

/-- The whole script. -/
def Opened.toScript (o : Opened α) : Script α := o.before.reverse ++ o.here :: o.after

/-- A bound for the work on some edits. -/
def weight : Script α → Nat
  | [] => 0
  | e :: s => e.items.length + 1 + weight s

theorem weight_cons (e : Edit α) (s : Script α) :
    weight (e :: s) = e.items.length + 1 + weight s := rfl

/-! ## Parts of edits -/

/-- The edit without its last items. -/
def Edit.dropLast (e : Edit α) (n : Nat) : Edit α :=
  { e with items := e.items.take (e.items.length - n) }

/-- The last items of an edit. -/
def Edit.last (e : Edit α) (n : Nat) : List α := e.items.drop (e.items.length - n)

/-- The edit without its first items, which starts further on. -/
def Edit.dropFirst (e : Edit α) (n : Nat) : Edit α :=
  { e with items := e.items.drop n, oldPlace := e.oldPlace + n, newPlace := e.newPlace + n }

/-- An insertion that has moved up past some kept items. -/
def Edit.movedUp (e : Edit α) (kept : List α) : Edit α :=
  { e with
    items := kept ++ e.items.take (e.items.length - kept.length)
    oldPlace := e.oldPlace - kept.length
    newPlace := e.newPlace - kept.length }

/-- An insertion that has moved down past some kept items. -/
def Edit.movedDown (e : Edit α) (kept : List α) : Edit α :=
  { e with
    items := e.items.drop kept.length ++ kept
    oldPlace := e.oldPlace + kept.length
    newPlace := e.newPlace + kept.length }

/-- Keep items in front of some edits; `oldPlace` and `newPlace` are those of the items. -/
def keepBefore (items : List α) (oldPlace newPlace : Nat) : Script α → Script α
  | [] => [⟨.keep, items, oldPlace, newPlace⟩]
  | e :: rest =>
    if e.kind = .keep then
      { e with
        items := items ++ e.items
        oldPlace := e.oldPlace - items.length
        newPlace := e.newPlace - items.length } :: rest
    else ⟨.keep, items, oldPlace, newPlace⟩ :: e :: rest

/-- Keep items behind some edits, of which the last comes first. -/
def keepBehind (items : List α) (oldPlace newPlace : Nat) : Script α → Script α
  | [] => [⟨.keep, items, oldPlace, newPlace⟩]
  | e :: rest =>
    if e.kind = .keep then { e with items := e.items ++ items } :: rest
    else ⟨.keep, items, oldPlace, newPlace⟩ :: e :: rest

/-! ## Moving one edit -/

variable [DecidableEq α]

/-- Move an edit up as far as it goes. -/
def shiftUp : (before : Script α) → (here : Edit α) → (after : Script α) → Opened α
  | [], here, after => ⟨[], here, after⟩
  | prev :: before, here, after =>
    match here.kind, prev.kind with
    | .insert, .keep =>
      let n := commonEnd prev.items here.items
      let kept := prev.last n
      let moved := here.movedUp kept
      let after' := keepBefore kept (prev.oldPlace + prev.items.length - n)
        (here.newPlace + here.items.length - n) after
      if _h : 0 < n then
        -- what is left of the kept stretch stays in front, unless nothing is
        if n = prev.items.length then shiftUp before moved after'
        else shiftUp (prev.dropLast n :: before) moved after'
      else ⟨prev :: before, here, after⟩
    | .insert, .delete => shiftUp before here (prev :: after)
    | .delete, .insert => shiftUp before here (prev :: after)
    | .insert, .insert => shiftUp before { prev with items := prev.items ++ here.items } after
    | .delete, .delete => shiftUp before { prev with items := prev.items ++ here.items } after
    | _, _ => ⟨prev :: before, here, after⟩
termination_by before => weight before
decreasing_by
  all_goals simp only [weight_cons]
  all_goals try omega
  have := commonEnd_le_left prev.items here.items
  simp only [Edit.dropLast, List.length_take]
  omega

/-- Move an edit down as far as it goes. -/
def shiftDown : (before : Script α) → (here : Edit α) → (after : Script α) → Opened α
  | before, here, [] => ⟨before, here, []⟩
  | before, here, next :: after =>
    match here.kind, next.kind with
    | .insert, .keep =>
      let n := commonStart next.items here.items
      let kept := next.items.take n
      let moved := here.movedDown kept
      let before' := keepBehind kept next.oldPlace here.newPlace before
      if _h : 0 < n then
        -- what is left of the kept stretch stays behind, unless nothing is
        if n = next.items.length then shiftDown before' moved after
        else shiftDown before' moved (next.dropFirst n :: after)
      else ⟨before, here, next :: after⟩
    | .insert, .delete => shiftDown (next :: before) here after
    | .delete, .insert => shiftDown (next :: before) here after
    | .insert, .insert => shiftDown before { here with items := here.items ++ next.items } after
    | .delete, .delete => shiftDown before { here with items := here.items ++ next.items } after
    | _, _ => ⟨before, here, next :: after⟩
termination_by _ _ after => weight after
decreasing_by
  all_goals simp only [weight_cons]
  all_goals try omega
  have := commonStart_le_left next.items here.items
  simp only [Edit.dropFirst, List.length_drop]
  omega

/-! ## Moving all of them -/

/--
Move the edits of one kind, from left to right. An edit that has joined an
earlier one may lead back to that one's place, so the edits that are looked at are
bounded by `steps` and not by the script.
-/
def settleKind (kind : Kind) : (steps : Nat) → (before after : Script α) → Script α
  | 0, before, after => before.reverse ++ after
  | _, before, [] => before.reverse
  | steps + 1, before, e :: after =>
    if e.kind = kind then
      let up := shiftUp before e after
      let down := shiftDown up.before up.here up.after
      settleKind kind steps (down.here :: down.before) down.after
    else settleKind kind steps (e :: before) after

/--
Enough steps: between two joins the edit that is looked at moves on by at least
an item, and there are at most as many joins as edits.
-/
def enoughSteps (s : Script α) : Nat := (weight s + 1) * (weight s + 1)

/-- Settle a script: the deletions first, then the insertions. -/
def settle (s : Script α) : Script α :=
  let t := settleKind .delete (enoughSteps s) [] s
  settleKind .insert (enoughSteps t) [] t

end Emend.Diff

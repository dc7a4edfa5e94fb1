/-!
# Edit scripts

A script turns one list into another: its edits keep, delete or insert stretches
of items, from left to right. Read for what it keeps and deletes it gives the old
list, read for what it keeps and inserts it gives the new one.

* `oldSide` and `newSide` are these two readings; they are all that a script has
  to be right about.
* The places of an edit say where it was found. They are shown to readers, and
  nothing is computed from them.
-/

namespace Emend.Diff

/-- What an edit does to its items. -/
inductive Kind
  | keep
  | delete
  | insert
  deriving DecidableEq, Repr

/-- A stretch of items, and where it was found in the two lists. -/
structure Edit (α : Type) where
  kind : Kind
  items : List α
  oldPlace : Nat
  newPlace : Nat
  deriving DecidableEq, Repr

/-- Edits from left to right. -/
abbrev Script (α : Type) := List (Edit α)

variable {α : Type}

/-- The items that come from the old list. -/
def Edit.oldItems (e : Edit α) : List α :=
  match e.kind with
  | .keep => e.items
  | .delete => e.items
  | .insert => []

/-- The items that go to the new list. -/
def Edit.newItems (e : Edit α) : List α :=
  match e.kind with
  | .keep => e.items
  | .delete => []
  | .insert => e.items

/-- The old list of a script. -/
def oldSide (s : Script α) : List α := s.flatMap Edit.oldItems

/-- The new list of a script. -/
def newSide (s : Script α) : List α := s.flatMap Edit.newItems

/-- Edits without items do nothing and are left out. -/
def Edit.orNothing (e : Edit α) : Script α := if e.items.isEmpty then [] else [e]

theorem oldSide_append (s t : Script α) : oldSide (s ++ t) = oldSide s ++ oldSide t := by
  simp [oldSide]

theorem newSide_append (s t : Script α) : newSide (s ++ t) = newSide s ++ newSide t := by
  simp [newSide]

theorem oldSide_orNothing (e : Edit α) : oldSide e.orNothing = e.oldItems := by
  obtain ⟨k, items, _, _⟩ := e
  cases items <;> cases k <;> simp [Edit.orNothing, oldSide, Edit.oldItems]

theorem newSide_orNothing (e : Edit α) : newSide e.orNothing = e.newItems := by
  obtain ⟨k, items, _, _⟩ := e
  cases items <;> cases k <;> simp [Edit.orNothing, newSide, Edit.newItems]

/-! ## What two lists share at their ends -/

variable [DecidableEq α]

/-- The length of the longest common beginning. -/
def commonStart : List α → List α → Nat
  | a :: as, b :: bs => if a = b then commonStart as bs + 1 else 0
  | _, _ => 0

/-- The length of the longest common end. -/
def commonEnd (as bs : List α) : Nat := commonStart as.reverse bs.reverse

theorem take_commonStart (as bs : List α) :
    as.take (commonStart as bs) = bs.take (commonStart as bs) := by
  fun_induction commonStart as bs with
  | case1 a as bs ih => simp [ih]
  | case2 a as b bs h => rfl
  | case3 as bs h => simp

theorem commonStart_le_left (as bs : List α) : commonStart as bs ≤ as.length := by
  fun_induction commonStart as bs with
  | case1 a as bs ih => simpa using ih
  | case2 a as b bs h => simp
  | case3 as bs h => simp

theorem commonEnd_le_left (as bs : List α) : commonEnd as bs ≤ as.length := by
  simpa [commonEnd] using commonStart_le_left as.reverse bs.reverse

theorem drop_commonEnd (as bs : List α) :
    as.drop (as.length - commonEnd as bs) = bs.drop (bs.length - commonEnd as bs) := by
  have h := take_commonStart as.reverse bs.reverse
  rw [List.take_reverse, List.take_reverse] at h
  simpa [commonEnd] using congrArg List.reverse h

end Emend.Diff

import Emend.Diff.Edit
import Emend.Diff.Midpoint

/-!
# Comparing two lists

`between` sets what two lists share at their ends aside, finds a point on a
shortest path through what remains, and goes on with the parts before and behind
that point.

* `oldSide_between`, `newSide_between`: the script is one between the two lists.
-/

namespace Emend.Diff

variable {α : Type} [DecidableEq α]

/-- Replace all of some items by others, which is right for any two lists. -/
def replaceAll (old new : List α) (oldPlace newPlace : Nat) : Script α :=
  (Edit.mk .delete old oldPlace newPlace).orNothing ++
    (Edit.mk .insert new oldPlace newPlace).orNothing

/-- A point that splits the work on two lists, so that less remains on either side of it. -/
def splitPoint? (old new : List α) : Option (Nat × Nat) :=
  if old.isEmpty || new.isEmpty then none
  else
    match midpoint? old new with
    | some (x, y) =>
      if x ≤ old.length ∧ y ≤ new.length ∧ 0 < x + y ∧ x + y < old.length + new.length then
        some (x, y)
      else none
    | none => none

theorem splitPoint?_eq_some {old new : List α} {x y : Nat}
    (h : splitPoint? old new = some (x, y)) :
    x ≤ old.length ∧ y ≤ new.length ∧ 0 < x + y ∧ x + y < old.length + new.length := by
  unfold splitPoint? at h
  split at h
  · simp at h
  · split at h
    · split at h
      · rename_i hp
        simp only [Option.some.injEq, Prod.mk.injEq] at h
        rw [← h.1, ← h.2]
        exact hp
      · simp at h
    · simp at h

/-- The script between two lists that stand at two places. -/
def betweenAt (old new : List α) (oldPlace newPlace : Nat) : Script α :=
  let a := commonStart old new
  let old₁ := old.drop a
  let new₁ := new.drop a
  let b := commonEnd old₁ new₁
  let oldMiddle := old₁.take (old₁.length - b)
  let newMiddle := new₁.take (new₁.length - b)
  let middle :=
    match _h : splitPoint? oldMiddle newMiddle with
    | some (x, y) =>
      betweenAt (oldMiddle.take x) (newMiddle.take y) (oldPlace + a) (newPlace + a) ++
        betweenAt (oldMiddle.drop x) (newMiddle.drop y) (oldPlace + a + x) (newPlace + a + y)
    | none => replaceAll oldMiddle newMiddle (oldPlace + a) (newPlace + a)
  (Edit.mk .keep (old.take a) oldPlace newPlace).orNothing ++ middle ++
    (Edit.mk .keep (old₁.drop (old₁.length - b)) (oldPlace + a + oldMiddle.length)
      (newPlace + a + newMiddle.length)).orNothing
termination_by old.length + new.length
decreasing_by
  all_goals
    have hs := splitPoint?_eq_some _h
    have ho : oldMiddle.length ≤ old.length := by simp [oldMiddle, old₁]; omega
    have hn : newMiddle.length ≤ new.length := by simp [newMiddle, new₁]; omega
    simp only [List.length_take, List.length_drop]
    omega

/-- The script between two lists. -/
def between (old new : List α) : Script α := betweenAt old new 0 0

omit [DecidableEq α] in
theorem oldSide_replaceAll (old new : List α) (oldPlace newPlace : Nat) :
    oldSide (replaceAll old new oldPlace newPlace) = old := by
  simp [replaceAll, oldSide_append, oldSide_orNothing, Edit.oldItems]

omit [DecidableEq α] in
theorem newSide_replaceAll (old new : List α) (oldPlace newPlace : Nat) :
    newSide (replaceAll old new oldPlace newPlace) = new := by
  simp [replaceAll, newSide_append, newSide_orNothing, Edit.newItems]

theorem oldSide_betweenAt (old new : List α) (oldPlace newPlace : Nat) :
    oldSide (betweenAt old new oldPlace newPlace) = old := by
  fun_induction betweenAt old new oldPlace newPlace with
  | case1 old new oldPlace newPlace a old₁ new₁ b oldMiddle newMiddle middle ih₁ ih₂ =>
    have hm : oldSide middle = oldMiddle := by
      simp only [middle]
      split
      · rename_i x y h
        rw [oldSide_append, ih₁ x y h, ih₂ x y h, List.take_append_drop]
      · exact oldSide_replaceAll ..
    simp only [oldSide_append, oldSide_orNothing, Edit.oldItems, hm, oldMiddle]
    rw [List.append_assoc, List.take_append_drop, List.take_append_drop]

theorem newSide_betweenAt (old new : List α) (oldPlace newPlace : Nat) :
    newSide (betweenAt old new oldPlace newPlace) = new := by
  fun_induction betweenAt old new oldPlace newPlace with
  | case1 old new oldPlace newPlace a old₁ new₁ b oldMiddle newMiddle middle ih₁ ih₂ =>
    have hm : newSide middle = newMiddle := by
      simp only [middle]
      split
      · rename_i x y h
        rw [newSide_append, ih₁ x y h, ih₂ x y h, List.take_append_drop]
      · exact newSide_replaceAll ..
    simp only [newSide_append, newSide_orNothing, Edit.newItems, hm, newMiddle]
    rw [take_commonStart old new, drop_commonEnd old₁ new₁, List.append_assoc,
      List.take_append_drop, List.take_append_drop]

theorem oldSide_between (old new : List α) : oldSide (between old new) = old :=
  oldSide_betweenAt ..

theorem newSide_between (old new : List α) : newSide (between old new) = new :=
  newSide_betweenAt ..

end Emend.Diff

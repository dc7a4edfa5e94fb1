import Emend.Proofs.Sessions

/-!
# Counting a change

The tally of a session says how many lines it has added and removed. The lines of the old
text and those that were added are together as many as those of the new text and those that
were removed, and no change goes uncounted, however small: a text is the same as another one
only if it has the same lines, with the same line ends.

* `length_oldSide`, `length_newSide`: what a script counts makes up its two sides.
* `sides_eq_of_no_change`: a script that adds and removes nothing has two equal sides.
* `Balances` is what a tally has to be right about, and `balances_of_sides` says that it is for
  every script between the lines of two texts, however the script was found.
* `tally_balances` says it of sessions.
-/

namespace Emend

namespace Diff

variable {s : Script String} {before after : String}

/-! ## Counts and sides -/

theorem countItems_cons (kind : Kind) (e : Edit String) (s : Script String) :
    countItems kind (e :: s) = (if e.kind = kind then e.items.length else 0) + countItems kind s := by
  by_cases h : e.kind = kind <;> simp [countItems, h]

theorem oldSide_cons (e : Edit String) (s : Script String) :
    oldSide (e :: s) = e.oldItems ++ oldSide s := rfl

theorem newSide_cons (e : Edit String) (s : Script String) :
    newSide (e :: s) = e.newItems ++ newSide s := rfl

/-- **The old side is made of what is kept and what is deleted.** -/
theorem length_oldSide (s : Script String) :
    (oldSide s).length = countItems .keep s + countItems .delete s := by
  induction s with
  | nil => rfl
  | cons e s ih =>
      rw [oldSide_cons, List.length_append, countItems_cons, countItems_cons, ih]
      cases hk : e.kind <;> simp [Edit.oldItems, hk] <;> omega

/-- **The new side is made of what is kept and what is inserted.** -/
theorem length_newSide (s : Script String) :
    (newSide s).length = countItems .keep s + countItems .insert s := by
  induction s with
  | nil => rfl
  | cons e s ih =>
      rw [newSide_cons, List.length_append, countItems_cons, countItems_cons, ih]
      cases hk : e.kind <;> simp [Edit.newItems, hk] <;> omega

/-- **A script without changes has two equal sides**, even if it has empty edits. -/
theorem sides_eq_of_no_change (hi : countItems .insert s = 0) (hd : countItems .delete s = 0) :
    oldSide s = newSide s := by
  induction s with
  | nil => rfl
  | cons e s ih =>
      rw [countItems_cons] at hi hd
      have hrest : oldSide s = newSide s := ih (by omega) (by omega)
      -- an edit that would change something, and is not counted, has no items
      have hhere : e.oldItems = e.newItems := by
        cases hk : e.kind with
        | keep => simp [Edit.oldItems, Edit.newItems, hk]
        | delete =>
            rw [if_pos hk] at hd
            have hitems : e.items = [] := List.length_eq_zero_iff.mp (by omega)
            simp [Edit.oldItems, Edit.newItems, hk, hitems]
        | insert =>
            rw [if_pos hk] at hi
            have hitems : e.items = [] := List.length_eq_zero_iff.mp (by omega)
            simp [Edit.oldItems, Edit.newItems, hk, hitems]
      rw [oldSide_cons, newSide_cons, hhere, hrest]

/-! ## Tallies -/

/-- A tally is right about the change from one text to another. -/
structure Balances (tally : Tally) (before after : String) : Prop where
  balance : tally.added + (Text.lines before).length = tally.removed + (Text.lines after).length
  removed_le : tally.removed ≤ (Text.lines before).length
  added_le : tally.added ≤ (Text.lines after).length
  /-- Every change is counted. -/
  zero_iff : (tally.added = 0 ∧ tally.removed = 0) ↔ before = after

/-- **Any script between the lines of two texts counts right**, if the texts differ. Between equal
texts it may delete lines that it inserts again, so these have to be set apart. -/
theorem balances_of_sides (hold : oldSide s = Text.lines before)
    (hnew : newSide s = Text.lines after) :
    Balances (if before = after then {} else .ofScript s) before after := by
  split
  · rename_i heq
    subst heq
    exact ⟨rfl, Nat.zero_le _, Nat.zero_le _, by simp⟩
  · rename_i hne
    -- what is kept is counted on both sides, and cancels out
    have hbefore := length_oldSide s
    have hafter := length_newSide s
    rw [hold] at hbefore
    rw [hnew] at hafter
    refine ⟨?_, ?_, ?_, iff_of_false (fun h => hne ?_) hne⟩
    · simp only [Tally.ofScript]
      omega
    · simp only [Tally.ofScript]
      omega
    · simp only [Tally.ofScript]
      omega
    · have hsides := sides_eq_of_no_change h.1 h.2
      rw [hold, hnew] at hsides
      exact Text.lines_inj hsides

theorem balances_between (before after : String) :
    Balances (Tally.between before after) before after :=
  balances_of_sides (oldSide_lineScript before after) (newSide_lineScript before after)

end Diff

/-! ## Sessions -/

/-- The record of a session is made from the text that it found and the one that it left. -/
theorem Editor.result_eq_ofTexts {e : Editor} {write : Bool} {t : FileTree} {identity : Path}
    {rules : RuleSet} {s : Session} (h : (e.session write t identity rules).result = .ok s) :
    s = .ofTexts s.document s.reports s.persisted s.before s.after := by
  rcases e.session_cases t identity rules with ⟨err, hr⟩ | ⟨d, rule, hr⟩ | ⟨d, l, mode, hr⟩
  · cases (hr write).result.symm.trans h
  · cases (hr write).result.symm.trans h
  · cases (hr write).result.symm.trans h
    rfl

/--
**A tally balances, and it counts every change.** The lines before and those that were added are
as many as the lines after and those that were removed; no more lines are removed than there were,
and no more added than there are; and both numbers are zero only between equal texts. This is so
for every script between the lines of two texts, as equal texts are told apart from others before
there is a script, and for the tally that is taken. So the tally of a session is zero exactly if
the session says that nothing has changed.
-/
theorem tally_balances (before after : String) :
    (∀ s : Diff.Script String,
        Diff.oldSide s = Text.lines before → Diff.newSide s = Text.lines after →
        Diff.Balances (if before = after then {} else .ofScript s) before after)
      ∧ Diff.Balances (.between before after) before after
      ∧ ∀ (e : Editor) (write : Bool) (t : FileTree) (identity : Path) (rules : RuleSet)
          (s : Session), (e.session write t identity rules).result = .ok s →
          Diff.Balances s.tally s.before s.after
            ∧ ((s.tally.added = 0 ∧ s.tally.removed = 0) ↔ s.changed = false) := by
  refine ⟨fun s hold hnew => Diff.balances_of_sides hold hnew, Diff.balances_between before after,
    fun e write t identity rules s h => ?_⟩
  have hrecord := Editor.result_eq_ofTexts h
  have htally : s.tally = .between s.before s.after := congrArg Session.tally hrecord
  have hchanged : s.changed = decide (s.after ≠ s.before) := congrArg Session.changed hrecord
  have hbalances := Diff.balances_between s.before s.after
  rw [← htally] at hbalances
  refine ⟨hbalances, hbalances.zero_iff.trans ?_⟩
  rw [hchanged, decide_eq_false_iff_not, Decidable.not_not, eq_comm]

example : Diff.Tally.between "a\r\nb" "a\nb\n" = { added := 2, removed := 2 } := by
  decide +kernel

end Emend

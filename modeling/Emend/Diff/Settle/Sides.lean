import Emend.Diff.Settle

/-!
# The two sides of a settled script

Two scripts agree if they turn the same list into the same list. Every step of
settling puts a few neighbouring edits in the place of others that they agree
with, and agreement does not look at what stands around them.

* `agree_movedUp`, `agree_movedDown`, `agree_swap` and `agree_join` are these steps.
* `oldSide_settle`, `newSide_settle`: a settled script is still a script between the
  same two lists.
-/

namespace Emend.Diff

variable {α : Type}

/-- Are two scripts between the same two lists? -/
def Agree (s t : Script α) : Prop := oldSide s = oldSide t ∧ newSide s = newSide t

theorem Agree.rfl {s : Script α} : Agree s s := ⟨Eq.refl _, Eq.refl _⟩

theorem Agree.symm {s t : Script α} (h : Agree s t) : Agree t s := ⟨h.1.symm, h.2.symm⟩

theorem Agree.trans {s t u : Script α} (h₁ : Agree s t) (h₂ : Agree t u) : Agree s u :=
  ⟨h₁.1.trans h₂.1, h₁.2.trans h₂.2⟩

theorem Agree.append_left (front : Script α) {s t : Script α} (h : Agree s t) :
    Agree (front ++ s) (front ++ t) := by
  simp [Agree, oldSide_append, newSide_append, h.1, h.2]

theorem Agree.append_right {s t : Script α} (h : Agree s t) (back : Script α) :
    Agree (s ++ back) (t ++ back) := by
  simp [Agree, oldSide_append, newSide_append, h.1, h.2]

theorem Agree.cons (e : Edit α) {s t : Script α} (h : Agree s t) : Agree (e :: s) (e :: t) :=
  h.append_left [e]

/-! ## Local moves -/

theorem agree_keepBefore (items : List α) (oldPlace newPlace : Nat) (s : Script α) :
    Agree (keepBefore items oldPlace newPlace s) (⟨.keep, items, oldPlace, newPlace⟩ :: s) := by
  fun_cases keepBefore items oldPlace newPlace s with
  | case1 => exact .rfl
  | case2 e rest h => simp [Agree, oldSide, newSide, Edit.oldItems, Edit.newItems, h]
  | case3 e rest h => exact .rfl

theorem agree_keepBehind (items : List α) (oldPlace newPlace : Nat) (s : Script α) :
    Agree (keepBehind items oldPlace newPlace s).reverse
      (s.reverse ++ [⟨.keep, items, oldPlace, newPlace⟩]) := by
  fun_cases keepBehind items oldPlace newPlace s with
  | case1 => exact .rfl
  | case2 e rest h => simp [Agree, oldSide, newSide, Edit.oldItems, Edit.newItems, h]
  | case3 e rest h => simp [Agree]

/-- Two neighbours of one kind are the same as one edit. -/
theorem agree_join {a b : Edit α} (h : a.kind = b.kind) (oldPlace newPlace : Nat) :
    Agree [⟨a.kind, a.items ++ b.items, oldPlace, newPlace⟩] [a, b] := by
  obtain ⟨k, items, _, _⟩ := a
  subst h
  cases hb : b.kind <;>
    simp [Agree, oldSide, newSide, Edit.oldItems, Edit.newItems, hb]

/-- A deletion and an insertion beside each other can change places. -/
theorem agree_swap {a b : Edit α} (ha : a.kind = .insert) (hb : b.kind = .delete) :
    Agree [a, b] [b, a] := by
  simp [Agree, oldSide, newSide, Edit.oldItems, Edit.newItems, ha, hb]

/-- An insertion moves up past items that are kept and that it ends with. -/
theorem agree_movedUp {prev here : Edit α} (hp : prev.kind = .keep) (hh : here.kind = .insert)
    {n : Nat} (hn : n ≤ prev.items.length) (hl : prev.last n = here.last n)
    (oldPlace newPlace : Nat) :
    Agree [prev.dropLast n, here.movedUp (prev.last n), ⟨.keep, prev.last n, oldPlace, newPlace⟩]
      [prev, here] := by
  have hlen : (prev.last n).length = n := by simp [Edit.last]; omega
  have h₁ : prev.items.take (prev.items.length - n) ++ prev.last n = prev.items :=
    List.take_append_drop ..
  have h₂ : here.items.take (here.items.length - n) ++ here.last n = here.items :=
    List.take_append_drop ..
  constructor
  · simp [oldSide, Edit.oldItems, Edit.dropLast, Edit.movedUp, hp, hh, h₁]
  · simp only [newSide, Edit.newItems, Edit.dropLast, Edit.movedUp, hp, hh, hlen,
      List.flatMap_cons, List.flatMap_nil, List.append_nil, List.append_assoc]
    rw [← List.append_assoc, h₁, hl, h₂]

/-- An insertion moves down past items that are kept and that it starts with. -/
theorem agree_movedDown {here next : Edit α} (hh : here.kind = .insert) (hk : next.kind = .keep)
    {n : Nat} (hn : n ≤ next.items.length) (hl : next.items.take n = here.items.take n)
    (oldPlace newPlace : Nat) :
    Agree [⟨.keep, next.items.take n, oldPlace, newPlace⟩,
        here.movedDown (next.items.take n), next.dropFirst n]
      [here, next] := by
  have hlen : (next.items.take n).length = n := by simp; omega
  constructor
  · simp [oldSide, Edit.oldItems, Edit.dropFirst, Edit.movedDown, hh, hk]
  · simp only [newSide, Edit.newItems, Edit.dropFirst, Edit.movedDown, hh, hk, hlen,
      List.flatMap_cons, List.flatMap_nil, List.append_nil, List.append_assoc]
    rw [List.take_append_drop, hl, ← List.append_assoc, List.take_append_drop]

/-- An edit without items says nothing. -/
theorem agree_cons_of_items_eq_nil {e : Edit α} (h : e.items = []) (s : Script α) :
    Agree (e :: s) s := by
  obtain ⟨k, items, _, _⟩ := e
  subst h
  cases k <;> simp [Agree, oldSide, newSide, Edit.oldItems, Edit.newItems]

/-! ## Settling -/

variable [DecidableEq α]

theorem agree_shiftUp (before : Script α) (here : Edit α) (after : Script α) :
    Agree (shiftUp before here after).toScript (before.reverse ++ here :: after) := by
  fun_induction shiftUp before here after with
  | case1 => exact .rfl
  | case2 prev before here after hp hh n kept moved after' _ hn ih =>
    have hl : prev.last n = here.last n := drop_commonEnd ..
    have hmove := (agree_movedUp hp hh (Nat.le_of_eq hn) hl
      (prev.oldPlace + prev.items.length - n) (here.newPlace + here.items.length - n))
    have hnil : (prev.dropLast n).items = [] := by simp [Edit.dropLast, hn]
    refine ih.trans ?_
    rw [List.reverse_cons, List.append_assoc]
    refine Agree.append_left _ ?_
    refine ((agree_keepBefore ..).cons moved).trans ?_
    exact (agree_cons_of_items_eq_nil hnil _).symm.trans (hmove.append_right after)
  | case3 prev before here after hp hh n kept moved after' _ _ ih =>
    have hl : prev.last n = here.last n := drop_commonEnd ..
    have hmove := (agree_movedUp hp hh (commonEnd_le_left ..) hl
      (prev.oldPlace + prev.items.length - n) (here.newPlace + here.items.length - n))
    refine ih.trans ?_
    simp only [List.reverse_cons, List.append_assoc]
    refine Agree.append_left _ ?_
    exact (((agree_keepBefore ..).cons moved).cons (prev.dropLast n)).trans
      (hmove.append_right after)
  | case4 prev before here after hp hh n hn => simpa [Opened.toScript] using .rfl
  | case5 prev before here after hp hh ih =>
    refine ih.trans ?_
    rw [List.reverse_cons, List.append_assoc]
    exact ((agree_swap hh hp).append_right after).append_left _
  | case6 prev before here after hp hh ih =>
    refine ih.trans ?_
    rw [List.reverse_cons, List.append_assoc]
    exact ((agree_swap hp hh).symm.append_right after).append_left _
  | case7 prev before here after hp hh ih =>
    refine ih.trans ?_
    rw [List.reverse_cons, List.append_assoc]
    exact ((agree_join (hp.trans hh.symm) ..).append_right after).append_left _
  | case8 prev before here after hp hh ih =>
    refine ih.trans ?_
    rw [List.reverse_cons, List.append_assoc]
    exact ((agree_join (hp.trans hh.symm) ..).append_right after).append_left _
  | case9 => simpa [Opened.toScript] using .rfl

theorem agree_shiftDown (before : Script α) (here : Edit α) (after : Script α) :
    Agree (shiftDown before here after).toScript (before.reverse ++ here :: after) := by
  fun_induction shiftDown before here after with
  | case1 => exact .rfl
  | case2 before here next after hn hh n kept moved before' _ hl ih =>
    have he : next.items.take n = here.items.take n := take_commonStart ..
    have hmove := agree_movedDown hh hn (Nat.le_of_eq hl) he next.oldPlace here.newPlace
    have hnil : (next.dropFirst n).items = [] := by simp [Edit.dropFirst, hl]
    refine ih.trans ?_
    refine ((agree_keepBehind ..).append_right _).trans ?_
    rw [List.append_assoc]
    refine Agree.append_left _ ?_
    refine Agree.trans ?_ (hmove.append_right after)
    exact ((agree_cons_of_items_eq_nil hnil after).symm.cons moved).cons _
  | case3 before here next after hn hh n kept moved before' _ _ ih =>
    have he : next.items.take n = here.items.take n := take_commonStart ..
    have hmove := agree_movedDown hh hn (commonStart_le_left ..) he next.oldPlace here.newPlace
    refine ih.trans ?_
    refine ((agree_keepBehind ..).append_right _).trans ?_
    rw [List.append_assoc]
    exact (hmove.append_right after).append_left _
  | case4 => exact .rfl
  | case5 before here next after hn hh ih =>
    refine ih.trans ?_
    rw [List.reverse_cons, List.append_assoc]
    exact ((agree_swap hh hn).symm.append_right after).append_left _
  | case6 before here next after hn hh ih =>
    refine ih.trans ?_
    rw [List.reverse_cons, List.append_assoc]
    exact ((agree_swap hn hh).append_right after).append_left _
  | case7 before here next after hn hh ih =>
    exact ih.trans (((agree_join (hh.trans hn.symm) ..).append_right after).append_left _)
  | case8 before here next after hn hh ih =>
    exact ih.trans (((agree_join (hh.trans hn.symm) ..).append_right after).append_left _)
  | case9 => exact .rfl

theorem agree_settleKind (kind : Kind) (steps : Nat) (before after : Script α) :
    Agree (settleKind kind steps before after) (before.reverse ++ after) := by
  fun_induction settleKind kind steps before after with
  | case1 before after => exact .rfl
  | case2 => simpa using .rfl
  | case3 before steps e after h up down ih =>
    refine ih.trans ?_
    rw [List.reverse_cons, List.append_assoc]
    exact (agree_shiftDown ..).trans (agree_shiftUp ..)
  | case4 before steps e after h ih =>
    refine ih.trans ?_
    rw [List.reverse_cons, List.append_assoc]
    exact .rfl

theorem agree_settle (s : Script α) : Agree (settle s) s :=
  (agree_settleKind ..).trans (agree_settleKind ..)

theorem oldSide_settle (s : Script α) : oldSide (settle s) = oldSide s := (agree_settle s).1

theorem newSide_settle (s : Script α) : newSide (settle s) = newSide s := (agree_settle s).2

end Emend.Diff

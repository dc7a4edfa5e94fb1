import Emend.Proofs.Replacing

/-!
# Real paths

What it means that a path leads somewhere can be said without walking. A *trail* is taken step
by step: every step starts in a directory; an idle step stays there, a step up goes to the
directory that holds it, a name goes to what has that name there, and at a symbolic link the
trail goes on with the steps of its target. The *real path* of a path is where its trail ends,
which has to follow no more links than the system allows.

* `trail_iff`: one advance goes along a trail up to its first link.
* `walk_eq_ok_iff`: so a walk arrives exactly if there is a trail with few enough links.
* `realPath_iff`: and resolving a path finds its real path, if there is one.
-/

namespace Emend.FileTree

variable {t : FileTree} {l r q : Location} {p : Path} {steps : List SystemText} {n : Nat}

/-- From a location some steps lead to another one, over a number of links. -/
inductive Trail (t : FileTree) : Location → (steps : List SystemText) → (links : Nat) →
    Location → Prop
  | arrived {l : Location} : Trail t l [] 0 l
  | idle {l r : Location} {s : SystemText} {rest : List SystemText} {n : Nat} (hd : t.isDirectoryAt l)
      (hs : s = "" ∨ s = ".") (h : Trail t l rest n r) : Trail t l (s :: rest) n r
  | up {l r : Location} {rest : List SystemText} {n : Nat} (hd : t.isDirectoryAt l)
      (hup : t.isDirectoryAt l.dropLast) (h : Trail t l.dropLast rest n r) :
      Trail t l (".." :: rest) n r
  | name {l r : Location} {s : SystemText} {rest : List SystemText} {n : Nat} {e : Entry}
      (hd : t.isDirectoryAt l) (hs : IsName s) (he : t.get? (l ++ [s]) = some e)
      (hl : ∀ target, e ≠ .link target) (h : Trail t (l ++ [s]) rest n r) :
      Trail t l (s :: rest) n r
  | link {l r : Location} {s : SystemText} {rest : List SystemText} {n : Nat} {target : Path}
      (hd : t.isDirectoryAt l) (hs : IsName s) (he : t.get? (l ++ [s]) = some (.link target))
      (hne : target.isEmpty = false) (h : Trail t (startOf l target) (target.steps ++ rest) n r) :
      Trail t l (s :: rest) (n + 1) r

/-- The real path of a path: where it leads when all links are followed. -/
def RealPath (t : FileTree) (p : Path) (q : Location) : Prop :=
  p.isEmpty = false ∧ ∃ n ≤ linkLimit, t.Trail (startOf t.workingDirectory p) p.steps n q

/-! ## Trails and walks -/

/-- Does a trail with some links end at a location, if it starts with an advance? -/
def GoesOn (t : FileTree) (n : Nat) (r : Location) : Advance → Prop
  | .arrived l => l = r ∧ n = 0
  | .atLink directory target rest => target.isEmpty = false
      ∧ ∃ k, n = k + 1 ∧ t.Trail (startOf directory target) (target.steps ++ rest) k r
  | .stopped _ => False

theorem Trail.goesOn (h : t.Trail l steps n r) : t.GoesOn n r (t.advance l steps) := by
  induction h with
  | arrived => exact ⟨rfl, rfl⟩
  | idle hd hs _ ih => rwa [advance_idle hs hd]
  | up hd hup _ ih => rwa [advance_up hd, if_pos hup]
  | @name l r s rest n e hd hs he hl _ ih =>
      rw [advance_name hs hd, he]
      cases e with
      | directory mode => exact ih
      | file contents mode => exact ih
      | link target => exact absurd rfl (hl target)
  | link hd hs he hne h _ =>
      rw [advance_name hs hd, he]
      exact ⟨hne, _, rfl, h⟩

theorem trail_of_goesOn (h : t.GoesOn n r (t.advance l steps)) : t.Trail l steps n r := by
  induction steps generalizing l with
  | nil =>
      obtain ⟨rfl, rfl⟩ := h
      exact .arrived
  | cons s rest ih =>
      by_cases hd : t.isDirectoryAt l
      · by_cases hidle : s = "" ∨ s = "."
        · rw [advance_idle hidle hd] at h
          exact .idle hd hidle (ih h)
        · by_cases hup : s = ".."
          · subst hup
            rw [advance_up hd] at h
            split at h
            · rename_i hd'
              exact .up hd hd' (ih h)
            · exact h.elim
          · have hs := isName_of_not hidle hup
            rw [advance_name hs hd] at h
            split at h
            · exact h.elim
            · rename_i target he
              obtain ⟨hne, k, rfl, htrail⟩ := h
              exact .link hd hs he hne htrail
            · rename_i e hl he
              exact .name hd hs he hl (ih h)
      · rw [advance_of_not_directory hd] at h
        exact h.elim

/-- **An advance goes along a trail up to its first link.** -/
theorem trail_iff : t.Trail l steps n r ↔ t.GoesOn n r (t.advance l steps) :=
  ⟨Trail.goesOn, trail_of_goesOn⟩

/-- **A walk arrives exactly if there is a trail with few enough links.** -/
theorem walk_eq_ok_iff : t.walk n l steps = .ok r ↔ ∃ k ≤ n, t.Trail l steps k r := by
  simp only [trail_iff]
  induction n generalizing l steps with
  | zero =>
      cases hA : t.advance l steps with
      | arrived m => simp [walk_of_arrived hA, GoesOn]
      | atLink d target rest => simp [walk, hA, GoesOn]
      | stopped f => simp [walk_of_stopped hA, GoesOn]
  | succ n ih =>
      cases hA : t.advance l steps with
      | arrived m => simp [walk_of_arrived hA, GoesOn]
      | stopped f => simp [walk_of_stopped hA, GoesOn]
      | atLink d target rest =>
          rw [walk_of_atLink hA]
          by_cases he : target.isEmpty
          · simp [he, GoesOn]
          · rw [if_neg he, ih]
            simp only [← trail_iff]
            have he : target.isEmpty = false := by simpa using he
            constructor
            · rintro ⟨k, hk, htrail⟩
              exact ⟨k + 1, Nat.succ_le_succ hk, he, k, rfl, htrail⟩
            · rintro ⟨_, hk, -, k, rfl, htrail⟩
              exact ⟨k, Nat.le_of_succ_le_succ hk, htrail⟩

/-! ## Resolving -/

/-- **Resolving a path finds its real path**, exactly if it has one. -/
theorem realPath_iff : t.RealPath p q ↔ t.resolve p = .ok q := by
  by_cases he : p.isEmpty
  · simp [resolve, RealPath, he]
  · have he : p.isEmpty = false := by simpa using he
    rw [resolve_of_nonempty he, walk_eq_ok_iff, RealPath, and_iff_right he]

theorem RealPath.unique {q' : Location} (h : t.RealPath p q) (h' : t.RealPath p q') : q = q' := by
  rw [realPath_iff] at h h'
  exact Except.ok.inj (h.symm.trans h')

end Emend.FileTree

import Emend.FileTree.Resolve

/-!
# Staged files

A file that is to replace an entry is first staged: it is written in the entry's
directory, under a name that neither the tree nor the entry's path knows. Whoever
walks through the tree meanwhile does not come across it.

* `unusedName_not_mem`: the name is none of the known ones.
* `walk_put`: a walk that does not know the name goes as it did without the file.
* `remove_put`: when the file is taken away again, the tree is what it was.
-/

namespace Emend

/-- The length of a name, which counts only if it is a text. -/
def nameLength (name : SystemText) : Nat := name.text?.elim 0 String.length

/-- A name that is longer than all of some names. -/
def unusedName (known : List SystemText) : SystemText :=
  String.ofList (List.replicate ((known.map nameLength).foldr max 0 + 1) '~')

theorem length_lt_unusedName {known : List SystemText} {name : SystemText} (h : name ∈ known) :
    nameLength name < nameLength (unusedName known) := by
  have : nameLength name ≤ (known.map nameLength).foldr max 0 := by
    induction known with
    | nil => simp at h
    | cons first rest ih =>
      simp only [List.map_cons, List.foldr_cons]
      rcases List.mem_cons.mp h with rfl | h
      · exact Nat.le_max_left ..
      · exact Nat.le_trans (ih h) (Nat.le_max_right ..)
  simpa [unusedName, nameLength, SystemText.text?] using Nat.lt_succ_of_le this

theorem unusedName_not_mem (known : List SystemText) : unusedName known ∉ known :=
  fun h => Nat.lt_irrefl _ (length_lt_unusedName h)

/-- The names that an entry mentions: those on the way to a link's target. -/
def Entry.names : Entry → List SystemText
  | link target => target.segments
  | _ => []

/-- Has a walk come so far without meeting a name? -/
def Advance.Avoids (name : SystemText) : Advance → Prop
  | arrived l => name ∉ l
  | atLink directory target rest => name ∉ directory ∧ name ∉ target.segments ∧ name ∉ rest
  | stopped _ => True

theorem Path.mem_segments_of_mem_steps {p : Path} {name : SystemText} (h : name ∈ p.steps) :
    name ∈ p.segments := by
  unfold Path.steps at h
  split at h
  · exact List.mem_of_mem_tail h
  · exact h

namespace FileTree

/-- All names that a tree mentions. -/
def knownNames (t : FileTree) : List SystemText :=
  t.workingDirectory ++ t.entries.flatMap fun (l, e) => l ++ e.names

variable {t : FileTree} {directory : Location} {name : SystemText} {e : Entry}

theorem mem_knownNames {l : Location} (h : t.get? l = some e) {n : SystemText} (hn : n ∈ e.names) :
    n ∈ t.knownNames := by
  rw [get?] at h
  split at h
  · cases h
    simp [Entry.names] at hn
  · obtain ⟨front, back, hs, -⟩ := List.lookup_eq_some_iff.mp h
    simp only [knownNames, List.mem_append, List.mem_flatMap]
    exact .inr ⟨(l, e), by simp [hs], .inr hn⟩

/-! ## Walks that do not know the name -/

theorem get?_put_of_not_mem {l : Location} (h : name ∉ l) :
    (t.put (directory ++ [name]) e).get? l = t.get? l :=
  get?_put_of_ne t (fun hl => h (by simp [hl])) e

theorem isDirectoryAt_put_of_not_mem {l : Location} (h : name ∉ l) :
    (t.put (directory ++ [name]) e).isDirectoryAt l = t.isDirectoryAt l := by
  simp [isDirectoryAt, get?_put_of_not_mem h]

theorem not_mem_dropLast {l : Location} (h : name ∉ l) : name ∉ l.dropLast :=
  fun hm => h (l.dropLast_sublist.mem hm)

theorem advance_put {steps : List SystemText} {l : Location} (hl : name ∉ l) (hs : name ∉ steps) :
    (t.put (directory ++ [name]) e).advance l steps = t.advance l steps := by
  induction steps generalizing l with
  | nil => rfl
  | cons s rest ih =>
    simp only [List.mem_cons, not_or] at hs
    have hls : name ∉ l ++ [s] := by simp [hl, hs.1]
    have hup := not_mem_dropLast hl
    simp only [advance, isDirectoryAt_put_of_not_mem hl, isDirectoryAt_put_of_not_mem hup,
      get?_put_of_not_mem hls, ih hl hs.2, ih hup hs.2, ih hls hs.2]

theorem advance_avoids (ht : name ∉ t.knownNames) {steps : List SystemText} {l : Location}
    (hl : name ∉ l) (hs : name ∉ steps) : (t.advance l steps).Avoids name := by
  induction steps generalizing l with
  | nil => exact hl
  | cons s rest ih =>
    simp only [List.mem_cons, not_or] at hs
    have hls : name ∉ l ++ [s] := by simp [hl, hs.1]
    rw [advance]
    split
    · trivial
    · split
      · exact ih hl hs.2
      · split
        · split
          · exact ih (not_mem_dropLast hl) hs.2
          · trivial
        · split
          · trivial
          · rename_i target hg
            -- the tree knows the names on the way to the link's target
            exact ⟨hl, fun hm => ht (mem_knownNames hg hm), hs.2⟩
          · exact ih hls hs.2

theorem not_mem_startOf {p : Path} (h : name ∉ directory) : name ∉ startOf directory p := by
  unfold startOf
  split
  · simp
  · exact h

theorem not_mem_steps_append {p : Path} {rest : List SystemText} (hp : name ∉ p.segments)
    (hr : name ∉ rest) : name ∉ p.steps ++ rest := by
  simp only [List.mem_append, not_or]
  exact ⟨fun hm => hp (Path.mem_segments_of_mem_steps hm), hr⟩

theorem walk_put (ht : name ∉ t.knownNames) {links : Nat} {l : Location} {steps : List SystemText}
    (hl : name ∉ l) (hs : name ∉ steps) :
    (t.put (directory ++ [name]) e).walk links l steps = t.walk links l steps := by
  induction links generalizing l steps with
  | zero => simp only [walk, advance_put hl hs]
  | succ links ih =>
    have hav := advance_avoids ht hl hs
    simp only [walk, advance_put hl hs]
    split
    · rfl
    · rename_i d target rest h
      rw [h] at hav
      rw [ih (not_mem_startOf hav.1) (not_mem_steps_append hav.2.1 hav.2.2)]
    · rfl

theorem walk_avoids (ht : name ∉ t.knownNames) {links : Nat} {l l' : Location}
    {steps : List SystemText} (hl : name ∉ l) (hs : name ∉ steps)
    (h : t.walk links l steps = .ok l') : name ∉ l' := by
  induction links generalizing l steps with
  | zero =>
    have hav := advance_avoids ht hl hs
    rw [walk] at h
    split at h
    · rename_i hA
      rw [hA] at hav
      cases h
      exact hav
    · cases h
    · cases h
  | succ links ih =>
    have hav := advance_avoids ht hl hs
    rw [walk] at h
    split at h
    · rename_i hA
      rw [hA] at hav
      cases h
      exact hav
    · rename_i hA
      rw [hA] at hav
      split at h
      · cases h
      · exact ih (not_mem_startOf hav.1) (not_mem_steps_append hav.2.1 hav.2.2) h
    · cases h

/-! ## Taking the file away again -/

theorem putIn_of_forall_ne {l : Location} {es : List (Location × Entry)}
    (h : ∀ x ∈ es, x.1 ≠ l) : putIn l e es = es ++ [(l, e)] := by
  induction es with
  | nil => rfl
  | cons x rest ih =>
    obtain ⟨k, old⟩ := x
    have hk : k ≠ l := h (k, old) (by simp)
    simp [putIn, hk, ih fun x hx => h x (by simp [hx])]

theorem not_prefix_of_not_mem_knownNames (ht : name ∉ t.knownNames) {x : Location × Entry}
    (hx : x ∈ t.entries) : ¬ directory ++ [name] <+: x.1 := by
  rintro ⟨rest, hr⟩
  refine ht ?_
  simp only [knownNames, List.mem_append, List.mem_flatMap]
  exact .inr ⟨x, hx, .inl (by simp [← hr])⟩

theorem remove_put (ht : name ∉ t.knownNames) :
    (t.put (directory ++ [name]) e).remove (directory ++ [name]) = t := by
  have hne : ∀ x ∈ t.entries, x.1 ≠ directory ++ [name] := by
    intro x hx h
    have hp : directory ++ [name] <+: x.1 := ⟨[], by simp [h]⟩
    exact not_prefix_of_not_mem_knownNames ht hx hp
  have hkeep : ∀ x ∈ t.entries, (!(directory ++ [name]).isPrefixOf x.1) = true := by
    intro x hx
    have h : ¬ directory ++ [name] <+: x.1 := not_prefix_of_not_mem_knownNames ht hx
    rw [← List.isPrefixOf_iff_prefix] at h
    rw [Bool.not_eq_true', ← Bool.not_eq_true]
    exact h
  obtain ⟨entries, workingDirectory⟩ := t
  simp only [put, remove, putIn_of_forall_ne hne, List.filter_append, FileTree.mk.injEq, and_true]
  rw [List.filter_eq_self.mpr hkeep]
  simp [List.isPrefixOf_iff_prefix]

end FileTree

end Emend

import Emend.Proofs.Writing

/-!
# What replacing an entry leaves alone

A document is written by putting a file in the place of one entry. That entry was a file,
or a link that leads to one (`StandsFor`), so no directory comes or goes. Only a walk that
comes to this very entry can notice, and it comes to its end there.

* `SameShape.resolve`: if only the contents of files differ, all paths lead to the same places.
* `Supplanted.walk`: after the entry has been replaced, every walk goes as it went before,
  unless it was led through the entry to the file that the entry stood for.
* `Supplanted.shows_iff`: so a path that does not lead to that file shows what it showed.
* `Supplanted.leads`: a path that leads to the new file led to the file before.
* `Agree.of_file`, `Agree.of_not_heldBack`: a path that does not resolve to that file
  resolves as before, unless only the limit on links held it back.

The limit on links is why the last two differ. A link that is replaced by a file is one link
less, and a walk that used to be given up may arrive now, or be stopped at that file.
-/

namespace Emend.FileTree

variable {t : FileTree} {l r x y : Location} {p : Path}

/-! ## More links -/

/-- A walk that does not meet too many links goes the same way if one more is allowed. -/
theorem walk_succ {n : Nat} {a : Location} {steps : List SystemText}
    (h : t.walk n a steps ≠ .error .linkLoop) : t.walk (n + 1) a steps = t.walk n a steps := by
  induction n generalizing a steps with
  | zero =>
      cases hA : t.advance a steps with
      | arrived m => rw [walk_of_arrived hA, walk_of_arrived hA]
      | atLink d target rest => exact absurd (by simp only [walk, hA]) h
      | stopped f => rw [walk_of_stopped hA, walk_of_stopped hA]
  | succ n ih =>
      cases hA : t.advance a steps with
      | arrived m => rw [walk_of_arrived hA, walk_of_arrived hA]
      | atLink d target rest =>
          rw [walk_of_atLink hA] at h
          rw [walk_of_atLink hA, walk_of_atLink hA]
          by_cases he : target.isEmpty
          · rw [if_pos he, if_pos he]
          · rw [if_neg he] at h
            rw [if_neg he, if_neg he]
            exact ih h
      | stopped f => rw [walk_of_stopped hA, walk_of_stopped hA]

theorem walk_mono {n m : Nat} {a : Location} {steps : List SystemText}
    (h : t.walk n a steps ≠ .error .linkLoop) (hnm : n ≤ m) :
    t.walk m a steps = t.walk n a steps := by
  induction hnm with
  | refl => rfl
  | step _ ih => rw [walk_succ (ih ▸ h), ih]

/-- **Walks do not depend on how many links are allowed**, as long as they are enough. -/
theorem walk_agree {n m : Nat} {a : Location} {steps : List SystemText}
    (hn : t.walk n a steps ≠ .error .linkLoop) (hm : t.walk m a steps ≠ .error .linkLoop) :
    t.walk n a steps = t.walk m a steps := by
  rcases Nat.le_total n m with h | h
  · exact (walk_mono hn h).symm
  · exact walk_mono hm h

/-! ## Where a walk can end -/

theorem advance_up {a : Location} {rest : List SystemText} (hd : t.isDirectoryAt a) :
    t.advance a (".." :: rest) =
      if t.isDirectoryAt a.dropLast then t.advance a.dropLast rest
      else .stopped .notADirectory := by
  rw [advance, if_neg (by simp [hd]), if_neg (by simp)]
  exact if_pos rfl

theorem advance_of_not_directory {a : Location} {s : SystemText} {rest : List SystemText}
    (h : ¬ t.isDirectoryAt a) : t.advance a (s :: rest) = .stopped .notADirectory := by
  rw [advance, if_pos (by simpa using h)]

theorem isName_of_not {s : SystemText} (hidle : ¬ (s = "" ∨ s = ".")) (hup : s ≠ "..") : IsName s :=
  ⟨fun he => hidle (.inl he), fun he => hidle (.inr he), hup⟩

/-- Something stands at a location, and it is no link. -/
def Occupied (t : FileTree) (x : Location) : Prop :=
  ∃ e, t.get? x = some e ∧ ∀ target, e ≠ .link target

theorem Occupied.noLink (h : t.Occupied x) (target : Path) : t.get? x ≠ some (.link target) := by
  obtain ⟨e, he, hl⟩ := h
  intro ht
  exact hl target (Option.some.inj (he.symm.trans ht))

theorem occupied_of_directory {a : Location} (h : t.isDirectoryAt a) : t.Occupied a := by
  obtain ⟨mode, hm⟩ := isDirectoryAt_iff.mp h
  exact ⟨.directory mode, hm, by simp⟩

theorem advance_occupied {a : Location} {steps : List SystemText}
    (h : t.advance a steps = .arrived x) (ha : t.Occupied a) : t.Occupied x := by
  induction steps generalizing a with
  | nil =>
      cases h
      exact ha
  | cons s rest ih =>
      rw [advance] at h
      split at h
      · cases h
      · split at h
        · exact ih h ha
        · split at h
          · split at h
            · rename_i hd
              exact ih h (occupied_of_directory hd)
            · cases h
          · split at h
            · cases h
            · cases h
            · rename_i e hnl he
              exact ih h ⟨e, he, hnl⟩

/-- **A walk ends where something stands**, and never at a link, as it would have been led on. -/
theorem walk_occupied {n : Nat} {a : Location} {steps : List SystemText}
    (h : t.walk n a steps = .ok x) (ha : t.isDirectoryAt a) : t.Occupied x := by
  induction n generalizing a steps with
  | zero =>
      cases hA : t.advance a steps with
      | arrived m =>
          rw [walk_of_arrived hA] at h
          cases h
          exact advance_occupied hA (occupied_of_directory ha)
      | atLink d target rest => exact absurd h (by simp [walk, hA])
      | stopped f => exact absurd h (by simp [walk_of_stopped hA])
  | succ n ih =>
      cases hA : t.advance a steps with
      | arrived m =>
          rw [walk_of_arrived hA] at h
          cases h
          exact advance_occupied hA (occupied_of_directory ha)
      | atLink d target rest =>
          rw [walk_of_atLink hA] at h
          by_cases he : target.isEmpty
          · rw [if_pos he] at h
            cases h
          · rw [if_neg he] at h
            obtain ⟨s, more, hs⟩ := List.exists_cons_of_ne_nil (steps_ne_nil (by simpa using he))
            rw [hs, List.cons_append] at h
            exact ih h (isDirectoryAt_of_walk h)
      | stopped f => exact absurd h (by simp [walk_of_stopped hA])

/-- A walk that ends at a file cannot be continued. -/
theorem walk_past_file {n : Nat} {a : Location} {steps rest : List SystemText}
    (h : t.walk n a steps = .ok x) (hx : ¬ t.isDirectoryAt x) (hr : rest ≠ []) :
    t.walk n a (steps ++ rest) = .error .notADirectory := by
  obtain ⟨k, hk⟩ := walk_resume h
  obtain ⟨s, more, rfl⟩ := List.exists_cons_of_ne_nil hr
  rw [hk]
  exact walk_of_stopped (advance_of_not_directory hx) k

/-! ## Entries that stand for a file -/

/-- There is a file at a location. -/
def IsFileAt (t : FileTree) (l : Location) : Prop :=
  ∃ contents mode, t.get? l = some (.file contents mode)

/-- Walks that come to an entry end at a file: at the entry itself, or where it links to. -/
structure StandsFor (t : FileTree) (l r : Location) : Prop where
  led : l = r ∨ ∃ target, t.get? l = some (.link target) ∧ target.isEmpty = false
    ∧ ∃ n, t.walk n (startOf l.dropLast target) target.steps = .ok r
  file : t.IsFileAt r

theorem IsFileAt.not_directory (h : t.IsFileAt l) : ¬ t.isDirectoryAt l := by
  obtain ⟨contents, mode, hl⟩ := h
  simp [isDirectoryAt, hl, Entry.isDirectory]

/-- The root is a directory. -/
theorem ne_root_of_not_directory (h : ¬ t.isDirectoryAt l) : l ≠ [] := by
  rintro rfl
  exact h (by simp [isDirectoryAt, get?, Entry.isDirectory])

theorem IsFileAt.ne_root (h : t.IsFileAt l) : l ≠ [] := ne_root_of_not_directory h.not_directory

theorem StandsFor.entry (h : t.StandsFor l r) :
    t.IsFileAt l ∨ ∃ target, t.get? l = some (.link target) := by
  rcases h.led with rfl | ⟨target, ht, -⟩
  · exact .inl h.file
  · exact .inr ⟨target, ht⟩

theorem StandsFor.not_directory (h : t.StandsFor l r) : ¬ t.isDirectoryAt l := by
  rcases h.entry with hf | ⟨target, ht⟩
  · exact hf.not_directory
  · simp [isDirectoryAt, ht, Entry.isDirectory]

theorem StandsFor.ne_root (h : t.StandsFor l r) : l ≠ [] :=
  ne_root_of_not_directory h.not_directory

/-- An entry stands for one file at most. -/
theorem StandsFor.unique {r' : Location} (h : t.StandsFor l r) (h' : t.StandsFor l r') :
    r = r' := by
  rcases h.led with rfl | ⟨target, ht, -, n, hn⟩
  · rcases h'.led with rfl | ⟨target', ht', -⟩
    · rfl
    · obtain ⟨contents, mode, hl⟩ := h.file
      rw [hl] at ht'
      cases ht'
  · rcases h'.led with rfl | ⟨target', ht', -, m, hm⟩
    · obtain ⟨contents, mode, hl⟩ := h'.file
      rw [hl] at ht
      cases ht
    · rw [ht] at ht'
      cases ht'
      have hloop : ∀ k, (Except.ok k : Except Fault Location) ≠ .error .linkLoop := by simp
      have := walk_agree (hn ▸ hloop r) (hm ▸ hloop r')
      exact Except.ok.inj (hn.symm.trans (this.trans hm))

/-- **A path that leads to a file ends at an entry that stands for it.** -/
theorem EndsIn.standsFor {d : Location} {name : SystemText} (h : t.EndsIn p d name)
    (hres : t.resolve p = .ok r) (hf : t.IsFileAt r) : t.StandsFor (d ++ [name]) r := by
  obtain ⟨front, hs, hw⟩ := h.front
  have hall : t.walk linkLimit (startOf t.workingDirectory p) (front ++ [name]) = .ok r := by
    unfold resolve at hres
    split at hres
    · cases hres
    · rw [← hs]
      exact hres
  obtain ⟨k, hk⟩ := walk_resume hw
  have hlast : t.walk k d [name] = .ok r := (hk [name]).symm.trans hall
  refine ⟨?_, hf⟩
  rcases walk_name hlast h.isName with he | ⟨target, ht⟩
  · exact .inl he.symm
  · right
    have hA : t.advance d [name] = .atLink d target [] := by
      rw [advance_name h.isName h.directory, ht]
    cases k with
    | zero => exact absurd hlast (by simp [walk, hA])
    | succ k =>
        rw [walk_of_atLink hA] at hlast
        by_cases he : target.isEmpty
        · rw [if_pos he] at hlast
          cases hlast
        · rw [if_neg he, List.append_nil] at hlast
          exact ⟨target, ht, by simpa using he, k, by rw [List.dropLast_concat]; exact hlast⟩

/-! ## Trees of the same shape -/

/-- Two trees that differ in the contents of files at most. -/
structure SameShape (t t' : FileTree) : Prop where
  entry : ∀ k, t'.get? k = t.get? k ∨ (t.IsFileAt k ∧ t'.IsFileAt k)
  workingDirectory : t'.workingDirectory = t.workingDirectory

namespace SameShape

variable {t' t'' : FileTree}

theorem refl (t : FileTree) : t.SameShape t := ⟨fun _ => .inl rfl, rfl⟩

theorem trans (h : t.SameShape t') (h' : t'.SameShape t'') : t.SameShape t'' where
  entry := by
    intro k
    rcases h.entry k with he | ⟨hf, hf'⟩
    · rcases h'.entry k with he' | ⟨⟨c, m, hk⟩, hf''⟩
      · exact .inl (he'.trans he)
      · exact .inr ⟨⟨c, m, he.symm.trans hk⟩, hf''⟩
    · rcases h'.entry k with he' | ⟨-, hf''⟩
      · obtain ⟨c, m, hk⟩ := hf'
        exact .inr ⟨hf, ⟨c, m, he'.trans hk⟩⟩
      · exact .inr ⟨hf, hf''⟩
  workingDirectory := h'.workingDirectory.trans h.workingDirectory

/-- A file may be replaced. -/
theorem put (h : t.IsFileAt l) (contents : ByteArray) (mode : Nat) :
    t.SameShape (t.put l (.file contents mode)) where
  entry := by
    intro k
    by_cases hk : k = l
    · exact .inr ⟨hk ▸ h, contents, mode, hk ▸ get?_put_self t h.ne_root _⟩
    · exact .inl (get?_put_of_ne t hk _)
  workingDirectory := rfl

theorem isDirectoryAt (h : t.SameShape t') (k : Location) :
    t'.isDirectoryAt k = t.isDirectoryAt k := by
  rcases h.entry k with he | ⟨⟨c, m, hk⟩, ⟨c', m', hk'⟩⟩
  · rw [FileTree.isDirectoryAt, he, FileTree.isDirectoryAt]
  · simp [FileTree.isDirectoryAt, hk, hk', Entry.isDirectory]

theorem advance (h : t.SameShape t') (a : Location) (steps : List SystemText) :
    t'.advance a steps = t.advance a steps := by
  induction steps generalizing a with
  | nil => rfl
  | cons s rest ih =>
      simp only [FileTree.advance, h.isDirectoryAt, ih]
      -- a step asks whether there is a directory or a link; that it met a file is all it sees
      rcases h.entry (a ++ [s]) with he | ⟨⟨c, m, hk⟩, ⟨c', m', hk'⟩⟩
      · rw [he]
      · rw [hk, hk']

theorem walk (h : t.SameShape t') (n : Nat) (a : Location) (steps : List SystemText) :
    t'.walk n a steps = t.walk n a steps := by
  induction n generalizing a steps with
  | zero => simp only [FileTree.walk, h.advance]
  | succ n ih => simp only [FileTree.walk, h.advance, ih]

/-- **Every path leads to the same place in trees of the same shape.** -/
theorem resolve (h : t.SameShape t') (p : Path) : t'.resolve p = t.resolve p := by
  rw [FileTree.resolve, FileTree.resolve, h.workingDirectory, h.walk]

end SameShape

/-! ## Putting a file in the place of any other entry -/

/-- A file has come to a place where no directory was, and nothing else has changed. -/
structure Overwritten (t t' : FileTree) (l : Location) : Prop where
  notDirectory : ¬ t.isDirectoryAt l
  file : t'.IsFileAt l
  elsewhere : ∀ k, k ≠ l → t'.get? k = t.get? k
  workingDirectory : t'.workingDirectory = t.workingDirectory

theorem overwritten_put (h : ¬ t.isDirectoryAt l) (contents : ByteArray) (mode : Nat) :
    t.Overwritten (t.put l (.file contents mode)) l where
  notDirectory := h
  file := ⟨contents, mode, get?_put_self t (ne_root_of_not_directory h) _⟩
  elsewhere := fun _ hk => get?_put_of_ne t hk _
  workingDirectory := rfl

namespace Overwritten

variable {t' : FileTree}

/-- No directory has come or gone. -/
theorem isDirectoryAt (h : t.Overwritten t' l) (k : Location) :
    t'.isDirectoryAt k = t.isDirectoryAt k := by
  by_cases hk : k = l
  · have hold : t.isDirectoryAt l = false := by simpa using h.notDirectory
    have hnew : t'.isDirectoryAt l = false := by simpa using h.file.not_directory
    rw [hk, hold, hnew]
  · rw [FileTree.isDirectoryAt, FileTree.isDirectoryAt, h.elsewhere k hk]

/-- Up to the next link, only a walk that comes to the entry can notice, if nothing stood there
or a link. -/
theorem advance (h : t.Overwritten t' l) (a : Location) (steps : List SystemText) :
    t'.advance a steps = t.advance a steps
    ∨ (t.get? l = none ∧ t.advance a steps = .stopped .notFound)
    ∨ ∃ target rest, t.get? l = some (.link target)
      ∧ t.advance a steps = .atLink l.dropLast target rest
      ∧ t'.advance a steps = t'.advance l rest := by
  induction steps generalizing a with
  | nil => exact .inl rfl
  | cons s rest ih =>
      by_cases hd : t.isDirectoryAt a
      · have hd' := (h.isDirectoryAt a).trans hd
        by_cases hidle : s = "" ∨ s = "."
        · rw [advance_idle hidle hd, advance_idle hidle hd']
          exact ih a
        · by_cases hup : s = ".."
          · rw [hup, advance_up hd, advance_up hd', h.isDirectoryAt]
            split
            · exact ih a.dropLast
            · exact .inl rfl
          · have hn := isName_of_not hidle hup
            rw [advance_name hn hd, advance_name hn hd']
            by_cases hl : a ++ [s] = l
            · obtain ⟨contents, mode, hf'⟩ := h.file
              rw [hl, hf']
              cases hg : t.get? l with
              | none => exact .inr (.inl ⟨rfl, rfl⟩)
              | some e =>
                  cases e with
                  | directory m => exact absurd (isDirectoryAt_iff.mpr ⟨m, hg⟩) h.notDirectory
                  | file c m =>
                      -- a file is left for no other place, neither the old one nor the new one
                      have hrest := ih l
                      simp only [hg] at hrest
                      rcases hrest with he | ⟨hnone, -⟩ | ⟨target, rest, ht, -⟩
                      · exact .inl he
                      · cases hnone
                      · cases ht
                  | link target =>
                      right
                      right
                      exact ⟨target, rest, rfl, by rw [← hl, List.dropLast_concat], rfl⟩
            · rw [h.elsewhere _ hl]
              cases t.get? (a ++ [s]) with
              | none => exact .inl rfl
              | some e =>
                  cases e with
                  | directory m => exact ih (a ++ [s])
                  | file c m => exact ih (a ++ [s])
                  | link target => exact .inl rfl
      · left
        have hd' : ¬ t'.isDirectoryAt a := by
          rw [h.isDirectoryAt]
          exact hd
        rw [advance_of_not_directory hd, advance_of_not_directory hd']

end Overwritten

/-! ## Putting a file in the place of such an entry -/

/-- A file has taken the place of an entry that stood for one, and nothing else has changed. -/
structure Supplanted (t t' : FileTree) (l r : Location) : Prop where
  stood : t.StandsFor l r
  file : t'.IsFileAt l
  elsewhere : ∀ k, k ≠ l → t'.get? k = t.get? k
  workingDirectory : t'.workingDirectory = t.workingDirectory

theorem StandsFor.supplanted (h : t.StandsFor l r) (contents : ByteArray) (mode : Nat) :
    t.Supplanted (t.put l (.file contents mode)) l r where
  stood := h
  file := ⟨contents, mode, get?_put_self t h.ne_root _⟩
  elsewhere := fun _ hk => get?_put_of_ne t hk _
  workingDirectory := rfl

namespace Supplanted

variable {t' : FileTree}

/-- What stood for a file was no directory. -/
theorem overwritten (h : t.Supplanted t' l r) : t.Overwritten t' l where
  notDirectory := h.stood.not_directory
  file := h.file
  elsewhere := h.elsewhere
  workingDirectory := h.workingDirectory

/-- No directory has come or gone. -/
theorem isDirectoryAt (h : t.Supplanted t' l r) (k : Location) :
    t'.isDirectoryAt k = t.isDirectoryAt k :=
  h.overwritten.isDirectoryAt k

/-- Up to the next link, only a walk that comes to the entry can notice, if that was a link. -/
theorem advance (h : t.Supplanted t' l r) (a : Location) (steps : List SystemText) :
    t'.advance a steps = t.advance a steps
    ∨ ∃ target rest, t.get? l = some (.link target)
      ∧ t.advance a steps = .atLink l.dropLast target rest
      ∧ t'.advance a steps = t'.advance l rest := by
  rcases h.overwritten.advance a steps with he | ⟨hnone, -⟩ | hlink
  · exact .inl he
  · rcases h.stood.entry with ⟨c, m, hf⟩ | ⟨target, ht⟩
    · rw [hnone] at hf
      cases hf
    · rw [hnone] at ht
      cases ht
  · exact .inr hlink

/-- The end of a walk that comes to the entry, when that was a link. -/
theorem walk_through (h : t.Supplanted t' l r) {a : Location} {steps rest : List SystemText}
    {target : Path} (ht : t.get? l = some (.link target))
    (hA : t.advance a steps = .atLink l.dropLast target rest)
    (hA' : t'.advance a steps = t'.advance l rest) (n : Nat) :
    (t'.walk n a steps = .ok l ∧ ∃ m, t.walk m a steps = .ok r)
    ∨ (t'.walk n a steps = .error .notADirectory
        ∧ ∃ m, t.walk m a steps = .error .notADirectory) := by
  obtain ⟨he, m, hm⟩ : target.isEmpty = false
      ∧ ∃ m, t.walk m (startOf l.dropLast target) target.steps = .ok r := by
    rcases h.stood.led with rfl | ⟨target', ht', he, hm⟩
    · obtain ⟨contents, mode, hf⟩ := h.stood.file
      rw [hf] at ht
      cases ht
    · rw [ht] at ht'
      cases ht'
      exact ⟨he, hm⟩
  have hmore : t.walk (m + 1) a steps =
      t.walk m (startOf l.dropLast target) (target.steps ++ rest) := by
    rw [walk_of_atLink hA, if_neg (by simp [he])]
  cases rest with
  | nil =>
      left
      rw [List.append_nil] at hmore
      exact ⟨walk_of_arrived hA' n, m + 1, hmore.trans hm⟩
  | cons s rest =>
      right
      have hstop : t'.advance l (s :: rest) = .stopped .notADirectory :=
        advance_of_not_directory h.file.not_directory
      exact ⟨walk_of_stopped (hA'.trans hstop) n, m + 1,
        hmore.trans (walk_past_file hm h.stood.file.not_directory (by simp))⟩

/--
**A walk goes as before**, unless it comes to the entry. Then it ends there, where it went
on to the file that the entry stood for, or it is stopped there, as it was stopped at that
file. It may have been given up before it came so far, so what it did before is said of
the walk with enough links.
-/
theorem walk (h : t.Supplanted t' l r) (n : Nat) (a : Location) (steps : List SystemText) :
    t'.walk n a steps = t.walk n a steps
    ∨ (t'.walk n a steps = .ok l ∧ ∃ m, t.walk m a steps = .ok r)
    ∨ (t'.walk n a steps = .error .notADirectory
        ∧ ∃ m, t.walk m a steps = .error .notADirectory) := by
  induction n generalizing a steps with
  | zero =>
      rcases h.advance a steps with hA | ⟨target, rest, ht, hA, hA'⟩
      · left
        simp only [FileTree.walk, hA]
      · exact .inr (h.walk_through ht hA hA' 0)
  | succ n ih =>
      rcases h.advance a steps with hA | ⟨target, rest, ht, hA, hA'⟩
      · cases hB : t.advance a steps with
        | arrived m =>
            left
            rw [walk_of_arrived (hA.trans hB), walk_of_arrived hB]
        | stopped f =>
            left
            rw [walk_of_stopped (hA.trans hB), walk_of_stopped hB]
        | atLink d target rest =>
            rw [walk_of_atLink (hA.trans hB), walk_of_atLink hB]
            by_cases he : target.isEmpty
            · rw [if_pos he, if_pos he]
              exact .inl rfl
            · rw [if_neg he, if_neg he]
              have hmore : ∀ m, t.walk (m + 1) a steps =
                  t.walk m (startOf d target) (target.steps ++ rest) := by
                intro m
                rw [walk_of_atLink hB, if_neg he]
              rcases ih (startOf d target) (target.steps ++ rest) with
                hs | ⟨hl, m, hm⟩ | ⟨hl, m, hm⟩
              · exact .inl hs
              · exact .inr (.inl ⟨hl, m + 1, (hmore m).trans hm⟩)
              · exact .inr (.inr ⟨hl, m + 1, (hmore m).trans hm⟩)
      · exact .inr (h.walk_through ht hA hA' (n + 1))

/-- **If the entry was a file itself, no walk notices**: the tree has kept its shape. -/
theorem sameShape (h : t.Supplanted t' l l) : t.SameShape t' where
  entry := by
    intro k
    by_cases hk : k = l
    · exact .inr ⟨hk ▸ h.stood.file, hk ▸ h.file⟩
    · exact .inl (h.elsewhere k hk)
  workingDirectory := h.workingDirectory

end Supplanted

/-! ## Paths -/

/-- A path leads to a location, however many links there are on the way. -/
def Leads (t : FileTree) (p : Path) (x : Location) : Prop :=
  p.isEmpty = false ∧ ∃ n, t.walk n (startOf t.workingDirectory p) p.steps = .ok x

/-- A path resolves to a location, and an entry stands there. -/
structure Shows (t : FileTree) (p : Path) (x : Location) (e : Entry) : Prop where
  resolves : t.resolve p = .ok x
  entry : t.get? x = some e

/-- A path that shows a file is read as what the file holds, if that is a text. -/
theorem Shows.readContents {x : Location} {contents : ByteArray} {mode : Nat}
    (h : t.Shows p x (.file contents mode)) :
    t.readText p = (String.fromUTF8? contents).elim (.error .invalidText) .ok := by
  unfold FileTree.readText
  rw [h.resolves]
  simp only [bind, Except.bind, h.entry]
  cases hc : String.fromUTF8? contents <;> rfl

theorem Shows.readText_eq_ok_iff {x : Location} {contents : ByteArray} {mode : Nat} {text : String}
    (h : t.Shows p x (.file contents mode)) :
    t.readText p = .ok text ↔ String.fromUTF8? contents = some text := by
  rw [h.readContents]
  cases String.fromUTF8? contents <;> simp

theorem Shows.readText_eq_error_iff {x : Location} {contents : ByteArray} {mode : Nat}
    {fault : Fault} (h : t.Shows p x (.file contents mode)) :
    t.readText p = .error fault ↔ fault = .invalidText ∧ String.fromUTF8? contents = none := by
  rw [h.readContents]
  cases String.fromUTF8? contents <;> simp [eq_comm]

/-- A path that shows the file of a text can be read. -/
theorem Shows.readText {x : Location} {text : String} {mode : Nat}
    (h : t.Shows p x (.file text.toUTF8 mode)) : t.readText p = .ok text :=
  h.readText_eq_ok_iff.mpr (fromUTF8?_toByteArray text)

theorem Shows.mode? {x : Location} {contents : ByteArray} {mode : Nat}
    (h : t.Shows p x (.file contents mode)) : t.mode? p = some mode := by
  simp [FileTree.mode?, h.resolves, h.entry, Entry.mode?]

/-- Only the limit on links holds a path back: with more links it would lead to a location, or
be stopped at a file. -/
def HeldBack (t : FileTree) (p : Path) (x : Location) : Prop :=
  t.resolve p = .error .linkLoop ∧ ∃ n,
    t.walk n (startOf t.workingDirectory p) p.steps = .ok x
    ∨ t.walk n (startOf t.workingDirectory p) p.steps = .error .notADirectory

theorem resolve_of_nonempty (h : p.isEmpty = false) :
    t.resolve p = t.walk linkLimit (startOf t.workingDirectory p) p.steps := by
  rw [resolve, if_neg (by simp [h])]

theorem leads_of_resolve (h : t.resolve p = .ok x) : t.Leads p x := by
  by_cases he : p.isEmpty
  · rw [resolve, if_pos he] at h
    cases h
  · have he : p.isEmpty = false := by simpa using he
    exact ⟨he, linkLimit, (resolve_of_nonempty he).symm.trans h⟩

/-- Two walks along a path come to the same end, unless one of them is given up. -/
theorem walk_end_unique {n m : Nat} {a : Location} {steps : List SystemText}
    {e e' : Except Fault Location} (h : t.walk n a steps = e) (h' : t.walk m a steps = e')
    (he : e ≠ .error .linkLoop) (he' : e' ≠ .error .linkLoop) : e = e' := by
  rw [← h, ← h']
  exact walk_agree (h ▸ he) (h' ▸ he')

theorem Leads.unique (h : t.Leads p x) (h' : t.Leads p y) : x = y := by
  obtain ⟨-, n, hn⟩ := h
  obtain ⟨-, m, hm⟩ := h'
  exact Except.ok.inj (walk_end_unique hn hm (by simp) (by simp))

theorem Leads.noLink (h : t.Leads p x) (target : Path) : t.get? x ≠ some (.link target) := by
  obtain ⟨he, n, hn⟩ := h
  obtain ⟨s, rest, hs⟩ := List.exists_cons_of_ne_nil (steps_ne_nil he)
  rw [hs] at hn
  exact (walk_occupied hn (isDirectoryAt_of_walk hn)).noLink target

/-- A path that leads to an entry that stands for a file leads to that file. -/
theorem StandsFor.eq_of_leads (h : t.StandsFor l r) (hp : t.Leads p l) : l = r := by
  rcases h.led with he | ⟨target, ht, -⟩
  · exact he
  · exact absurd ht (hp.noLink target)

namespace Supplanted

variable {t' : FileTree}

theorem resolve (h : t.Supplanted t' l r) (p : Path) :
    t'.resolve p = t.resolve p
    ∨ (t'.resolve p = .ok l ∧ t.Leads p r)
    ∨ (t'.resolve p = .error .notADirectory ∧ p.isEmpty = false
        ∧ ∃ m, t.walk m (startOf t.workingDirectory p) p.steps = .error .notADirectory) := by
  by_cases he : p.isEmpty
  · left
    rw [FileTree.resolve, FileTree.resolve, if_pos he, if_pos he]
  · have he : p.isEmpty = false := by simpa using he
    rw [resolve_of_nonempty he, resolve_of_nonempty he, h.workingDirectory]
    rcases h.walk linkLimit (startOf t.workingDirectory p) p.steps with hs | ⟨hl, hm⟩ | ⟨hl, hm⟩
    · exact .inl hs
    · exact .inr (.inl ⟨hl, he, hm⟩)
    · exact .inr (.inr ⟨hl, he, hm⟩)

/-- **A path leads where it led before, or to the new file**, if it led to the old one. -/
theorem leads (h : t.Supplanted t' l r) (hp : t'.Leads p x) :
    t.Leads p x ∨ (x = l ∧ t.Leads p r) := by
  obtain ⟨he, n, hn⟩ := hp
  rw [h.workingDirectory] at hn
  rcases h.walk n (startOf t.workingDirectory p) p.steps with hs | ⟨hl, hm⟩ | ⟨hl, hm⟩
  · exact .inl ⟨he, n, hs.symm.trans hn⟩
  · exact .inr ⟨Except.ok.inj (hn.symm.trans hl), he, hm⟩
  · rw [hl] at hn
    cases hn

/-- Paths that lead to one place have led to one place before. -/
theorem leads_together {q : Path} (h : t.Supplanted t' l r) (hp : t'.Leads p x)
    (hq : t'.Leads q x) : ∃ y, t.Leads p y ∧ t.Leads q y := by
  rcases h.leads hp with hp' | ⟨rfl, hp'⟩
  · rcases h.leads hq with hq' | ⟨rfl, hq'⟩
    · exact ⟨x, hp', hq'⟩
    · exact ⟨r, h.stood.eq_of_leads hp' ▸ hp', hq'⟩
  · rcases h.leads hq with hq' | ⟨-, hq'⟩
    · exact ⟨r, hp', h.stood.eq_of_leads hq' ▸ hq'⟩
    · exact ⟨r, hp', hq'⟩

/-- A path that did not lead to the file keeps away from the entry that has been replaced. -/
theorem ne_of_resolve (h : t.Supplanted t' l r) (hp : t.resolve p ≠ .ok r)
    (hx : t.resolve p = .ok x) : x ≠ l := by
  rintro rfl
  exact hp (h.stood.eq_of_leads (leads_of_resolve hx) ▸ hx)

/-- **What a path shows stays as it was**, if the path does not lead to the file. -/
theorem shows_iff {e : Entry} (h : t.Supplanted t' l r) (hp : ¬ t.Leads p r) :
    t'.Shows p x e ↔ t.Shows p x e := by
  have hresolve : t'.resolve p = .ok x ↔ t.resolve p = .ok x := by
    rcases h.resolve p with hs | ⟨-, hl⟩ | ⟨hl, -, m, hm⟩
    · rw [hs]
    · exact absurd hl hp
    · rw [hl]
      refine ⟨fun hx => (by cases hx), fun hx => ?_⟩
      obtain ⟨-, n, hn⟩ := leads_of_resolve hx
      exact (walk_end_unique hm hn (by simp) (by simp))
  have hentry : t.resolve p = .ok x → t'.get? x = t.get? x := by
    intro hx
    exact h.elsewhere x (h.ne_of_resolve (fun hr => hp (leads_of_resolve hr)) hx)
  constructor
  · rintro ⟨hx, he⟩
    have hx' := hresolve.mp hx
    exact ⟨hx', hentry hx' ▸ he⟩
  · rintro ⟨hx, he⟩
    exact ⟨hresolve.mpr hx, (hentry hx).trans he⟩

/-- The file that a path ends at is found in the same way. -/
theorem endsIn {d : Location} {name : SystemText} (h : t.Supplanted t' l r)
    (hp : t.EndsIn p d name) : t'.EndsIn p d name := by
  obtain ⟨front, hs, hw⟩ := hp.front
  refine ⟨⟨front, hs, ?_⟩, hp.isName, (h.isDirectoryAt d).trans hp.directory, ?_⟩
  · rw [h.workingDirectory]
    rcases h.walk linkLimit (startOf t.workingDirectory p) front with he | ⟨-, m, hm⟩ | ⟨-, m, hm⟩
    · exact he.trans hw
    · have : d = r := Except.ok.inj (walk_end_unique hw hm (by simp) (by simp))
      exact absurd hp.directory (this ▸ h.stood.file.not_directory)
    · exact absurd (walk_end_unique hw hm (by simp) (by simp)) (by simp)
  · rw [h.workingDirectory]
    exact (h.isDirectoryAt _).trans hp.start

end Supplanted

/-! ## Trees that agree on a path -/

/-- Two trees give a path the same end, and the same entry there. -/
structure Agree (t t' : FileTree) (p : Path) : Prop where
  resolve : t'.resolve p = t.resolve p
  entry : ∀ x, t.resolve p = .ok x → t'.get? x = t.get? x

variable {t' : FileTree}

theorem Agree.readText (h : t.Agree t' p) : t'.readText p = t.readText p := by
  unfold FileTree.readText
  rw [h.resolve]
  cases hx : t.resolve p with
  | error f => rfl
  | ok x =>
      simp only [bind, Except.bind]
      rw [h.entry x hx]

theorem Agree.mode? (h : t.Agree t' p) : t'.mode? p = t.mode? p := by
  unfold FileTree.mode?
  rw [h.resolve]
  cases hx : t.resolve p with
  | error f => rfl
  | ok x =>
      simp only
      rw [h.entry x hx]

theorem Agree.of_resolve (h : t.Supplanted t' l r) (hp : t.resolve p ≠ .ok r)
    (hres : t'.resolve p = t.resolve p) : t.Agree t' p :=
  ⟨hres, fun x hx => h.elsewhere x (h.ne_of_resolve hp hx)⟩

/-- **If the entry was a file itself**, the trees agree on all paths to other places. -/
theorem Agree.of_file (h : t.Supplanted t' l l) (hp : t.resolve p ≠ .ok l) : t.Agree t' p :=
  .of_resolve h hp (h.sameShape.resolve p)

/-- A path that is not held back by the limit alone resolves to the end of its walk. -/
theorem resolve_of_walk {n : Nat} {e : Except Fault Location}
    (hloop : t.resolve p ≠ .error .linkLoop) (hp : p.isEmpty = false)
    (hn : t.walk n (startOf t.workingDirectory p) p.steps = e) (he : e ≠ .error .linkLoop) :
    t.resolve p = e :=
  walk_end_unique (resolve_of_nonempty hp).symm hn hloop he

/-- **If the entry was a link**, the limit on links must not be what holds the path back. -/
theorem Agree.of_not_heldBack (h : t.Supplanted t' l r) (hp : t.resolve p ≠ .ok r)
    (hb : ¬ t.HeldBack p r) : t.Agree t' p := by
  refine .of_resolve h hp ?_
  rcases h.resolve p with he | ⟨-, he, m, hm⟩ | ⟨hl, he, m, hm⟩
  · exact he
  · have hloop : t.resolve p ≠ .error .linkLoop := fun hloop => hb ⟨hloop, m, .inl hm⟩
    exact absurd (resolve_of_walk hloop he hm (by simp)) hp
  · have hloop : t.resolve p ≠ .error .linkLoop := fun hloop => hb ⟨hloop, m, .inr hm⟩
    exact hl.trans (resolve_of_walk hloop he hm (by simp)).symm

/-- Replacing the entry holds no other path back. -/
theorem Supplanted.not_heldBack (h : t.Supplanted t' l r) (ha : t.Agree t' p)
    (hr : l = r ∨ ¬ t.HeldBack p r) (hx : ¬ t.HeldBack p x) : ¬ t'.HeldBack p x := by
  rintro ⟨hloop, n, hn⟩
  rw [ha.resolve] at hloop
  rw [h.workingDirectory] at hn
  rcases hr with rfl | hr
  · rw [h.sameShape.walk] at hn
    exact hx ⟨hloop, n, hn⟩
  · rcases h.walk n (startOf t.workingDirectory p) p.steps with he | ⟨-, m, hm⟩ | ⟨-, m, hm⟩
    · rw [he] at hn
      exact hx ⟨hloop, n, hn⟩
    · exact hr ⟨hloop, m, .inl hm⟩
    · exact hr ⟨hloop, m, .inr hm⟩

end Emend.FileTree

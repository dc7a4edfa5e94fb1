import Emend.FileTree.Replace

/-!
# Where walks lead

What is known of a path once it has been walked to its end. Three facts, each
about walks along all lists of steps.

* `walk_cut`: a walk that arrives can be cut behind any of its steps; what is left
  goes on from one place, with the links that are still allowed, whatever is left.
* `walk_visible`: empty steps and dots may be left out of a walk that arrives.
* `walk_real`: a walk from a real location ends at a real location, and the path of
  a real location leads to it (`resolve_ofLocation`). A location is *real* if nothing
  but directories lead to it and what stands there is no link.

Nothing is assumed of the tree: entries may lie below files, and the working
directory need not exist.
-/

namespace Emend

/-- Does a step leave a walk where it is? -/
def isIdleStep (s : SystemText) : Bool := s = "" || s = "."

/-- Is the text a name that an entry can have, rather than a step of another kind? -/
def IsName (s : SystemText) : Prop := s ≠ "" ∧ s ≠ "." ∧ s ≠ ".."

theorem IsName.not_idle {s : SystemText} (h : IsName s) : ¬ (s = "" ∨ s = ".") := by
  rintro (h' | h')
  · exact h.1 h'
  · exact h.2.1 h'

theorem Path.isAbsolute_ofLocation (l : Location) : (ofLocation l).isAbsolute := by
  cases l with
  | nil => rfl
  | cons name rest => rfl

namespace FileTree

variable {t : FileTree}

/-! ## One step -/

theorem advance_idle {l : Location} {s : SystemText} {rest : List SystemText} (hs : s = "" ∨ s = ".")
    (hd : t.isDirectoryAt l) : t.advance l (s :: rest) = t.advance l rest := by
  rw [advance, if_neg (by simp [hd]), if_pos hs]

theorem advance_name {l : Location} {s : SystemText} {rest : List SystemText} (hs : IsName s)
    (hd : t.isDirectoryAt l) :
    t.advance l (s :: rest) =
      match t.get? (l ++ [s]) with
      | none => .stopped .notFound
      | some (.link target) => .atLink l target rest
      | some _ => t.advance (l ++ [s]) rest := by
  rw [advance, if_neg (by simp [hd]), if_neg hs.not_idle]
  exact if_neg hs.2.2

/-- Whatever does not stop at once starts in a directory. -/
theorem isDirectoryAt_of_advance {l : Location} {s : SystemText} {rest : List SystemText}
    (h : ∀ f, t.advance l (s :: rest) ≠ .stopped f) : t.isDirectoryAt l := by
  by_cases hd : t.isDirectoryAt l
  · exact hd
  · exact absurd (by rw [advance, if_pos (by simp [hd])]) (h .notADirectory)

/-! ## Walks can be cut -/

/-- Go on with more steps from where a walk has come to. -/
def andThen (t : FileTree) (more : List SystemText) : Advance → Advance
  | .arrived l => t.advance l more
  | .atLink directory target rest => .atLink directory target (rest ++ more)
  | .stopped f => .stopped f

theorem advance_append (l : Location) (a b : List SystemText) :
    t.advance l (a ++ b) = t.andThen b (t.advance l a) := by
  induction a generalizing l with
  | nil => rfl
  | cons s a ih =>
      simp only [List.cons_append, advance]
      split
      · rfl
      · split
        · exact ih l
        · split
          · split
            · exact ih l.dropLast
            · rfl
          · split
            · rfl
            · rfl
            · exact ih (l ++ [s])

/-- A walk is determined by how far it comes without following a link. -/
theorem walk_congr {l l' : Location} {a b : List SystemText} (h : t.advance l a = t.advance l' b)
    (n : Nat) : t.walk n l a = t.walk n l' b := by
  cases n with
  | zero => simp only [walk, h]
  | succ n => simp only [walk, h]

theorem walk_of_arrived {l m : Location} {a : List SystemText} (h : t.advance l a = .arrived m)
    (n : Nat) : t.walk n l a = .ok m := by
  cases n with
  | zero => simp only [walk, h]
  | succ n => simp only [walk, h]

theorem walk_of_stopped {l : Location} {a : List SystemText} {f : Fault}
    (h : t.advance l a = .stopped f) (n : Nat) : t.walk n l a = .error f := by
  cases n with
  | zero => simp only [walk, h]
  | succ n => simp only [walk, h]

theorem walk_of_atLink {l d : Location} {a rest : List SystemText} {target : Path}
    (h : t.advance l a = .atLink d target rest) (n : Nat) :
    t.walk (n + 1) l a =
      if target.isEmpty then .error .notFound
      else t.walk n (startOf d target) (target.steps ++ rest) := by
  simp only [walk, h]

/--
**A walk that arrives can be cut behind any of its steps.** The rest goes on from
one location with `k` links, and it does so for every rest.
-/
theorem walk_cut {n : Nat} {l r : Location} {a b : List SystemText}
    (h : t.walk n l (a ++ b) = .ok r) :
    ∃ m k, ∀ c, t.walk n l (a ++ c) = t.walk k m c := by
  induction n generalizing l a with
  | zero =>
      cases hA : t.advance l a with
      | arrived m =>
          refine ⟨m, 0, fun c => walk_congr ?_ 0⟩
          rw [advance_append, hA]
          rfl
      | atLink d target rest =>
          rw [walk, advance_append, hA] at h
          exact absurd h (by simp [andThen])
      | stopped f =>
          rw [walk_of_stopped (f := f) (by rw [advance_append, hA]; rfl)] at h
          exact absurd h (by simp)
  | succ n ih =>
      cases hA : t.advance l a with
      | arrived m =>
          refine ⟨m, n + 1, fun c => walk_congr ?_ (n + 1)⟩
          rw [advance_append, hA]
          rfl
      | atLink d target rest =>
          have hc : ∀ c, t.advance l (a ++ c) = .atLink d target (rest ++ c) := by
            intro c
            rw [advance_append, hA]
            rfl
          rw [walk_of_atLink (hc b)] at h
          by_cases he : target.isEmpty
          · rw [if_pos he] at h
            exact absurd h (by simp)
          · rw [if_neg he, ← List.append_assoc] at h
            obtain ⟨m, k, hk⟩ := ih h
            refine ⟨m, k, fun c => ?_⟩
            rw [walk_of_atLink (hc c), if_neg he, ← List.append_assoc]
            exact hk c
      | stopped f =>
          rw [walk_of_stopped (f := f) (by rw [advance_append, hA]; rfl)] at h
          exact absurd h (by simp)

/-- A walk that has arrived goes on from there, with the links that are still allowed. -/
theorem walk_resume {n : Nat} {l m : Location} {a : List SystemText} (h : t.walk n l a = .ok m) :
    ∃ k, ∀ c, t.walk n l (a ++ c) = t.walk k m c := by
  obtain ⟨m', k, hk⟩ := walk_cut (a := a) (b := []) (by rw [List.append_nil, h])
  have hm : m' = m := by
    have h0 := hk []
    rw [List.append_nil, h, walk_of_arrived rfl k] at h0
    exact (Except.ok.inj h0).symm
  exact ⟨k, hm ▸ hk⟩

/-- A walk that arrives after a step has started in a directory. -/
theorem isDirectoryAt_of_walk {n : Nat} {l r : Location} {s : SystemText} {rest : List SystemText}
    (h : t.walk n l (s :: rest) = .ok r) : t.isDirectoryAt l := by
  apply isDirectoryAt_of_advance
  intro f hf
  rw [walk_of_stopped hf] at h
  exact absurd h (by simp)

/-! ## Idle steps -/

/-- The steps that are not idle. -/
def visible (steps : List SystemText) : List SystemText := steps.filter (!isIdleStep ·)

/-- **Idle steps may be left out of a walk that arrives.** -/
theorem walk_visible {n : Nat} {l r : Location} {steps : List SystemText}
    (h : t.walk n l steps = .ok r) : t.walk n l (visible steps) = .ok r := by
  induction steps generalizing n l with
  | nil => exact h
  | cons s rest ih =>
      by_cases hs : isIdleStep s
      · have hi : s = "" ∨ s = "." := by simpa [isIdleStep] using hs
        rw [walk_congr (advance_idle hi (isDirectoryAt_of_walk h))] at h
        have hv : visible (s :: rest) = visible rest := by simp [visible, hs]
        rw [hv]
        exact ih h
      · have hv : visible (s :: rest) = [s] ++ visible rest := by simp [visible, hs]
        obtain ⟨m, k, hk⟩ := walk_cut (a := [s]) (b := rest) h
        rw [hv, hk]
        exact ih ((hk rest).symm.trans h)

/-! ## Real locations -/

/-- Nothing but directories leads to a location, and no link stands there. -/
structure Real (t : FileTree) (l : Location) : Prop where
  /-- Its names are names. -/
  names : ∀ s ∈ l, IsName s
  /-- There is a directory at every place above it. -/
  above : ∀ k, k <+: l → k ≠ l → t.isDirectoryAt k
  /-- Something stands there that is no link. -/
  here : ∃ e, t.get? l = some e ∧ ∀ target, e ≠ .link target

theorem isDirectoryAt_iff {l : Location} :
    t.isDirectoryAt l ↔ ∃ mode, t.get? l = some (.directory mode) := by
  unfold isDirectoryAt
  constructor
  · intro h
    cases hg : t.get? l with
    | none => simp [hg] at h
    | some e =>
        cases e with
        | directory mode => exact ⟨mode, rfl⟩
        | file contents mode => simp [hg, Entry.isDirectory] at h
        | link target => simp [hg, Entry.isDirectory] at h
  · rintro ⟨mode, h⟩
    simp [h, Entry.isDirectory]

/-- What stands on the way to a real location is no link. -/
theorem Real.entry {l k : Location} (h : t.Real l) (hk : k <+: l) :
    ∃ e, t.get? k = some e ∧ ∀ target, e ≠ .link target := by
  by_cases he : k = l
  · exact he ▸ h.here
  · obtain ⟨mode, hm⟩ := isDirectoryAt_iff.mp (h.above k hk he)
    exact ⟨_, hm, by simp⟩

theorem real_root : t.Real [] where
  names := by simp
  above := by
    intro k hk hne
    exact absurd (List.prefix_nil.mp hk) hne
  here := ⟨.directory directoryMode, by simp [get?], by simp⟩

theorem Real.dropLast {l : Location} (h : t.Real l) : t.Real l.dropLast where
  names := fun s hs => h.names s (l.dropLast_sublist.mem hs)
  above := by
    intro k hk hne
    refine h.above k (hk.trans l.dropLast_prefix) fun he => hne ?_
    subst he
    exact hk.eq_of_length_le (by simp)
  here := h.entry l.dropLast_prefix

theorem Real.snoc {l : Location} {s : SystemText} {e : Entry} (h : t.Real l)
    (hd : t.isDirectoryAt l) (hs : IsName s) (he : t.get? (l ++ [s]) = some e)
    (hl : ∀ target, e ≠ .link target) : t.Real (l ++ [s]) where
  names := by
    intro s' hs'
    rcases List.mem_append.mp hs' with h' | h'
    · exact h.names s' h'
    · rw [List.mem_singleton.mp h']
      exact hs
  above := by
    intro k hk hne
    rcases List.prefix_concat_iff.mp hk with h' | h'
    · exact absurd h' hne
    · by_cases hkl : k = l
      · exact hkl ▸ hd
      · exact h.above k h' hkl
  here := ⟨e, he, hl⟩

/-- Has a walk come to a real location, or to a link in one? -/
def IsReal (t : FileTree) : Advance → Prop
  | .arrived l => t.Real l
  | .atLink directory _ _ => t.Real directory
  | .stopped _ => True

theorem advance_real {l : Location} (h : t.Real l) (steps : List SystemText) :
    t.IsReal (t.advance l steps) := by
  induction steps generalizing l with
  | nil => exact h
  | cons s rest ih =>
      rw [advance]
      split
      · trivial
      · rename_i hd
        split
        · exact ih h
        · rename_i hidle
          split
          · split
            · exact ih h.dropLast
            · trivial
          · rename_i hup
            have hs : IsName s :=
              ⟨fun he => hidle (.inl he), fun he => hidle (.inr he), hup⟩
            split
            · trivial
            · exact h
            · rename_i e hnl he
              exact ih (h.snoc (by simpa using hd) hs he fun target ht => hnl target ht)

theorem real_startOf {l : Location} (h : t.Real l) (p : Path) : t.Real (startOf l p) := by
  unfold startOf
  split
  · exact real_root
  · exact h

/-- **A walk from a real location ends at a real location.** -/
theorem walk_real {n : Nat} {l r : Location} {steps : List SystemText} (hl : t.Real l)
    (h : t.walk n l steps = .ok r) : t.Real r := by
  induction n generalizing l steps with
  | zero =>
      have hA := advance_real hl steps
      rw [walk] at h
      split at h
      · rename_i m hm
        rw [hm] at hA
        cases h
        exact hA
      · cases h
      · cases h
  | succ n ih =>
      have hA := advance_real hl steps
      rw [walk] at h
      split at h
      · rename_i m hm
        rw [hm] at hA
        cases h
        exact hA
      · rename_i d target rest hm
        rw [hm] at hA
        split at h
        · cases h
        · exact ih (real_startOf hA target) h
      · cases h

/-- An absolute path that resolves at all resolves to a real location. -/
theorem resolve_real {p : Path} {l : Location} (hp : p.isAbsolute) (h : t.resolve p = .ok l) :
    t.Real l := by
  unfold resolve at h
  split at h
  · cases h
  · refine walk_real ?_ h
    rw [startOf, if_pos hp]
    exact real_root

/-- The names of a real location lead there from any place on the way. -/
theorem advance_of_real {k rest : Location} (h : t.Real (k ++ rest)) :
    t.advance k rest = .arrived (k ++ rest) := by
  induction rest generalizing k with
  | nil => simp [advance]
  | cons s rest ih =>
      have hd : t.isDirectoryAt k := h.above k (List.prefix_append ..) (by simp)
      have hs : IsName s := h.names s (by simp)
      have hrest : k ++ s :: rest = (k ++ [s]) ++ rest := by simp
      rw [hrest] at h ⊢
      obtain ⟨e, he, hl⟩ := h.entry (List.prefix_append ..)
      rw [advance_name hs hd, he]
      cases e with
      | directory mode => exact ih h
      | file contents mode => exact ih h
      | link target => exact absurd rfl (hl target)

/-- **The path of a real location leads to it.** -/
theorem resolve_ofLocation {l : Location} (h : t.Real l) :
    t.resolve (.ofLocation l) = .ok l := by
  unfold resolve
  cases l with
  | nil =>
      have hd : t.isDirectoryAt [] := by simp [isDirectoryAt, get?, Entry.isDirectory]
      have hA : t.advance [] [""] = .arrived [] := advance_idle (.inl rfl) hd
      exact walk_of_arrived hA linkLimit
  | cons name rest =>
      have hA : t.advance [] (name :: rest) = .arrived (name :: rest) :=
        advance_of_real (k := []) h
      rw [if_neg (by simp [Path.ofLocation, Path.isEmpty])]
      exact walk_of_arrived hA linkLimit

end FileTree

end Emend

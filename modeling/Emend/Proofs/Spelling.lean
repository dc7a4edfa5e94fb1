import Emend.Proofs.Writing

/-!
# Spellings of a path

A path is kept as it was written, and one place has many spellings. Normalizing picks one of
them: the spelling that writes the components of the path, without a dot at the front.

* `components_ofComponents_root`, `components_ofComponents_inner`: a path that is written from
  components goes through these components.
* `components_normalize`: so normalizing drops a dot at the front, and nothing else that counts.
* `same_normalize_iff`: normal paths that go through the same components are spelled alike, so
  they can be told apart by their spelling.
-/

namespace Emend

namespace Path

variable {p q : Path}

/-- Steps that are idle do not show in the components. -/
theorem innerComponents_visible (segments : List SystemText) :
    innerComponents (FileTree.visible segments) = innerComponents segments := by
  unfold innerComponents FileTree.visible
  rw [List.filterMap_filter]
  refine congrArg (List.filterMap · segments) (funext fun s => ?_)
  by_cases hs : s = "" ∨ s = "."
  · have hidle : isIdleStep s = true := by simpa [isIdleStep] using hs
    simp [hidle, hs]
  · have hidle : isIdleStep s = false := by simpa [isIdleStep] using hs
    simp [hidle, hs]

/-- No inner component is a dot. -/
theorem ne_here_of_mem_innerComponents {segments : List SystemText} {c : Component}
    (h : c ∈ innerComponents segments) : c ≠ .here := by
  obtain ⟨s, -, hs⟩ := List.mem_filterMap.mp h
  split at hs
  · cases hs
  · split at hs <;> cases hs <;> simp

/-! ## Paths that are written from components -/

theorem components_ofComponents_root (segments : List SystemText) :
    (ofComponents (.root :: innerComponents segments)).components =
      .root :: innerComponents segments := by
  have hv := map_segment_innerComponents segments
  have hinner := innerComponents_visible segments
  cases hcs : innerComponents segments with
  | nil => rfl
  | cons c cs =>
      have hwritten : (ofComponents (.root :: c :: cs)).segments =
          .text "" :: c.segment :: cs.map Component.segment := rfl
      rw [hcs, List.map_cons] at hv
      rw [components_absolute hwritten, hv, hinner, hcs]

theorem components_ofComponents_inner (segments : List SystemText) :
    (ofComponents (innerComponents segments)).components = innerComponents segments := by
  have hv := map_segment_innerComponents segments
  have hinner := innerComponents_visible segments
  cases hvis : FileTree.visible segments with
  | nil =>
      rw [hvis, List.map_eq_nil_iff] at hv
      rw [hv]
      rfl
  | cons s rest =>
      -- the first segment is visible, so it is read as an inner one
      have hs : isIdleStep s = false := by
        have hmem : s ∈ FileTree.visible segments := by simp [hvis]
        simpa using (List.mem_filter.mp hmem).2
      have hne : s ≠ "" ∧ s ≠ "." := by simpa [isIdleStep] using hs
      have hrel : (⟨s :: rest⟩ : Path).isAbsolute = false := by
        rw [Bool.eq_false_iff]
        intro habs
        obtain ⟨s', rest', he⟩ := isAbsolute_iff.mp habs
        exact hne.1 (List.cons.inj he).1
      rw [ofComponents_of_visible (hv.trans hvis) hne.1,
        components_relative hrel (by simpa using hne.2), ← hvis, hinner]

/-! ## Normal paths -/

/-- The components of a path besides a dot at the front: the root, and those of its steps. -/
theorem filter_components (p : Path) :
    p.components.filter (· ≠ .here) =
      if p.isAbsolute then .root :: innerComponents p.steps else innerComponents p.steps := by
  have hkeep : ∀ segments, (innerComponents segments).filter (· ≠ .here) =
      innerComponents segments := by
    intro segments
    rw [List.filter_eq_self]
    intro c hc
    simpa using ne_here_of_mem_innerComponents hc
  by_cases hp : p.isAbsolute
  · obtain ⟨s, rest, hseg⟩ := isAbsolute_iff.mp hp
    have hsteps : p.steps = s :: rest := by rw [steps, if_pos hp, hseg]; rfl
    rw [if_pos hp, components_absolute hseg, hsteps, List.filter_cons_of_pos (by simp), hkeep]
  · have hsteps : p.steps = p.segments := by rw [steps, if_neg hp]
    rw [if_neg hp, hsteps]
    by_cases hdot : p.segments.head? = some "."
    · obtain ⟨rest, hseg⟩ := List.head?_eq_some_iff.mp hdot
      rw [components_dot hseg, List.filter_cons_of_neg (by simp), hkeep, hseg]
      rfl
    · rw [components_relative (by simpa using hp) hdot, hkeep]

/-- **A normal path goes through the same components**, except for a dot at the front. -/
theorem components_normalize (p : Path) :
    p.normalize.components = p.components.filter (· ≠ .here) := by
  rw [normalize, filter_components]
  split
  · exact components_ofComponents_root p.steps
  · exact components_ofComponents_inner p.steps

/-- **Normal paths are told apart by their spelling.** -/
theorem same_normalize_iff : p.normalize.same q.normalize = true ↔ p.normalize = q.normalize := by
  simp only [same, decide_eq_true_eq]
  constructor
  · intro h
    rw [components_normalize, components_normalize] at h
    rw [normalize, h]
    rfl
  · intro h
    rw [h]

end Path

end Emend

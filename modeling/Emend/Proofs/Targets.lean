import Emend.Proofs.Grouping
import Emend.Proofs.RealPaths

/-!
# Targets of definitions

A definition names its target as it likes; the plan that its rule goes to knows the target by
its normal path. Normalizing is done on the text of a path, without a look at the tree, so it
must not be taken in by what stands there: a dot behind a link to a directory, a step up out of
one.

* `normalize_eq_iff`: paths have one normal path exactly if they are the same when dots,
  repeated slashes and slashes at the end are stripped off.
* `RealPath.normalize`: a path that leads somewhere leads there when it is normal, unless it has
  nothing but dots.
* `RealPath.of_stripped`: two paths that are the same when stripped lead to the same place, if
  both lead anywhere.
* `normalize_keeps_target`: hence the definitions of one plan mean the same file.
-/

namespace Emend

open FileTree

/-! ## Normal paths -/

namespace Path

variable {p q : Path} {a b : List SystemText}

/-- A path without dots, repeated slashes and slashes at its end: whether it starts at the root,
and the segments that are left. -/
def stripped (p : Path) : Bool × List SystemText := (p.isAbsolute, visible p.segments)

/-- The steps of a path show as much, as the segment in front of the first slash is empty. -/
theorem stripped_eq (p : Path) : p.stripped = (p.isAbsolute, visible p.steps) := by
  by_cases hp : p.isAbsolute
  · obtain ⟨s, rest, hseg⟩ := isAbsolute_iff.mp hp
    rw [stripped, steps, if_pos hp, hseg]
    rfl
  · rw [stripped, steps, if_neg hp]

theorem innerComponents_eq_iff :
    innerComponents a = innerComponents b ↔ visible a = visible b := by
  constructor
  · intro h
    rw [← map_segment_innerComponents, h, map_segment_innerComponents]
  · intro h
    rw [← innerComponents_visible, h, innerComponents_visible]

/-- No inner component is the root. -/
theorem root_not_mem_innerComponents (segments : List SystemText) :
    .root ∉ innerComponents segments := by
  intro h
  obtain ⟨s, -, hs⟩ := List.mem_filterMap.mp h
  split at hs
  · cases hs
  · split at hs <;> cases hs

/-- Two paths go through the same components, besides a dot at the front, exactly if they are the
same when stripped. -/
theorem filter_components_eq_iff :
    p.components.filter (· ≠ .here) = q.components.filter (· ≠ .here) ↔
      p.stripped = q.stripped := by
  rw [filter_components, filter_components, stripped_eq, stripped_eq, Prod.mk.injEq,
    ← innerComponents_eq_iff]
  have hp := root_not_mem_innerComponents p.steps
  have hq := root_not_mem_innerComponents q.steps
  cases p.isAbsolute <;> cases q.isAbsolute
  · simp
  · simp only [Bool.false_eq_true, if_false, if_true, false_and, iff_false]
    exact fun h => hp (h ▸ List.mem_cons_self)
  · simp only [Bool.false_eq_true, if_false, if_true, Bool.true_eq_false, false_and, iff_false]
    exact fun h => hq (h ▸ List.mem_cons_self)
  · simp

/-- **Paths have one normal path exactly if they are the same when stripped.** -/
theorem normalize_eq_iff : p.normalize = q.normalize ↔ p.stripped = q.stripped := by
  rw [← filter_components_eq_iff]
  constructor
  · intro h
    rw [← components_normalize, h, components_normalize]
  · intro h
    rw [normalize, h, normalize]

/-- A normal path is normal. -/
theorem normalize_normalize (p : Path) : p.normalize.normalize = p.normalize := by
  rw [normalize, components_normalize, List.filter_filter, normalize]
  simp only [Bool.and_self]

/-- A normal path goes through what the path goes through, unless that is nothing but dots. -/
theorem goesThrough_normalize (h : ∃ c ∈ p.components, c ≠ .here) :
    GoesThrough p.normalize p.isAbsolute (visible p.steps) := by
  by_cases hp : p.isAbsolute
  · rw [normalize, filter_components, if_pos hp, hp]
    exact goesThrough_root p.steps
  · have hp : p.isAbsolute = false := by simpa using hp
    -- with no steps left the normal path would be the empty one, which leads nowhere
    have hvis : visible p.steps ≠ [] := by
      intro hnil
      obtain ⟨c, hc, hne⟩ := h
      have hmem : c ∈ p.components.filter (· ≠ .here) := List.mem_filter.mpr ⟨hc, by simpa using hne⟩
      rw [filter_components, if_neg (by simp [hp])] at hmem
      rw [← map_segment_innerComponents, List.map_eq_nil_iff] at hnil
      rw [hnil] at hmem
      cases hmem
    rw [normalize, filter_components, if_neg (by simp [hp]), hp]
    exact goesThrough_inner hvis

end Path

/-! ## Where normal paths lead -/

namespace FileTree

variable {t : FileTree} {p p' : Path} {q q' : Location}

/-- A path that leads somewhere starts in a directory, and may do without its idle steps. -/
theorem RealPath.walk (h : t.RealPath p q) : t.isDirectoryAt (startOf t.workingDirectory p)
    ∧ t.walk linkLimit (startOf t.workingDirectory p) (visible p.steps) = .ok q := by
  have hw := realPath_iff.mp h
  rw [resolve_of_nonempty h.1] at hw
  refine ⟨?_, walk_visible hw⟩
  obtain ⟨s, rest, hs⟩ := List.exists_cons_of_ne_nil (steps_ne_nil h.1)
  rw [hs] at hw
  exact isDirectoryAt_of_walk hw

/-- **A path leads where it led when it is normal**, unless it has nothing but dots. -/
theorem RealPath.normalize (h : t.RealPath p q) (hp : ∃ c ∈ p.components, c ≠ .here) :
    t.RealPath p.normalize q := by
  obtain ⟨hd, hw⟩ := h.walk
  exact realPath_iff.mpr ((Path.goesThrough_normalize hp).resolve hd hw)

/-- **Paths that are the same when stripped lead to the same place**, if they lead anywhere. -/
theorem RealPath.of_stripped (h : t.RealPath p q) (h' : t.RealPath p' q')
    (he : p.stripped = p'.stripped) : q = q' := by
  rw [Path.stripped_eq, Path.stripped_eq] at he
  obtain ⟨habs, hvis⟩ := Prod.mk.inj he
  have hstart : startOf t.workingDirectory p = startOf t.workingDirectory p' := by
    simp only [startOf, habs]
  have hw := h.walk.2
  rw [hstart, hvis, h'.walk.2] at hw
  exact (Except.ok.inj hw).symm

end FileTree

/-! ## Definitions -/

namespace RuleFile

variable {f : RuleFile} {root : Path} {d d' : Definition}

/-- The path by which a definition names its target, as it is written, seen from a root if the
file says so. -/
def targetOf (f : RuleFile) (root : Path) (d : Definition) : Path :=
  if f.workspaceRelative then root.join (.ofText d.file) else .ofText d.file

/-- The document of a definition is the normal path of its target. -/
theorem documentOf_eq (f : RuleFile) (root : Path) (d : Definition) :
    f.documentOf root d = (f.targetOf root d).normalize := rfl

/--
**Normalizing leads no definition to another file.** A path with a component other than a dot
leads, when it is normal, where it led before, in every tree and from every directory. A normal
path is normal, and two paths have one normal path exactly if they are the same without dots,
repeated slashes and slashes at the end. So the rules of a plan are those of definitions that
mean the same file, wherever their targets lead at all.
-/
theorem normalize_keeps_target (f : RuleFile) (root p p' : Path) :
    (∀ (t : FileTree) q, (∃ c ∈ p.components, c ≠ .here) → t.RealPath p q →
        t.RealPath p.normalize q)
      ∧ p.normalize.normalize = p.normalize
      ∧ (p.normalize.same p'.normalize = true ↔ p.stripped = p'.stripped)
      ∧ ∀ plans, f.plans root = .ok plans → ∀ plan ∈ plans,
          (f.naming root plan.document f.rules).map Definition.toRule = plan.rules.rules.map .ok
          ∧ ∀ d ∈ f.naming root plan.document f.rules,
              ∀ d' ∈ f.naming root plan.document f.rules, ∀ (t : FileTree) q q',
                t.RealPath (f.targetOf root d) q → t.RealPath (f.targetOf root d') q' →
                  q = q' := by
  refine ⟨fun t q hp h => h.normalize hp, p.normalize_normalize,
    Path.same_normalize_iff.trans Path.normalize_eq_iff, fun plans hplans plan hmem => ?_⟩
  have hgrouped := planAll_grouped f root f.rules
  rw [← RuleFile.plans, hplans] at hgrouped
  refine ⟨hgrouped.1.rules plan hmem, fun d hd d' hd' t q q' hq hq' => hq.of_stripped hq' ?_⟩
  have hdoc : f.documentOf root d = f.documentOf root d' := by
    have h : f.documentOf root d = plan.document := by simpa using (List.mem_filter.mp hd).2
    have h' : f.documentOf root d' = plan.document := by simpa using (List.mem_filter.mp hd').2
    rw [h, h']
  rw [documentOf_eq, documentOf_eq] at hdoc
  exact Path.normalize_eq_iff.mp hdoc

/-- A link to a directory below another one, which has a file of the same name as the root. -/
def linkedBelow : FileTree where
  entries :=
    [(["a.txt"], .file "one".toUTF8 0o644),
      (["link"], .link ⟨["sub", "deep"]⟩),
      (["sub"], .directory directoryMode),
      (["sub", "a.txt"], .file "two".toUTF8 0o644),
      (["sub", "deep"], .directory directoryMode)]

example : (⟨[".", "link", ".", "..", "", "a.txt"]⟩ : Path).normalize = ⟨["link", "..", "a.txt"]⟩
    ∧ linkedBelow.resolve ⟨["link", "..", "a.txt"]⟩ = .ok ["sub", "a.txt"] := by
  decide +kernel

end RuleFile

end Emend

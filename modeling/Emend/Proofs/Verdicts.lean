import Emend.Proofs.Forbidden
import Emend.Proofs.RealPaths

/-!
# What a workspace makes of a path

A workspace judges the real path of a document, component by component: it has to begin with
the root, and with none of the directories that have been taken down as forbidden.

* `Verdict` lists the four answers with the reason for each, in terms of real paths.
* `resolve_eq_iff`: an answer is given exactly if there is a reason for it.
* `resolve_again`: what has been admitted is admitted under its real path too.
* `resolve_exact` puts this together.
-/

namespace Emend.Workspace

open FileTree

variable {w : Workspace} {t : FileTree} {p p' : Path} {q : Location}
  {r : Except WorkspaceError Location}

/-- What a workspace answers to a path, and why. -/
inductive Verdict (w : Workspace) (t : FileTree) (p : Path) :
    Except WorkspaceError Location → Prop
  | admitted {q : Location} (hq : t.RealPath (w.fromRoot p) q) (hroot : w.root <+: q)
      (hfree : ∀ d ∈ w.forbidden, ¬ d <+: q) : Verdict w t p (.ok q)
  /-- Being outside comes before being forbidden. -/
  | outside {q : Location} (hq : t.RealPath (w.fromRoot p) q) (hroot : ¬ w.root <+: q) :
      Verdict w t p (.error (.outside q w.root))
  /-- Of the forbidden directories that hold the document the first one is named. -/
  | forbidden {q d : Location} (hq : t.RealPath (w.fromRoot p) q) (hroot : w.root <+: q)
      (hd : w.forbidden.find? (·.isPrefixOf q) = some d) :
      Verdict w t p (.error (.forbidden q d))
  | unresolved {fault : Fault} (hfault : t.resolve (w.fromRoot p) = .error fault) :
      Verdict w t p (.error (.unresolved (w.fromRoot p) fault))

/-! ## Answers and reasons -/

theorem resolve_of_realPath (h : t.RealPath (w.fromRoot p) q) :
    w.resolve t p = (w.check q).map fun _ => q := by
  rw [realPath_iff] at h
  cases hc : w.check q <;> simp [resolve, locate, h, hc, bind, Except.bind, Except.map, pure,
    Except.pure]

theorem resolve_of_unresolved {fault : Fault} (h : t.resolve (w.fromRoot p) = .error fault) :
    w.resolve t p = .error (.unresolved (w.fromRoot p) fault) := by
  simp [resolve, locate, h, bind, Except.bind]

theorem Verdict.resolve_eq (h : Verdict w t p r) : w.resolve t p = r := by
  cases h with
  | admitted hq hroot hfree =>
      rw [resolve_of_realPath hq, check_eq_ok_iff.mpr ⟨hroot, hfree⟩]
      rfl
  | outside hq hroot =>
      rw [resolve_of_realPath hq, check_of_outside hroot]
      rfl
  | @forbidden q d hq hroot hd =>
      have hc : w.check q = .error (.forbidden q d) := by simp [check, hroot, hd]
      rw [resolve_of_realPath hq, hc]
      rfl
  | unresolved hfault => exact resolve_of_unresolved hfault

theorem exists_verdict (w : Workspace) (t : FileTree) (p : Path) : ∃ r, Verdict w t p r := by
  cases hres : t.resolve (w.fromRoot p) with
  | error fault => exact ⟨_, .unresolved hres⟩
  | ok q =>
      have hq := realPath_iff.mpr hres
      by_cases hroot : w.root <+: q
      · cases hd : w.forbidden.find? (·.isPrefixOf q) with
        | none => exact ⟨_, .admitted hq hroot (by simpa using hd)⟩
        | some d => exact ⟨_, .forbidden hq hroot hd⟩
      · exact ⟨_, .outside hq hroot⟩

/-- **An answer is given exactly if there is a reason for it.** -/
theorem resolve_eq_iff : w.resolve t p = r ↔ Verdict w t p r := by
  obtain ⟨r', h⟩ := exists_verdict w t p
  constructor
  · rintro rfl
    rwa [h.resolve_eq]
  · exact Verdict.resolve_eq

/-! ## Once more -/

/-- **What has been admitted is admitted again**, under its real path, as nothing else leads
there. -/
theorem resolve_again (h : w.resolve t p = .ok q) :
    t.Real q ∧ w.resolve t (.ofLocation q) = .ok q ∧ w.revalidate t (.ofLocation q) = .ok q := by
  have hreal := resolve_isReal h
  have hc := (resolve_eq_ok h).2
  have hagain := resolve_ofLocation hreal
  rw [← fromRoot_ofLocation w q] at hagain
  exact ⟨hreal, resolve_eq_ok_iff.mpr ⟨hagain, hc⟩, revalidate_ofLocation hreal hc⟩

/--
**A workspace judges real paths, and nothing else.** The root of a workspace, and what it has
taken down as forbidden, are real paths in the tree that it was made on. A path is admitted
exactly if it has a real path that begins with the components of the root, and not with those of
a forbidden directory. One that is outside is refused as such, even if it is forbidden too; one
without a real path is not resolved. What has been admitted is a location that no link leads to,
and it is admitted again under its own path. Two paths of one file are answered alike.
-/
theorem resolve_exact (w : Workspace) (t : FileTree) (p : Path) :
    (∀ made start, ofPath made start = .ok w → made.RealPath start w.root
        ∧ ∀ d, d ∈ w.forbidden ↔
          ∃ name ∈ forbiddenNames, made.RealPath ((Path.ofLocation w.root).join ⟨[name]⟩) d)
      ∧ (∀ q, w.resolve t p = .ok q ↔
          t.RealPath (w.fromRoot p) q ∧ w.root <+: q ∧ ∀ d ∈ w.forbidden, ¬ d <+: q)
      ∧ (∀ q, t.RealPath (w.fromRoot p) q → ¬ w.root <+: q →
          w.resolve t p = .error (.outside q w.root))
      ∧ (∀ q, t.RealPath (w.fromRoot p) q → w.root <+: q → (∃ d ∈ w.forbidden, d <+: q) →
          ∃ d ∈ w.forbidden, d <+: q ∧ w.resolve t p = .error (.forbidden q d))
      ∧ ((∃ fault, w.resolve t p = .error (.unresolved (w.fromRoot p) fault)) ↔
          ∀ q, ¬ t.RealPath (w.fromRoot p) q)
      ∧ (∀ q, w.resolve t p = .ok q → t.Real q ∧ w.resolve t (.ofLocation q) = .ok q
          ∧ w.revalidate t (.ofLocation q) = .ok q)
      ∧ ∀ p' q, t.RealPath (w.fromRoot p) q → t.RealPath (w.fromRoot p') q →
          w.resolve t p' = w.resolve t p := by
  refine ⟨fun made start h => ⟨realPath_iff.mpr (ofPath_eq_ok h).1, fun d => ?_⟩, fun q => ?_,
    fun q hq hroot => (Verdict.outside hq hroot).resolve_eq, fun q hq hroot hin => ?_, ?_,
    fun q h => resolve_again h, fun p' q hq hq' => ?_⟩
  · simp only [mem_forbidden_iff h, realPath_iff]
  · rw [resolve_eq_ok_iff, check_eq_ok_iff, realPath_iff]
  · cases hd : w.forbidden.find? (·.isPrefixOf q) with
    | none =>
        obtain ⟨d, hmem, hd'⟩ := hin
        exact absurd hd' (by simpa using List.find?_eq_none.mp hd d hmem)
    | some d =>
        have hfront : d <+: q := by simpa using List.find?_some hd
        exact ⟨d, List.mem_of_find?_eq_some hd, hfront, (Verdict.forbidden hq hroot hd).resolve_eq⟩
  · simp only [realPath_iff]
    constructor
    · rintro ⟨fault, h⟩ q hq
      cases resolve_eq_iff.mp h with
      | unresolved hfault => cases hq.symm.trans hfault
    · intro hnone
      cases hres : t.resolve (w.fromRoot p) with
      | ok q => exact absurd hres (hnone q)
      | error fault => exact ⟨fault, resolve_of_unresolved hres⟩
  · rw [resolve_of_realPath hq, resolve_of_realPath hq']

/-- A workspace beside a directory whose name begins like its own, with links from each into the
other one. -/
def linkedAcross : FileTree where
  entries :=
    [(["ws"], .directory directoryMode),
      (["ws", "doc.txt"], .file "one".toUTF8 0o644),
      (["ws", "old"], .link ⟨["..", "ws-old"]⟩),
      (["ws-old"], .directory directoryMode),
      (["ws-old", "doc.txt"], .file "two".toUTF8 0o644),
      (["ws-old", "new.txt"], .link ⟨["..", "ws", ".", "doc.txt"]⟩)]

example : (⟨["ws"], []⟩ : Workspace).resolve linkedAcross ⟨["old", "new.txt"]⟩ =
      .ok ["ws", "doc.txt"]
    ∧ (⟨["ws"], []⟩ : Workspace).resolve linkedAcross ⟨["old", "doc.txt"]⟩ =
      .error (.outside ["ws-old", "doc.txt"] ["ws"]) := by
  decide +kernel

end Emend.Workspace

import Emend.Proofs.Confinement
import Emend.Proofs.Entries

/-!
# Dry runs

A dry run of `apply` shows what `apply` does, but it shows it document by document: its sessions
write nothing, so a document is always found as it was in the beginning. If two rule files, or
two spellings of a path, lead to one file, `apply` lets the second session see what the first
one has written, and a dry run does not.

* `performed_tasks`: after some tasks all paths lead where they led, and a file that differs
  has been written by one of them.
* `result_of_performed`: so a session whose file has not been written comes to the same.
* `noneRewritten_of_pairwise`: documents that are different files are not written twice.
* `dryRun_foretells`: a dry run and `apply` differ at most where a file has been written before.
* `dryRun_not_foretells`: where it has, they may even end differently.
-/

namespace Emend.Command

open FileTree

variable {s : Surroundings} {t t' : FileTree} {named : Option Path} {rules : Path}
  {w : Workspace} {files : List (Path × RuleFile)} {ts : List Task} {dryRun : Bool}
  {earlier : List End} {P : Plan}

/-! ## What tasks leave behind -/

/-- One of these sessions has written the file at a location. -/
def WrittenAt (w : Workspace) (t : FileTree) (earlier : List End) (l : Location) : Prop :=
  ∃ o ∈ earlier, t.resolve (w.fromRoot o.2.1) = .ok l
    ∧ ∃ session, o.2.2 = .ok session ∧ session.persisted = true

/-- One of them has written the file that a document leads to. -/
def Rewritten (w : Workspace) (t : FileTree) (earlier : List End) (document : Path) : Prop :=
  ∃ l, t.resolve (w.fromRoot document) = .ok l ∧ WrittenAt w t earlier l

/-- A tree that has come from another one by sessions in a workspace. -/
structure Performed (w : Workspace) (t t' : FileTree) (ends : List End) : Prop where
  shape : t.SameShape t'
  written : ∀ k, t'.get? k ≠ t.get? k → WrittenAt w t ends k

theorem performed_run (w : Workspace) (dryRun : Bool) (t : FileTree) (file : Path) (P : Plan) :
    Performed w t (runOf w dryRun t P).tree [(file, P.document, (runOf w dryRun t P).result)] := by
  refine ⟨(Editor.keeps_run rfl t P).shape, fun k hk => ?_⟩
  rcases Editor.confined_cases (e := { workspace := some w, dryRun }) rfl t P with
    hkept | ⟨session, l, old, mode, h⟩
  · exact absurd (congrArg (get? · k) hkept.tree) hk
  · have hl : k = l := by
      refine Classical.byContradiction fun hne => hk ?_
      rw [runOf, h.tree, get?_put_of_ne t hne]
    exact ⟨_, List.mem_singleton_self _, hl ▸ (Workspace.resolve_eq_ok h.resolved).1, session,
      h.result, h.persisted⟩

/-- **What tasks leave behind**: a file that differs has been written by one of them. -/
theorem performed_tasks (w : Workspace) (dryRun : Bool) (t : FileTree) (ts : List Task) :
    Performed w t (treeAfter (runOf w dryRun) t ts) (endsOf (runOf w dryRun) t ts) := by
  induction ts generalizing t with
  | nil => exact ⟨.refl t, fun _ h => absurd rfl h⟩
  | cons task rest ih =>
      obtain ⟨file, P⟩ := task
      have hfirst := performed_run w dryRun t file P
      have hrest := ih (runOf w dryRun t P).tree
      rw [treeAfter_cons, endsOf]
      -- a file that differs in the end differs after the first session, or has been written since
      refine ⟨hfirst.shape.trans hrest.shape, fun k hk => ?_⟩
      by_cases he : (runOf w dryRun t P).tree.get? k = t.get? k
      · obtain ⟨o, ho, hres, hwritten⟩ := hrest.written k (he ▸ hk)
        rw [hfirst.shape.resolve] at hres
        exact ⟨o, List.mem_cons_of_mem _ ho, hres, hwritten⟩
      · obtain ⟨o, ho, hres⟩ := hfirst.written k he
        rw [List.mem_singleton] at ho
        exact ⟨o, ho ▸ List.mem_cons_self, hres⟩

/-- **A session comes to the same if its file has not been written.** -/
theorem result_of_performed (h : Performed w t t' earlier)
    (hP : ¬ Rewritten w t earlier P.document) (dryRun : Bool) :
    (runOf w dryRun t' P).result = (runOf w dryRun t P).result := by
  have hagree : ∀ p, t.resolve p = t.resolve (w.fromRoot P.document) → t.Agree t' p := by
    intro p hp
    refine ⟨h.shape.resolve p, fun x hx => Classical.byContradiction fun hne => ?_⟩
    exact hP ⟨x, hp.symm.trans hx, h.written x hne⟩
  refine Editor.session_result_congr (Editor.openDocument_congr ?_ fun p hp => ?_) _ P.rules
  · exact Editor.documentPath_congr (hagree _ rfl)
  · obtain ⟨k, hk, rfl⟩ := Editor.documentPath_confined rfl hp
    refine (hagree _ ?_).readText
    rw [resolve_ofLocation (Workspace.resolve_isReal hk), (Workspace.resolve_eq_ok hk).1]

/-! ## Dry runs in earnest -/

/-- What becomes of a document when a dry run is done in earnest: what has changed is written. -/
def inEarnest (r : Except SessionError Session) : Except SessionError Session :=
  r.map fun s => { s with persisted := s.changed }

theorem result_runOf (w : Workspace) (t : FileTree) (P : Plan) :
    (runOf w false t P).result = inEarnest (runOf w true t P).result :=
  Editor.run_result_of_check rfl P.document P.rules

/-- Whether it was written does not show in the totals. -/
theorem countDocument_inEarnest (totals : Totals) (r : Except SessionError Session) :
    totals.countDocument (inEarnest r) = totals.countDocument r := by
  cases r <;> rfl

theorem ofDone_inEarnest {dry real : List FileOutcome}
    (h : allEnds real = (allEnds dry).map fun o => (o.1, o.2.1, inEarnest o.2.2)) :
    Totals.ofDone real = Totals.ofDone dry := by
  simp only [ofDone_eq_foldl, h, List.foldl_map, countDocument_inEarnest]

/-- Nor does it show in whether entries can be made. -/
theorem isNone_entriesOf?_inEarnest {dry real : List FileOutcome}
    (h : allEnds real = (allEnds dry).map fun o => (o.1, o.2.1, inEarnest o.2.2)) :
    (entriesOf? real).isNone = (entriesOf? dry).isNone := by
  have hlistable : ∀ o : End, Listable (o.1, o.2.1, inEarnest o.2.2) ↔ Listable o := by
    rintro ⟨file, document, r⟩
    cases r <;> rfl
  rw [← Option.not_isSome, ← Option.not_isSome, Bool.not_inj_iff, Bool.eq_iff_iff,
    entriesOf?_isSome_iff, entriesOf?_isSome_iff, h, List.forall_mem_map]
  exact forall₂_congr fun o _ => hlistable o

/-- What a dry run says of `apply` in earnest, both on the same tree. -/
structure Foretells (w : Workspace) (t : FileTree) (dry real : Progress) : Prop where
  failures : dry.failure = none ∧ real.failure = none
  /-- A dry run leaves the tree alone, and says so. -/
  tree : dry.tree = t
  unwritten : ∀ o ∈ allEnds dry.done, ∀ session, o.2.2 = .ok session → session.persisted = false
  /-- Both take the same rule files to the same documents. -/
  documents : (allEnds real.done).map (fun o => (o.1, o.2.1)) =
    (allEnds dry.done).map fun o => (o.1, o.2.1)
  /-- A document whose file has not been written before comes to the same end in both. -/
  outcomes : ∀ i file document r, (allEnds dry.done)[i]? = some (file, document, r) →
    ¬ Rewritten w t ((allEnds real.done).take i) document →
    (allEnds real.done)[i]? = some (file, document, inEarnest r)

theorem foretells_of_tasks (h : tasks (Path.ofLocation w.root) files = .ok ts) (t : FileTree) :
    Foretells w t (applyAll w true false t files) (applyAll w false false t files) := by
  obtain ⟨hfailure, htree, hends⟩ := applyAll_of_tasks h true t
  obtain ⟨hfailure', -, hends'⟩ := applyAll_of_tasks h false t
  obtain ⟨hstill, hall⟩ := endsOf_of_still (runOf w true) t fun task (_ : task ∈ ts) =>
    Editor.session_readOnly_tree _ t task.2.document task.2.rules
  rw [hall] at hends
  constructor
  · exact ⟨hfailure, hfailure'⟩
  · exact htree.trans hstill
  · rw [hends, List.forall_mem_map]
    exact fun task _ session hs => Editor.session_readOnly_persisted hs
  · rw [hends, hends', documents_endsOf, List.map_map]
    rfl
  · intro i file document r hi hnot
    rw [hends, List.getElem?_map, Option.map_eq_some_iff] at hi
    obtain ⟨task, htask, he⟩ := hi
    cases he
    rw [hends', take_endsOf] at hnot
    rw [hends', getElem?_endsOf, htask, Option.map_some]
    rw [result_of_performed (performed_tasks w false t _) hnot, result_runOf]

/-- No document leads to a file that has been written before. -/
def NoneRewritten (w : Workspace) (t : FileTree) (dry real : List End) : Prop :=
  ∀ i file document r, dry[i]? = some (file, document, r) → ¬ Rewritten w t (real.take i) document

/-- That is so if all documents are different files. -/
theorem noneRewritten_of_pairwise {dry real : List End}
    (hdocuments : real.map (fun o => (o.1, o.2.1)) = dry.map fun o => (o.1, o.2.1))
    (h : (dry.map fun o => (o.1, o.2.1)).Pairwise fun d d' => ∀ l,
      t.resolve (w.fromRoot d.2) = .ok l → t.resolve (w.fromRoot d'.2) ≠ .ok l) :
    NoneRewritten w t dry real := by
  rintro i file document r hi ⟨l, hl, o, ho, hres, -⟩
  rw [← List.take_append_drop i (dry.map _), List.pairwise_append] at h
  have hbefore : (o.1, o.2.1) ∈ (dry.map fun o => (o.1, o.2.1)).take i := by
    rw [← hdocuments, ← List.map_take]
    exact List.mem_map_of_mem ho
  have hbehind : (file, document) ∈ (dry.map fun o => (o.1, o.2.1)).drop i := by
    refine List.mem_of_getElem? (i := 0) ?_
    simp [hi]
  exact h.2.2 _ hbefore _ hbehind l hres hl

/-- **Where no file is written twice, a dry run shows all that `apply` does.** -/
theorem Foretells.ends_eq {dry real : Progress} (h : Foretells w t dry real)
    (hnone : NoneRewritten w t (allEnds dry.done) (allEnds real.done)) :
    allEnds real.done = (allEnds dry.done).map fun o => (o.1, o.2.1, inEarnest o.2.2) := by
  have hlength := congrArg List.length h.documents
  rw [List.length_map, List.length_map] at hlength
  refine List.ext_getElem? fun i => ?_
  rw [List.getElem?_map]
  cases hi : (allEnds dry.done)[i]? with
  | none =>
      rw [List.getElem?_eq_none_iff] at hi
      exact List.getElem?_eq_none (hlength ▸ hi)
  | some o =>
      obtain ⟨file, document, r⟩ := o
      exact h.outcomes i file document r hi (hnone i file document r hi)

/--
**A dry run foretells what `apply` does, unless it edits a file twice.** If the preparations
fail, they fail for both. Otherwise both take the same rule files to the same documents; the
dry run leaves the tree alone; and a document comes to the same end in both, except for whether
it was written, if its file has not been written before. If no file is written twice, this holds
for all documents, and both end with the same exit code.
-/
theorem dryRun_foretells (s : Surroundings) (t : FileTree) (named : Option Path) (rules : Path) :
    (∀ f, prepare s t named rules = .error f → ∀ dryRun diff json verbosity,
        run s t verbosity (.apply rules named dryRun diff json) = ⟨1, f.printed, t⟩)
      ∧ ∀ w files, prepare s t named rules = .ok (w, files) →
        let dry := applyProgress s t rules named true false
        let real := applyProgress s t rules named false false
        Foretells w t dry real
          ∧ (NoneRewritten w t (allEnds dry.done) (allEnds real.done) →
            allEnds real.done = (allEnds dry.done).map (fun o => (o.1, o.2.1, inEarnest o.2.2))
              ∧ ∀ diff json verbosity,
                (run s t verbosity (.apply rules named true diff json)).exitCode =
                  (run s t verbosity (.apply rules named false diff json)).exitCode) := by
  refine ⟨fun f hf dryRun diff json verbosity => ?_, fun w files hp => ?_⟩
  · simp only [run, runApply, hf, fail]
  · obtain ⟨ts, hts⟩ := tasks_of_loaded (prepare_eq_ok hp) (Path.ofLocation w.root)
    have hforetells := foretells_of_tasks hts t
    simp only [applyProgress_of_ok hp]
    refine ⟨hforetells, fun hnone => ?_⟩
    have hends := hforetells.ends_eq hnone
    refine ⟨hends, fun diff json verbosity => ?_⟩
    simp only [exitCode_apply hp, applyProgress_of_ok hp, ofDone_inEarnest hends,
      isNone_entriesOf?_inEarnest hends]

/-- The text of a rule file with one rule, which replaces one text by another. -/
def ruleText (document find replace : String) (more : List String) : String :=
  String.intercalate "\n"
    (["[[rules]]", "id = \"" ++ find ++ "\"", "file = \"" ++ document ++ "\"",
      "find = \x7btype = \"literal\", text = \"" ++ find ++ "\"\x7d",
      "replace = \"" ++ replace ++ "\""] ++ more)

/-- Two rule files for two documents. -/
def separately : FileTree where
  entries :=
    [(["a.txt"], .file "one".toUTF8 0o644),
      (["b.txt"], .file "one".toUTF8 0o644),
      (["rules"], .directory directoryMode),
      (["rules", "a.toml"], .file (ruleText "a.txt" "one" "two" []).toUTF8 0o644),
      (["rules", "b.toml"], .file (ruleText "b.txt" "one" "two" []).toUTF8 0o644)]

theorem dryRun_foretells_separately :
    (∃ files, prepare {} separately none ⟨["rules"]⟩ = .ok (⟨[], []⟩, files))
      ∧ allEnds (applyProgress {} separately ⟨["rules"]⟩ none false false).done =
        (allEnds (applyProgress {} separately ⟨["rules"]⟩ none true false).done).map
          fun o => (o.1, o.2.1, inEarnest o.2.2) := by
  obtain ⟨hw, hdocuments⟩ :
      (prepare {} separately none ⟨["rules"]⟩).toOption.map Prod.fst = some ⟨[], []⟩
        ∧ (allEnds (applyProgress {} separately ⟨["rules"]⟩ none true false).done).map
          (fun o => (o.1, o.2.1)) =
            [(⟨["rules", "a.toml"]⟩, ⟨["a.txt"]⟩), (⟨["rules", "b.toml"]⟩, ⟨["b.txt"]⟩)] := by
    decide +kernel
  have ha : separately.resolve ((⟨[], []⟩ : Workspace).fromRoot ⟨["a.txt"]⟩) = .ok ["a.txt"] := by
    decide +kernel
  have hb : separately.resolve ((⟨[], []⟩ : Workspace).fromRoot ⟨["b.txt"]⟩) = .ok ["b.txt"] := by
    decide +kernel
  cases hp : prepare {} separately none ⟨["rules"]⟩ with
  | error f =>
      rw [hp] at hw
      cases hw
  | ok prepared =>
      obtain ⟨w, files⟩ := prepared
      rw [hp] at hw
      obtain rfl : w = ⟨[], []⟩ := Option.some.inj hw
      obtain ⟨hforetells, hall⟩ := (dryRun_foretells {} separately none ⟨["rules"]⟩).2 _ _ hp
      refine ⟨⟨files, rfl⟩, (hall (noneRewritten_of_pairwise hforetells.documents ?_)).1⟩
      rw [hdocuments]
      simp [ha, hb]

/-- Two rule files for one document, of which the second one needs what the first one writes. -/
def chained : FileTree where
  entries :=
    [(["doc.txt"], .file "one".toUTF8 0o644),
      (["rules"], .directory directoryMode),
      (["rules", "a.toml"], .file (ruleText "doc.txt" "one" "two" []).toUTF8 0o644),
      (["rules", "b.toml"], .file (ruleText "doc.txt" "two" "three"
        ["guard = \x7btype = \"literal\", text = \"three\"\x7d", "required = true"]).toUTF8 0o644)]

/--
**A dry run of a chain of edits ends with an error, and `apply` without one.** The dry run finds
the document without the text that the second rule file needs.
-/
theorem dryRun_not_foretells :
    (prepare {} chained none ⟨["rules"]⟩).toOption.isSome = true
      ∧ (run {} chained 0 (.apply ⟨["rules"]⟩ none true false false)).exitCode = 1
      ∧ (run {} chained 0 (.apply ⟨["rules"]⟩ none false false false)).exitCode = 0 := by
  decide +kernel

end Emend.Command

import Emend.Proofs.Batches

/-!
# Documents that have drifted

A required rule that finds nothing ends the session of its document, and the session leaves
the tree alone. For the document to stay as it was, the other sessions of the batch have to
leave it alone, too. Each of them writes one entry, and that entry stands for the file that
its own document led to. So the document stays as it was unless a document that was written
led to the same file.

* `Spares` says that no document that was written leads to where a path leads.
* `Spares.tail`: from the tree that the first session leaves, this holds of the others, as
  paths that lead to one file have led to one file before.
* `Spares.shows_iff`: so the path shows in the end what it showed at first.
* `aborted_untouched` is what follows for a document that has drifted.

Plans are told apart by the spelling of their documents. `aborted_touched` is a document that
is spelled in two ways, and has drifted under one of them only.
-/

namespace Emend

namespace FileTree

/-- Two paths lead to one place, however many links there are on the way. -/
def Meet (t : FileTree) (p q : Path) : Prop := ∃ x, t.Leads p x ∧ t.Leads q x

end FileTree

namespace Editor

open FileTree

variable {e : Editor} {t : FileTree} {P : Plan} {plans : List Plan} {p : Path}

/-- No document that some plans have written leads to where a path leads. -/
def Spares (e : Editor) (t : FileTree) (plans : List Plan) (p : Path) : Prop :=
  ∀ identity s, (identity, .ok s) ∈ (e.runPlans t plans).outcomes → s.persisted = true →
    ¬ t.Meet (e.placeOf identity) p

theorem outcomes_runPlans_cons (e : Editor) (t : FileTree) (P : Plan) (plans : List Plan) :
    (e.runPlans t (P :: plans)).outcomes =
      (P.document, (e.run t P.document P.rules).result)
        :: (e.runPlans (e.run t P.document P.rules).tree plans).outcomes := rfl

theorem tree_runPlans_cons (e : Editor) (t : FileTree) (P : Plan) (plans : List Plan) :
    (e.runPlans t (P :: plans)).tree =
      (e.runPlans (e.run t P.document P.rules).tree plans).tree := rfl

/-- The first session leaves the tree alone, or it writes a file that the path does not lead to. -/
theorem Spares.head (h : e.Spares t (P :: plans) p) :
    (e.run t P.document P.rules).tree = t
      ∨ ∃ l r, t.Supplanted (e.run t P.document P.rules).tree l r ∧ ¬ t.Leads p r := by
  rcases kept_or_wrote e t P with hk | ⟨d, s, l, r, mode, hw⟩
  · exact .inl hk.tree
  · right
    have hsup := hw.opened.stands.supplanted s.after.toUTF8 mode
    have hmem : (P.document, .ok s) ∈ (e.runPlans t (P :: plans)).outcomes := by
      rw [outcomes_runPlans_cons, hw.result]
      exact List.mem_cons_self
    refine ⟨l, r, hw.tree ▸ hsup, fun hp => h P.document s hmem hw.persisted ?_⟩
    exact ⟨r, leads_of_resolve hw.opened.place, hp⟩

/-- The path is spared by the others as well, on the tree that the first session leaves. -/
theorem Spares.tail (h : e.Spares t (P :: plans) p) :
    e.Spares (e.run t P.document P.rules).tree plans p := by
  intro identity s hs hpersisted hmeet
  have hmem : (identity, .ok s) ∈ (e.runPlans t (P :: plans)).outcomes := by
    rw [outcomes_runPlans_cons]
    exact List.mem_cons_of_mem _ hs
  refine h identity s hmem hpersisted ?_
  rcases h.head with htree | ⟨l, r, hsup, -⟩
  · exact htree ▸ hmeet
  · obtain ⟨x, hx, hpx⟩ := hmeet
    exact hsup.leads_together hx hpx

/-- **What a path shows is the same before and after a batch that spares it.** -/
theorem Spares.shows_iff {x : Location} {entry : Entry} (h : e.Spares t plans p) :
    (e.runPlans t plans).tree.Shows p x entry ↔ t.Shows p x entry := by
  induction plans generalizing t with
  | nil => exact Iff.rfl
  | cons P rest ih =>
      rw [tree_runPlans_cons, ih h.tail]
      rcases h.head with htree | ⟨l, r, hsup, hp⟩
      · rw [htree]
      · exact hsup.shows_iff hp

/-- A session that a required rule has ended had read its document, and left the tree alone. -/
theorem shows_of_drifted {path : Path} {rule : String} {reports : List Report}
    (h : (e.run t P.document P.rules).result = .error (.drifted path rule reports)) :
    (e.run t P.document P.rules).tree = t
      ∧ ∃ (x : Location) (text : String) (mode : Nat),
        t.Shows (e.placeOf P.document) x (.file text.toUTF8 mode) := by
  unfold run at h ⊢
  rcases session_cases e t P.document P.rules with ⟨err, hs⟩ | ⟨d, rule, hs⟩ | ⟨d, l, mode, hs⟩
  · rw [(hs (!e.dryRun)).result] at h
    cases h
    exact absurd (hs (!e.dryRun)).opened openDocument_ne_drifted
  · obtain ⟨l, r, mode, ho⟩ := opened_of_open (hs (!e.dryRun)).opened
    exact ⟨(hs (!e.dryRun)).tree, r, d.initial, mode, ho.place, ho.file⟩
  · rw [(hs (!e.dryRun)).result] at h
    cases h

/-- A document that has drifted can be found in the tree that the batch leaves. -/
theorem Spares.shows_of_drifted {identity path : Path} {rule : String} {reports : List Report}
    (h : e.Spares t plans (e.placeOf identity))
    (hd : (identity, .error (.drifted path rule reports)) ∈ (e.runPlans t plans).outcomes) :
    ∃ (x : Location) (text : String) (mode : Nat),
      (e.runPlans t plans).tree.Shows (e.placeOf identity) x (.file text.toUTF8 mode) := by
  induction plans generalizing t with
  | nil => cases hd
  | cons P rest ih =>
      rw [tree_runPlans_cons]
      rw [outcomes_runPlans_cons] at hd
      rcases List.mem_cons.mp hd with hhead | hrest
      · obtain ⟨rfl, hresult⟩ := Prod.mk.inj hhead
        obtain ⟨htree, x, text, mode, hshows⟩ := Editor.shows_of_drifted hresult.symm
        refine ⟨x, text, mode, h.tail.shows_iff.mpr ?_⟩
        rw [htree]
        exact hshows
      · exact ih h.tail hrest

/-- A batch of a rule file runs its plans. -/
theorem applyFile_eq_ok {f : RuleFile} {root : Path} {batch : Batch}
    (h : e.applyFile t f root = .ok batch) :
    ∃ plans, f.plans root = .ok plans ∧ batch = e.runPlans t plans := by
  cases hplans : f.plans root with
  | error err => simp [applyFile, hplans, bind, Except.bind] at h
  | ok plans =>
      rw [RuleFile.applyFile_of_plans hplans] at h
      exact ⟨plans, rfl, (Except.ok.inj h).symm⟩

/--
**A document that has drifted is left alone by the whole batch**, in its text and in its
permissions, unless a document that was written leads to the same file.
-/
theorem aborted_untouched {f : RuleFile} {root : Path} {batch : Batch}
    {identity path : Path} {rule : String} {reports : List Report}
    (hb : e.applyFile t f root = .ok batch)
    (hd : (identity, .error (.drifted path rule reports)) ∈ batch.outcomes)
    (hother : ∀ other s, (other, .ok s) ∈ batch.outcomes → s.persisted = true →
      ¬ t.Meet (e.placeOf other) (e.placeOf identity)) :
    ∃ text mode, t.readText (e.placeOf identity) = .ok text
      ∧ t.mode? (e.placeOf identity) = some mode
      ∧ batch.tree.readText (e.placeOf identity) = .ok text
      ∧ batch.tree.mode? (e.placeOf identity) = some mode := by
  obtain ⟨plans, -, rfl⟩ := applyFile_eq_ok hb
  have hspares : e.Spares t plans (e.placeOf identity) := hother
  obtain ⟨x, text, mode, hafter⟩ := hspares.shows_of_drifted hd
  have hbefore := hspares.shows_iff.mp hafter
  exact ⟨text, mode, hbefore.readText, hbefore.mode?, hafter.readText, hafter.mode?⟩

/-- Two files. -/
def twoFiles : FileTree where
  entries :=
    [(["a.txt"], .file "one".toUTF8 0o644),
      (["b.txt"], .file "two".toUTF8 0o600)]

/-- An edit of one file, and one of the other file that has to find something. -/
def needsOne : RuleFile where
  rules :=
    [{ id := "edit", file := "a.txt", find := .literal "one", replace := "two" },
      { id := "needed", file := "b.txt", find := .literal "one", replace := "three",
        guard := some (.literal "three"), required := true }]

theorem aborted_untouched_needsOne :
    ∃ batch reports, ({} : Editor).applyFile twoFiles needsOne ⟨["."]⟩ = .ok batch
      ∧ (⟨["b.txt"]⟩, .error (.drifted ⟨["b.txt"]⟩ "needed" reports)) ∈ batch.outcomes
      ∧ ∃ text mode, twoFiles.readText ⟨["b.txt"]⟩ = .ok text
        ∧ batch.tree.readText ⟨["b.txt"]⟩ = .ok text
        ∧ batch.tree.mode? ⟨["b.txt"]⟩ = some mode := by
  have heval : (({} : Editor).applyFile twoFiles needsOne ⟨["."]⟩).map
      (fun batch => (batch.outcomes.map Prod.fst, batch.outcomes[1]?)) =
        .ok ([⟨["a.txt"]⟩, ⟨["b.txt"]⟩],
          some (⟨["b.txt"]⟩, .error (.drifted ⟨["b.txt"]⟩ "needed" [⟨"needed", .failed⟩]))) := by
    decide +kernel
  cases hb : ({} : Editor).applyFile twoFiles needsOne ⟨["."]⟩ with
  | error err => simp [hb, Except.map] at heval
  | ok batch =>
      simp only [hb, Except.map, Except.ok.injEq, Prod.mk.injEq] at heval
      obtain ⟨hdocs, hsecond⟩ := heval
      have hd := List.mem_of_getElem? hsecond
      -- the only other document leads to another place
      have hother : ∀ other s, (other, .ok s) ∈ batch.outcomes → s.persisted = true →
          ¬ twoFiles.Meet other ⟨["b.txt"]⟩ := by
        rintro other s hs - ⟨x, ha, hb⟩
        have hother : other = ⟨["a.txt"]⟩ := by
          obtain ⟨n, hn⟩ := List.mem_iff_getElem?.mp hs
          have hn' := congrArg (fun outcome => outcome.map Prod.fst) hn
          rw [← List.getElem?_map, hdocs] at hn'
          match n with
          | 0 => simpa using hn'.symm
          | 1 => simp [hsecond] at hn
          | n + 2 => simp at hn'
        rw [hother] at ha
        have ha' : x = ["a.txt"] := ha.unique (leads_of_resolve (by decide +kernel))
        have hb' : x = ["b.txt"] := hb.unique (leads_of_resolve (by decide +kernel))
        simp [ha'] at hb'
      obtain ⟨text, mode, hbefore, -, hafter, hmode⟩ := aborted_untouched hb hd hother
      exact ⟨batch, _, rfl, hd, text, mode, hbefore, hafter, hmode⟩

/-- A rule file that names one file in two ways: an edit, and one that has to find something. -/
def needsOneAgain : RuleFile where
  rules :=
    [{ id := "edit", file := "a.txt", find := .literal "one", replace := "two" },
      { id := "needed", file := "d/../a.txt", find := .literal "one", replace := "three",
        guard := some (.literal "three"), required := true }]

/-- A file, and a directory. -/
def besideDirectory : FileTree where
  entries := [(["a.txt"], .file "one".toUTF8 0o644), (["d"], .directory directoryMode)]

/-- **Without that condition it does not hold**: the document has drifted under one spelling,
and has been edited under the other. -/
theorem aborted_touched :
    needsOneAgain.issues = []
      ∧ ∃ batch reports,
        ({} : Editor).applyFile besideDirectory needsOneAgain ⟨["."]⟩ = .ok batch
          ∧ (⟨["d", "..", "a.txt"]⟩,
              .error (.drifted ⟨["d", "..", "a.txt"]⟩ "needed" reports)) ∈ batch.outcomes
          ∧ besideDirectory.readText ⟨["d", "..", "a.txt"]⟩ = .ok "one"
          ∧ batch.tree.readText ⟨["d", "..", "a.txt"]⟩ = .ok "two" := by
  have heval : (({} : Editor).applyFile besideDirectory needsOneAgain ⟨["."]⟩).map
      (fun batch => (batch.outcomes[1]?, batch.tree.readText ⟨["d", "..", "a.txt"]⟩)) =
        .ok (some (⟨["d", "..", "a.txt"]⟩,
          .error (.drifted ⟨["d", "..", "a.txt"]⟩ "needed" [⟨"needed", .failed⟩])),
          .ok "two") := by
    decide +kernel
  refine ⟨by decide +kernel, ?_⟩
  cases hb : ({} : Editor).applyFile besideDirectory needsOneAgain ⟨["."]⟩ with
  | error err => simp [hb, Except.map] at heval
  | ok batch =>
      simp only [hb, Except.map, Except.ok.injEq, Prod.mk.injEq] at heval
      obtain ⟨hsecond, hread⟩ := heval
      exact ⟨batch, _, rfl, List.mem_of_getElem? hsecond, by decide +kernel, hread⟩

end Editor

end Emend

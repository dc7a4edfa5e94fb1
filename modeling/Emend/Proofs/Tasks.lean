import Emend.Proofs.Commands

/-!
# Rule files as one list of tasks

A command takes rule files to their documents one after another, and each rule file plan by
plan. Nothing but the tree passes from one session to the next, so where a rule file ends does
not matter: the work is one list of *tasks*, a plan each, with the rule file that it comes from.

* `tasks_of_loaded`: rule files that have been loaded can be taken apart into tasks.
* `takeAll_of_tasks`: taking the rule files to their documents is performing their tasks.
* `getElem?_endsOf`: what becomes of a task is what its session does on the tree that the
  tasks before it have left.
* `endsOf_of_still`: sessions that leave the tree alone all see the tree from before.
* `ofDone_eq_foldl`: what is counted is counted over all documents.
-/

namespace Emend.Command

open RuleFile

/-- A plan, with the rule file that it comes from. -/
abbrev Task := Path × Plan

/-- What became of a document, with the rule file by which it was edited. -/
abbrev End := Path × DocumentOutcome

variable {session : FileTree → Plan → Run} {t : FileTree} {root : Path}
  {files : List (Path × RuleFile)} {ts : List Task}

/-! ## Taking rule files apart -/

/-- The plans of some rule files, in the order in which they are taken to their documents. -/
def tasks (root : Path) : List (Path × RuleFile) → Except RuleError (List Task)
  | [] => .ok []
  | (file, f) :: rest => do
    let plans ← f.plans root
    return plans.map (Prod.mk file) ++ (← tasks root rest)

theorem tasks_cons_eq_ok {file : Path} {f : RuleFile}
    (h : tasks root ((file, f) :: files) = .ok ts) :
    ∃ plans rest, f.plans root = .ok plans ∧ tasks root files = .ok rest
      ∧ ts = plans.map (Prod.mk file) ++ rest := by
  obtain ⟨plans, hp, h⟩ := bind_eq_ok_iff.mp h
  obtain ⟨rest, hr, h⟩ := bind_eq_ok_iff.mp h
  exact ⟨plans, rest, hp, hr, (Except.ok.inj h).symm⟩

/-- **Rule files that have been loaded can be taken apart.** -/
theorem tasks_of_loaded {path : Path} (h : loadAll t path = .ok files) (root : Path) :
    ∃ ts, tasks root files = .ok ts := by
  have hissues : ∀ file ∈ files, file.2.issues = [] := fun file hfile =>
    (Admitted.listed _ _ files file.1 h hfile).issues
  clear h
  induction files with
  | nil => exact ⟨[], rfl⟩
  | cons file rest ih =>
      obtain ⟨file, f⟩ := file
      obtain ⟨plans, hplans, -⟩ := plans_of_issues (hissues (file, f) List.mem_cons_self) root
      obtain ⟨ts, hts⟩ := ih fun file hfile => hissues file (List.mem_cons_of_mem _ hfile)
      exact ⟨plans.map (Prod.mk file) ++ ts, by
        simp [tasks, hplans, hts, bind, Except.bind, pure, Except.pure]⟩

/-- The tasks are the plans of the rule files. -/
theorem mem_tasks (h : tasks root files = .ok ts) {task : Task} :
    task ∈ ts ↔ ∃ f plans, (task.1, f) ∈ files ∧ f.plans root = .ok plans ∧ task.2 ∈ plans := by
  induction files generalizing ts with
  | nil =>
      cases h
      simp
  | cons first files ih =>
      obtain ⟨file, f⟩ := first
      obtain ⟨plans, rest, hplans, hrest, rfl⟩ := tasks_cons_eq_ok h
      rw [List.mem_append, ih hrest]
      constructor
      · rintro (hm | ⟨f', plans', hf', hplans', hm⟩)
        · obtain ⟨P, hP, rfl⟩ := List.mem_map.mp hm
          exact ⟨f, plans, List.mem_cons_self, hplans, hP⟩
        · exact ⟨f', plans', List.mem_cons_of_mem _ hf', hplans', hm⟩
      · rintro ⟨f', plans', hf', hplans', hm⟩
        rcases List.mem_cons.mp hf' with he | hf'
        · obtain ⟨hfile, rfl⟩ := Prod.mk.inj he
          obtain rfl : plans' = plans := Except.ok.inj (hplans'.symm.trans hplans)
          exact .inl (List.mem_map.mpr ⟨task.2, hm, by rw [← hfile]⟩)
        · exact .inr ⟨f', plans', hf', hplans', hm⟩

/-- Rule files that can be taken apart have plans, each of them. -/
theorem exists_plans_of_tasks (h : tasks root files = .ok ts) {file : Path × RuleFile}
    (hfile : file ∈ files) : ∃ plans, file.2.plans root = .ok plans := by
  induction files generalizing ts with
  | nil => cases hfile
  | cons first files ih =>
      obtain ⟨plans, rest, hplans, hrest, -⟩ := tasks_cons_eq_ok h
      rcases List.mem_cons.mp hfile with rfl | hfile
      · exact ⟨plans, hplans⟩
      · exact ih hrest hfile

/-! ## Performing tasks -/

/-- The tree after some tasks, each of which sees the tree that the one before it left. -/
def treeAfter (session : FileTree → Plan → Run) (t : FileTree) (ts : List Task) : FileTree :=
  ts.foldl (fun t task => (session t task.2).tree) t

/-- What becomes of the documents of these tasks. -/
def endsOf (session : FileTree → Plan → Run) : FileTree → List Task → List End
  | _, [] => []
  | t, (file, P) :: rest =>
    (file, P.document, (session t P).result) :: endsOf session (session t P).tree rest

@[simp] theorem treeAfter_cons {task : Task} :
    treeAfter session t (task :: ts) = treeAfter session (session t task.2).tree ts := rfl

theorem treeAfter_append {more : List Task} :
    treeAfter session t (ts ++ more) = treeAfter session (treeAfter session t ts) more :=
  List.foldl_append

theorem endsOf_append {more : List Task} :
    endsOf session t (ts ++ more) =
      endsOf session t ts ++ endsOf session (treeAfter session t ts) more := by
  induction ts generalizing t with
  | nil => rfl
  | cons task rest ih =>
      simp only [List.cons_append, endsOf, treeAfter_cons, ih]

/-- The documents of tasks, with their rule files. -/
theorem documents_endsOf :
    (endsOf session t ts).map (fun o => (o.1, o.2.1)) =
      ts.map fun task => (task.1, task.2.document) := by
  induction ts generalizing t with
  | nil => rfl
  | cons task rest ih => simp only [endsOf, List.map_cons, ih]

theorem take_endsOf (i : Nat) : (endsOf session t ts).take i = endsOf session t (ts.take i) := by
  induction ts generalizing t i with
  | nil => simp [endsOf]
  | cons task rest ih =>
      cases i with
      | zero => rfl
      | succ i => simp only [endsOf, List.take_succ_cons, ih]

/-- **What becomes of a task**: its session runs on the tree that the tasks before it left. -/
theorem getElem?_endsOf (i : Nat) :
    (endsOf session t ts)[i]? = ts[i]?.map fun task =>
      (task.1, task.2.document, (session (treeAfter session t (ts.take i)) task.2).result) := by
  induction ts generalizing t i with
  | nil => rfl
  | cons task rest ih =>
      cases i with
      | zero => rfl
      | succ i => simpa [endsOf] using ih i

/-- **Sessions that leave the tree alone see the tree from before**, every one of them. -/
theorem endsOf_of_still (session : FileTree → Plan → Run) (t : FileTree) {ts : List Task}
    (h : ∀ task ∈ ts, (session t task.2).tree = t) :
    treeAfter session t ts = t
      ∧ endsOf session t ts =
        ts.map fun task => (task.1, task.2.document, (session t task.2).result) := by
  induction ts with
  | nil => exact ⟨rfl, rfl⟩
  | cons task rest ih =>
      have hfirst := h task List.mem_cons_self
      obtain ⟨htree, hends⟩ := ih fun task ht => h task (List.mem_cons_of_mem _ ht)
      rw [treeAfter_cons, endsOf, hfirst, htree, hends]
      exact ⟨rfl, rfl⟩

/-! ## Commands perform tasks -/

/-- What became of the documents of rule files. -/
def allEnds (done : List FileOutcome) : List End :=
  done.flatMap fun f => f.outcomes.map (Prod.mk f.file)

theorem outcomes_allEnds (done : List FileOutcome) :
    (allEnds done).map Prod.snd = done.flatMap (·.outcomes) := by
  simp [allEnds, List.map_flatMap, Function.comp_def]

/-- A batch performs the plans of its rule file. -/
theorem ofPlans_eq (session : FileTree → Plan → Run) (t : FileTree) (file : Path)
    (plans : List Plan) :
    (Batch.ofPlans session t plans).tree = treeAfter session t (plans.map (Prod.mk file))
      ∧ (Batch.ofPlans session t plans).outcomes.map (Prod.mk file) =
        endsOf session t (plans.map (Prod.mk file)) := by
  induction plans generalizing t with
  | nil => exact ⟨rfl, rfl⟩
  | cons P rest ih =>
      obtain ⟨htree, hends⟩ := ih (session t P).tree
      rw [List.map_cons, treeAfter_cons, endsOf, ← htree, ← hends]
      exact ⟨rfl, rfl⟩

/-- **Taking rule files to their documents is performing their tasks**, if no entries are asked
for. -/
theorem takeAll_of_tasks {batch : FileTree → RuleFile → Except RuleError Batch}
    (hbatch : ∀ t f plans, f.plans root = .ok plans →
      batch t f = .ok (Batch.ofPlans session t plans))
    (h : tasks root files = .ok ts) :
    (takeAll false batch t files).failure = none
      ∧ (takeAll false batch t files).tree = treeAfter session t ts
      ∧ allEnds (takeAll false batch t files).done = endsOf session t ts := by
  induction files generalizing t ts with
  | nil =>
      cases h
      exact ⟨rfl, rfl, rfl⟩
  | cons first files ih =>
      obtain ⟨file, f⟩ := first
      obtain ⟨plans, rest, hplans, hrest, rfl⟩ := tasks_cons_eq_ok h
      obtain ⟨htree, hends⟩ := ofPlans_eq session t file plans
      obtain ⟨hfailure, htree', hends'⟩ := ih (t := (Batch.ofPlans session t plans).tree) hrest
      simp only [takeAll, hbatch t f plans hplans]
      refine ⟨hfailure, ?_, ?_⟩
      · show (takeAll false batch _ files).tree = _
        rw [htree', treeAfter_append, htree]
      · rw [endsOf_append, ← hends, ← htree, ← hends']
        rfl

/-- Work that leaves the tree alone with every rule file leaves it alone altogether. -/
theorem takeAll_still {listed : Bool} {batch : FileTree → RuleFile → Except RuleError Batch}
    (h : ∀ t f b, batch t f = .ok b → b.tree = t) (t : FileTree)
    (files : List (Path × RuleFile)) : (takeAll listed batch t files).tree = t := by
  induction files generalizing t with
  | nil => rfl
  | cons file rest ih =>
      simp only [takeAll]
      cases hb : batch t file.2 with
      | error e => rfl
      | ok b =>
          dsimp only
          split
          · exact h t _ b hb
          · exact (ih b.tree).trans (h t _ b hb)

/-- Totals are counted over all documents. -/
theorem ofDone_eq_foldl (done : List FileOutcome) :
    Totals.ofDone done =
      (allEnds done).foldl (fun totals o => totals.countDocument o.2.2) {} := by
  rw [Totals.ofDone, ← outcomes_allEnds, List.foldl_map]

/-- The session that `apply` runs for a plan. -/
def runOf (w : Workspace) (dryRun : Bool) (t : FileTree) (P : Plan) : Run :=
  ({ workspace := some w, dryRun } : Editor).run t P.document P.rules

/-- The session that `check` runs for it. -/
def checkOf (w : Workspace) (t : FileTree) (P : Plan) : Run :=
  ({ workspace := some w } : Editor).check t P.document P.rules

/-- `apply` performs the tasks of its rule files by running them. -/
theorem applyAll_of_tasks {w : Workspace} (h : tasks (Path.ofLocation w.root) files = .ok ts)
    (dryRun : Bool) (t : FileTree) :
    (applyAll w dryRun false t files).failure = none
      ∧ (applyAll w dryRun false t files).tree = treeAfter (runOf w dryRun) t ts
      ∧ allEnds (applyAll w dryRun false t files).done = endsOf (runOf w dryRun) t ts :=
  takeAll_of_tasks (fun t _ _ hplans => applyFile_of_plans hplans _ t) h

end Emend.Command

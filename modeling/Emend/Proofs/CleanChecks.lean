import Emend.Proofs.Entries
import Emend.Proofs.Passes
import Emend.Proofs.Sessions

/-!
# Clean checks

`check` sees what the rule files would do to one tree; `apply` takes them to a tree that
changes as it goes. If the check is clean they come to the same. A check is clean only if it
has skipped every rule of every document. A session that skips all its rules leaves the tree
alone, so that the next one sees what was checked.

* `session_of_unapplied`: a session without an applied rule does nothing, whether it may
  write or not.
* `isClean_ofDone`, `idle_ofDone`: what a clean status and idle totals say about documents.
* `upToDate_iff`: rule files that have nothing to do, in terms of their tasks.
* `allListable_iff`: entries of documents that can be made, in terms of tasks as well.
* `exitCode_check`: how a check ends that has been prepared.
* `check_clean`: `check` ends with 0 exactly if there is nothing to do and all entries can be
  made, and then `apply` does nothing.
* `check_breaks_off`: if an entry cannot be made, it ends otherwise though there is nothing to do.
-/

namespace Emend

namespace Editor

variable {e : Editor} {t : FileTree} {identity : Path} {rules : RuleSet} {s : Session}

/-! ## Sessions that skip their rules -/

/-- What a session reports at its end is no failure. -/
theorem unfailed_of_check (h : (e.check t identity rules).result = .ok s) :
    ∀ r ∈ s.reports, r.outcome.isFailed = false := by
  rcases session_cases e t identity rules with ⟨err, hs⟩ | ⟨d, rule, hs⟩ | ⟨d, l, mode, hs⟩
  · cases (hs false).result.symm.trans h
  · cases (hs false).result.symm.trans h
  · cases (hs false).result.symm.trans h
    exact Pass.unfailed_of_finished (hs false).finished

/-- So every rule has been skipped if none has been applied. -/
theorem skipped_iff_of_check (h : (e.check t identity rules).result = .ok s) :
    (∀ r ∈ s.reports, r.outcome.isSkipped = true)
      ↔ ∀ r ∈ s.reports, r.outcome.isApplied = false := by
  refine forall₂_congr fun r hr => ?_
  have hf := unfailed_of_check h r hr
  cases ho : r.outcome with
  | applied n => simp [Outcome.isSkipped, Outcome.isApplied]
  | alreadyApplied => simp [Outcome.isSkipped, Outcome.isApplied]
  | absent => simp [Outcome.isSkipped, Outcome.isApplied]
  | failed =>
      rw [ho] at hf
      cases hf

/-- **A session without an applied rule does nothing**, whether it may write or not. -/
theorem session_of_unapplied (h : (e.check t identity rules).result = .ok s)
    (ha : ∀ r ∈ s.reports, r.outcome.isApplied = false) :
    s.changed = false ∧ ∀ write, (e.session write t identity rules).tree = t
      ∧ (e.session write t identity rules).result = .ok s := by
  rcases session_cases e t identity rules with ⟨err, hs⟩ | ⟨d, rule, hs⟩ | ⟨d, l, mode, hs⟩
  · cases (hs false).result.symm.trans h
  · cases (hs false).result.symm.trans h
  · cases (hs false).result.symm.trans h
    have hsame : (rules.pass d.initial).content = d.initial :=
      (Pass.quiet_of_unapplied (hs false).finished ha).content
    refine ⟨by simp [Session.ofTexts, hsame], fun write => ⟨?_, ?_⟩⟩
    · rw [(hs write).tree, if_neg (by simp [hsame])]
    · rw [(hs write).result]
      simp [hsame]

end Editor

namespace Command

/-! ## Clean statuses -/

namespace Status

@[simp] theorem isClean_empty : ({} : Status).isClean = true := rfl

theorem isClean_append {a b : Status} :
    (a.append b).isClean = true ↔ a.isClean = true ∧ b.isClean = true := by
  simp only [append, isClean, Bool.and_eq_true, List.isEmpty_iff, List.append_eq_nil_iff]
  exact and_and_and_comm

theorem isClean_foldl {statuses : List Status} {a : Status} :
    (statuses.foldl append a).isClean = true
      ↔ a.isClean = true ∧ ∀ s ∈ statuses, s.isClean = true := by
  induction statuses generalizing a with
  | nil => simp
  | cons s rest ih => simp [ih, isClean_append, and_assoc]

/-- Only a rule that would be applied is left to do. -/
theorem isClean_ofReport (document : Path) (r : Report) :
    (ofReport document r).isClean = true ↔ r.outcome.isApplied = false := by
  cases ho : r.outcome <;> simp [ofReport, ho, isClean, Outcome.isApplied]

/-- **A document is clean** if its session came to its end and none of its rules was applied. -/
theorem isClean_ofOutcome (o : DocumentOutcome) :
    (ofOutcome o).isClean = true
      ↔ ∃ s, o.2 = .ok s ∧ ∀ r ∈ s.reports, r.outcome.isApplied = false := by
  obtain ⟨document, result⟩ := o
  cases result with
  | ok s => simp [ofOutcome, isClean_foldl, isClean_ofReport]
  | error err => cases err <;> simp [ofOutcome, isClean]

theorem isClean_ofDone (done : List FileOutcome) :
    (ofDone done).isClean = true
      ↔ ∀ o ∈ allEnds done, ∃ s, o.2.2 = .ok s ∧ ∀ r ∈ s.reports, r.outcome.isApplied = false := by
  simp only [ofDone, isClean_foldl, isClean_empty, true_and, ← outcomes_allEnds,
    List.forall_mem_map, isClean_ofOutcome]

end Status

/-! ## Idle totals -/

namespace Totals

/-- Nothing was applied, nothing failed, and no document was changed. -/
structure Idle (totals : Totals) : Prop where
  applied : totals.applied = 0
  failed : totals.failed = 0
  changedDocuments : totals.changedDocuments = 0

theorem Idle.countReports {totals : Totals} (h : totals.Idle) {reports : List Report}
    (hr : ∀ r ∈ reports, r.outcome.isSkipped = true) : (totals.countReports reports).Idle := by
  induction reports generalizing totals with
  | nil => exact h
  | cons r rest ih =>
      have hfirst := hr r List.mem_cons_self
      have hrest := fun r' hr' => hr r' (List.mem_cons_of_mem r hr')
      suffices hnext : (totals.countOutcome r.outcome).Idle from ih hnext hrest
      cases ho : r.outcome with
      | applied n => simp [ho, Outcome.isSkipped] at hfirst
      | alreadyApplied => exact ⟨h.applied, h.failed, h.changedDocuments⟩
      | absent => exact ⟨h.applied, h.failed, h.changedDocuments⟩
      | failed => simp [ho, Outcome.isSkipped] at hfirst

/-- **Sessions that skip all their rules and change nothing count for nothing.** -/
theorem idle_ofDone {done : List FileOutcome}
    (h : ∀ o ∈ allEnds done, ∃ s, o.2.2 = .ok s ∧ s.changed = false
      ∧ ∀ r ∈ s.reports, r.outcome.isSkipped = true) : (ofDone done).Idle := by
  rw [ofDone_eq_foldl]
  have hstart : ({} : Totals).Idle := ⟨rfl, rfl, rfl⟩
  generalize ({} : Totals) = totals at hstart ⊢
  generalize allEnds done = ends at h ⊢
  induction ends generalizing totals with
  | nil => exact hstart
  | cons o rest ih =>
      obtain ⟨s, hs, hc, hr⟩ := h o List.mem_cons_self
      refine ih _ ?_ fun o ho => h o (List.mem_cons_of_mem _ ho)
      simpa [countDocument, hs, hc] using hstart.countReports hr

end Totals

/-! ## Rule files that have nothing to do -/

variable {s : Surroundings} {t : FileTree} {named : Option Path} {rules : Path}
  {w : Workspace} {files : List (Path × RuleFile)} {ts : List Task}

/-- The session of a plan would come to its end, and skip every rule. -/
def Skips (w : Workspace) (t : FileTree) (P : Plan) : Prop :=
  ∃ session, (({ workspace := some w } : Editor).check t P.document P.rules).result = .ok session
    ∧ ∀ r ∈ session.reports, r.outcome.isSkipped = true

/-- The workspace and the rule files of a command are in order, and there is nothing to do for
any of their documents. -/
def UpToDate (s : Surroundings) (t : FileTree) (named : Option Path) (rules : Path) : Prop :=
  ∃ w paths, Workspace.ofPath t (workspacePath s t named) = .ok w
    ∧ RuleFile.discover t rules = .ok paths
    ∧ ∀ path ∈ paths, ∃ f plans, RuleFile.load t path = .ok f
      ∧ f.plans (Path.ofLocation w.root) = .ok plans ∧ ∀ P ∈ plans, Skips w t P

/-- A command with nothing to do has been prepared. -/
theorem UpToDate.prepared (h : UpToDate s t named rules) :
    ∃ w files, prepare s t named rules = .ok (w, files) := by
  obtain ⟨w, paths, hw, hd, hall⟩ := h
  cases hf : RuleFile.loadAll t rules with
  | ok files => exact ⟨w, files, prepare_eq_ok_iff.mpr ⟨hw, hf⟩⟩
  | error err =>
      rw [loadAll_of_discover hd] at hf
      obtain ⟨before, path, after, rfl, -, hrejected⟩ := RuleFile.firstRejected_of_loadEach hf
      obtain ⟨f, -, hload, -⟩ := hall path (by simp)
      cases hload.symm.trans (RuleFile.load_eq_error_iff.mpr hrejected)

/-- **Rule files have nothing to do exactly if none of their tasks has.** -/
theorem upToDate_iff (h : prepare s t named rules = .ok (w, files))
    (hts : tasks (Path.ofLocation w.root) files = .ok ts) :
    UpToDate s t named rules ↔ ∀ task ∈ ts, Skips w t task.2 := by
  obtain ⟨hw, hfiles⟩ := prepare_eq_ok_iff.mp h
  obtain ⟨hd, hload⟩ := RuleFile.loadAll_eq_ok hfiles
  constructor
  · rintro ⟨w', paths, hw', hd', hall⟩ task htask
    obtain rfl : w = w' := Except.ok.inj (hw.symm.trans hw')
    obtain rfl : files.map Prod.fst = paths := Except.ok.inj (hd.symm.trans hd')
    obtain ⟨f, plans, hf, hplans, hP⟩ := (mem_tasks hts).mp htask
    obtain ⟨f', plans', hload', hplans', hskips⟩ := hall task.1 (List.mem_map_of_mem hf)
    obtain rfl : f = f' := Except.ok.inj ((hload _ hf).symm.trans hload')
    obtain rfl : plans = plans' := Except.ok.inj (hplans.symm.trans hplans')
    exact hskips task.2 hP
  · intro hall
    refine ⟨w, files.map Prod.fst, hw, hd, fun path hpath => ?_⟩
    obtain ⟨file, hfile, rfl⟩ := List.mem_map.mp hpath
    have hissues := (RuleFile.Admitted.listed _ _ files file.1 hfiles hfile).issues
    obtain ⟨plans, hplans, -⟩ := RuleFile.plans_of_issues hissues (Path.ofLocation w.root)
    refine ⟨file.2, plans, hload file hfile, hplans, fun P hP => ?_⟩
    exact hall (file.1, P) ((mem_tasks hts).mpr ⟨file.2, plans, hfile, hplans, hP⟩)

/-- For every document of the rule files, `check` can make the entry that it makes of it. -/
def AllListable (s : Surroundings) (t : FileTree) (named : Option Path) (rules : Path) : Prop :=
  ∀ w paths, Workspace.ofPath t (workspacePath s t named) = .ok w →
    RuleFile.discover t rules = .ok paths → ∀ path ∈ paths, ∀ f plans,
      RuleFile.load t path = .ok f → f.plans (Path.ofLocation w.root) = .ok plans →
        ∀ P ∈ plans, Listable (path, P.document, (checkOf w t P).result)

/-- **They can be made exactly if that of each task can.** -/
theorem allListable_iff (h : prepare s t named rules = .ok (w, files))
    (hts : tasks (Path.ofLocation w.root) files = .ok ts) :
    AllListable s t named rules ↔
      ∀ task ∈ ts, Listable (task.1, task.2.document, (checkOf w t task.2).result) := by
  obtain ⟨hw, hfiles⟩ := prepare_eq_ok_iff.mp h
  obtain ⟨hd, hload⟩ := RuleFile.loadAll_eq_ok hfiles
  constructor
  · intro hall task htask
    obtain ⟨f, plans, hf, hplans, hP⟩ := (mem_tasks hts).mp htask
    exact hall w _ hw hd task.1 (List.mem_map_of_mem hf) f plans (hload _ hf) hplans task.2 hP
  · intro hall w' paths hw' hd' path hpath f plans hf hplans P hP
    obtain rfl : w = w' := Except.ok.inj (hw.symm.trans hw')
    obtain rfl : files.map Prod.fst = paths := Except.ok.inj (hd.symm.trans hd')
    obtain ⟨file, hfile, rfl⟩ := List.mem_map.mp hpath
    obtain rfl : file.2 = f := Except.ok.inj ((hload file hfile).symm.trans hf)
    exact hall (file.1, P) ((mem_tasks hts).mpr ⟨file.2, plans, hfile, hplans, hP⟩)

/-! ## `check` and `apply` -/

/-- What `check` would find, if it made no entries. -/
def checkUnlisted (w : Workspace) (t : FileTree) (files : List (Path × RuleFile)) : Progress :=
  takeAll false (fun t f => ({ workspace := some w } : Editor).checkFile t f
    (Path.ofLocation w.root)) t files

/-- It looks at every task on the tree that it was given, and leaves that tree alone. -/
theorem checkUnlisted_still (hts : tasks (Path.ofLocation w.root) files = .ok ts) :
    allEnds (checkUnlisted w t files).done =
        ts.map (fun task => (task.1, task.2.document, (checkOf w t task.2).result))
      ∧ ((Status.ofDone (checkUnlisted w t files).done).isClean = true
        ↔ ∀ task ∈ ts, Skips w t task.2) := by
  obtain ⟨-, -, hends⟩ :
      (checkUnlisted w t files).failure = none
        ∧ (checkUnlisted w t files).tree = treeAfter (checkOf w) t ts
        ∧ allEnds (checkUnlisted w t files).done = endsOf (checkOf w) t ts :=
    takeAll_of_tasks (fun t _ _ hplans => RuleFile.checkFile_of_plans hplans _ t) hts
  obtain ⟨-, hall⟩ := endsOf_of_still (checkOf w) t fun task (_ : task ∈ ts) =>
    Editor.session_readOnly_tree _ t task.2.document task.2.rules
  rw [hall] at hends
  refine ⟨hends, ?_⟩
  rw [Status.isClean_ofDone, hends, List.forall_mem_map]
  refine forall₂_congr fun task _ => exists_congr fun session => and_congr_right fun hs => ?_
  exact (Editor.skipped_iff_of_check hs).symm

/-- `check` leaves the tree alone. It comes to its end if all entries can be made, and else it
breaks off. -/
theorem checkAll_still (hts : tasks (Path.ofLocation w.root) files = .ok ts) :
    (checkAll w t files).failure = none ∧ (checkAll w t files).tree = t
      ∧ entriesOf? (checkAll w t files).done = entriesOf? (checkUnlisted w t files).done
      ∧ ((entriesOf? (checkUnlisted w t files).done).isSome →
        checkAll w t files = checkUnlisted w t files) := by
  refine ⟨takeAll_failure fun file hfile t => ?_, takeAll_still (fun t f b hb => ?_) t files,
    entriesOf?_takeAll _ t files, takeAll_of_entries⟩
  · obtain ⟨plans, hplans⟩ := exists_plans_of_tasks hts hfile
    exact ⟨_, RuleFile.checkFile_of_plans hplans _ t⟩
  · obtain ⟨plans, -, hb⟩ := bind_eq_ok_iff.mp hb
    obtain rfl := Except.ok.inj hb
    rw [(ofPlans_eq _ t ⟨[]⟩ plans).1]
    exact (endsOf_of_still (checkOf w) t fun task _ =>
      Editor.session_readOnly_tree _ t task.2.document task.2.rules).1

/-- **Tasks that have nothing to do are performed without a trace.** -/
theorem applyAll_still (hts : tasks (Path.ofLocation w.root) files = .ok ts)
    (hskips : ∀ task ∈ ts, Skips w t task.2) (dryRun : Bool) :
    (applyAll w dryRun false t files).tree = t
      ∧ (Totals.ofDone (applyAll w dryRun false t files).done).Idle
      ∧ allEnds (applyAll w dryRun false t files).done =
        ts.map fun task => (task.1, task.2.document, (checkOf w t task.2).result) := by
  obtain ⟨-, htree, hends⟩ := applyAll_of_tasks hts dryRun t
  have hsession : ∀ task ∈ ts, (runOf w dryRun t task.2).tree = t
      ∧ (runOf w dryRun t task.2).result = (checkOf w t task.2).result
      ∧ ∃ s, (runOf w dryRun t task.2).result = .ok s ∧ s.changed = false
        ∧ ∀ r ∈ s.reports, r.outcome.isSkipped = true := by
    intro task htask
    obtain ⟨s, hs, hr⟩ := hskips task htask
    obtain ⟨hchanged, hall⟩ :=
      Editor.session_of_unapplied hs ((Editor.skipped_iff_of_check hs).mp hr)
    obtain ⟨htree, hresult⟩ := hall (!dryRun)
    exact ⟨htree, hresult.trans hs.symm, s, hresult, hchanged, hr⟩
  obtain ⟨hstill, hall⟩ := endsOf_of_still (runOf w dryRun) t fun task htask =>
    (hsession task htask).1
  rw [hall] at hends
  refine ⟨htree.trans hstill, Totals.idle_ofDone ?_, ?_⟩
  · rw [hends, List.forall_mem_map]
    exact fun task htask => (hsession task htask).2.2
  · rw [hends]
    exact List.map_congr_left fun task htask => by rw [(hsession task htask).2.1]

/-- **How `check` ends**: it breaks off if an entry cannot be made, and else it ends with 0 exactly
if the status is clean. -/
theorem exitCode_check (hp : prepare s t named rules = .ok (w, files))
    (hts : tasks (Path.ofLocation w.root) files = .ok ts) (json : Bool) (verbosity : Nat) :
    let done := (checkUnlisted w t files).done
    (run s t verbosity (.check rules named json)).exitCode =
      if (entriesOf? done).isNone then 101 else if (Status.ofDone done).isClean then 0 else 1 := by
  intro done
  obtain ⟨hfailure, -, hsame, hlisted⟩ := checkAll_still (t := t) hts
  simp only [run, runCheck, hp, hfailure, hsame]
  cases he : entriesOf? (checkUnlisted w t files).done with
  | none => rfl
  | some entries =>
      rw [he] at hlisted
      simp [done, hlisted rfl]

/-- What `apply` comes to when there is nothing to do. -/
structure Idle (before : FileTree) (dryRun json : Bool) (done : List FileOutcome) (o : Output) :
    Prop where
  exitCode : o.exitCode = 0
  tree : o.tree = before
  totals : (Totals.ofDone done).Idle
  /-- These are the totals that a reader is shown. -/
  printed : json = false → ∃ above, o.printed = above ++ (Totals.ofDone done).lines dryRun

/-- Tasks that have nothing to do, and entries that can be made, leave `apply` idle. -/
theorem idle_of_skips (hp : prepare s t named rules = .ok (w, files))
    (hts : tasks (Path.ofLocation w.root) files = .ok ts)
    (hskips : ∀ task ∈ ts, Skips w t task.2)
    (hlistable : ∀ task ∈ ts, Listable (task.1, task.2.document, (checkOf w t task.2).result))
    (dryRun diff json : Bool) (verbosity : Nat) :
    Idle t dryRun json (applyProgress s t rules named dryRun false).done
      (run s t verbosity (.apply rules named dryRun diff json)) := by
  obtain ⟨htree, hidle, hends⟩ := applyAll_still hts hskips dryRun
  rw [← applyProgress_of_ok hp] at htree hidle hends
  obtain ⟨entries, he⟩ : ∃ entries,
      entriesOf? (applyProgress s t rules named dryRun false).done = some entries := by
    rw [← Option.isSome_iff_exists, entriesOf?_isSome_iff, hends, List.forall_mem_map]
    exact hlistable
  refine ⟨?_, ?_, hidle, ?_⟩
  · rw [exitCode_apply hp, he, hidle.failed]
    simp
  · cases json with
    | false =>
        rw [run_apply_plain hp]
        exact htree
    | true =>
        rw [run_apply_listed hp he]
        exact htree
  · rintro rfl
    rw [run_apply_plain hp]
    exact ⟨_, rfl⟩

/--
**A clean check means that `apply` has nothing to do; but a check is clean only if every path is a
text.** `check` leaves the tree alone. It ends with 0 exactly if the workspace and all rule files
are in order, every session comes to its end, every rule is skipped, and the paths of all rule
files and documents are texts; and then `apply`, on a dry run or not, ends with 0, leaves the
whole tree alone, and counts nothing that was applied, has failed or was changed. If a path of a
rule file or a document is no text, `check` breaks off, whether or not entries are to be printed
and whatever the sessions come to.
-/
theorem check_clean (s : Surroundings) (t : FileTree) (named : Option Path) (rules : Path)
    (json : Bool) (verbosity : Nat) :
    let check := run s t verbosity (.check rules named json)
    check.tree = t
      ∧ (check.exitCode = 0 ↔ UpToDate s t named rules ∧ AllListable s t named rules)
      ∧ (check.exitCode = 101 ↔
        (∃ prepared, prepare s t named rules = .ok prepared) ∧ ¬ AllListable s t named rules)
      ∧ (check.exitCode = 0 → ∀ dryRun diff json verbosity,
          Idle t dryRun json (applyProgress s t rules named dryRun false).done
            (run s t verbosity (.apply rules named dryRun diff json))) := by
  intro check
  cases hp : prepare s t named rules with
  | error f =>
      have hnot : ¬ UpToDate s t named rules := by
        intro h
        obtain ⟨w, files, hok⟩ := h.prepared
        cases hp.symm.trans hok
      have hfails : check = fail t f := by simp only [check, run, runCheck, hp]
      simp [hfails, fail, hnot]
  | ok prepared =>
      obtain ⟨w, files⟩ := prepared
      obtain ⟨ts, hts⟩ := tasks_of_loaded (prepare_eq_ok hp) (Path.ofLocation w.root)
      obtain ⟨hends, hclean⟩ := checkUnlisted_still (t := t) hts
      have hlistable : (entriesOf? (checkUnlisted w t files).done).isSome ↔
          AllListable s t named rules := by
        rw [entriesOf?_isSome_iff, hends, List.forall_mem_map, allListable_iff hp hts]
      have hexit := exitCode_check hp hts json verbosity
      have hzero : check.exitCode = 0 ↔ UpToDate s t named rules ∧ AllListable s t named rules := by
        rw [show check.exitCode = _ from hexit, ← hlistable, upToDate_iff hp hts, ← hclean]
        cases entriesOf? (checkUnlisted w t files).done <;> simp
      refine ⟨?_, hzero, ?_, fun h dryRun diff json verbosity => ?_⟩
      · obtain ⟨hfailure, htree, -, -⟩ := checkAll_still (t := t) hts
        simp only [check, run, runCheck, hp, hfailure]
        cases entriesOf? (checkAll w t files).done <;> exact htree
      · rw [show check.exitCode = _ from hexit, ← hlistable]
        cases entriesOf? (checkUnlisted w t files).done with
        | none => simp
        | some entries =>
            have hother : (if (Status.ofDone (checkUnlisted w t files).done).isClean then 0
                else 1) ≠ 101 := by
              split <;> decide
            simpa using hother
      · obtain ⟨hup, hall⟩ := hzero.mp h
        exact idle_of_skips hp hts ((upToDate_iff hp hts).mp hup) ((allListable_iff hp hts).mp hall)
          dryRun diff json verbosity

/-- A document that its rule file has edited before. -/
def editedBefore : FileTree where
  entries :=
    [(["doc.txt"], .file "two".toUTF8 0o644),
      (["a.toml"], .file (String.intercalate "\n"
        ["[[rules]]", "id = \"edit\"", "file = \"doc.txt\"",
          "find = \x7btype = \"literal\", text = \"one\"\x7d", "replace = \"two\"",
          "guard = \x7btype = \"literal\", text = \"two\"\x7d"]).toUTF8 0o644)]

example : (run {} editedBefore 0 (.check ⟨["a.toml"]⟩ none false)).exitCode = 0 := by
  decide +kernel

/-- The same document with its rule file in a directory, under a name that is no text. -/
def namedUnreadably : FileTree where
  entries :=
    [(["doc.txt"], .file "two".toUTF8 0o644),
      (["rules"], .directory directoryMode),
      (["rules", unreadableName], .file (String.intercalate "\n"
        ["[[rules]]", "id = \"edit\"", "file = \"doc.txt\"",
          "find = \x7btype = \"literal\", text = \"one\"\x7d", "replace = \"two\"",
          "guard = \x7btype = \"literal\", text = \"two\"\x7d"]).toUTF8 0o644)]

/--
**A check of rules that have nothing to do may break off.** The rule file is found and loaded, and
its document is in order, but its name is no text.
-/
theorem check_breaks_off :
    UpToDate {} namedUnreadably none ⟨["rules"]⟩
      ∧ (run {} namedUnreadably 0 (.check ⟨["rules"]⟩ none false)).exitCode = 101 := by
  have hclean : (prepare {} namedUnreadably none ⟨["rules"]⟩).toOption.any (fun prepared =>
      (Status.ofDone (checkUnlisted prepared.1 namedUnreadably prepared.2).done).isClean) = true := by
    decide +kernel
  refine ⟨?_, by decide +kernel⟩
  cases hp : prepare {} namedUnreadably none ⟨["rules"]⟩ with
  | error f =>
      rw [hp] at hclean
      cases hclean
  | ok prepared =>
      obtain ⟨w, files⟩ := prepared
      rw [hp] at hclean
      obtain ⟨ts, hts⟩ := tasks_of_loaded (prepare_eq_ok hp) (Path.ofLocation w.root)
      exact (upToDate_iff hp hts).mpr ((checkUnlisted_still hts).2.mp hclean)

end Command

end Emend

import Emend.Proofs.DryRuns
import Emend.Proofs.Reports

/-!
# What the totals say

`apply` counts failures in two ways: a document that has drifted has the failed rule among its
reports, and any other document that failed is counted by itself. So the number of failures is
the number of documents that failed only because the reports of a session fit its end: those of
one that has come to its end name no failed rule, and those of one that has drifted name one.

* `accounted_session`: the reports of every session fit its end.
* `failed_countDocument`, `all_countDocument`: what one document adds to the totals.
* `failed_ofDone`, `all_ofDone`: hence what the totals are, over all documents.
* `field?_sorted`, `status_of_outcomeJson?`: what the entry of a document says of its end.
* `exitCode_iff`: how a command ends that has been prepared and does not break off.
* `told_of_listable`, `brokenOff_of_unlisted`: what it comes to otherwise, and if it does.
* `apply_counts_exact`: the totals and the exit code tell the same documents that failed, and so
  do the entries; neither the exit code nor the tree depends on what is printed, unless an entry
  cannot be made.
* `apply_breaks_off`: then it may depend on it.
-/

namespace Emend

/-! ## Fields of sorted values -/

namespace Json

/-- The field of an object that has a key. -/
def field? : Json → String → Option Json
  | object fields, key => fields.lookup key
  | _, _ => none

theorem lookup_cons (k : String) (v : Json) (fields : List (String × Json)) (key : String) :
    ((k, v) :: fields).lookup key = if key = k then some v else fields.lookup key := by
  rw [List.lookup_cons]
  by_cases hk : key = k
  · simp [hk]
  · have hne : (key == k) = false := by simpa using hk
    rw [hne, if_neg hk]

theorem lookup_insertField (k : String) (v : Json) (fields : List (String × Json))
    (key : String) :
    (insertField k v fields).lookup key = if key = k then some v else fields.lookup key := by
  induction fields with
  | nil => exact lookup_cons k v [] key
  | cons field rest ih =>
      obtain ⟨k', v'⟩ := field
      rw [insertField]
      split
      · rename_i hlt
        rw [lookup_cons, lookup_cons, ih]
        by_cases hk' : key = k'
        · -- keys of which one comes before the other are different
          have hne : key ≠ k := by
            intro hk
            rw [← hk', ← hk] at hlt
            exact String.lt_irrefl key hlt
          rw [if_pos hk', if_neg hne, if_pos hk']
        · rw [if_neg hk', if_neg hk']
      · exact lookup_cons k v ((k', v') :: rest) key

theorem lookup_sortedFields (fields : List (String × Json)) (key : String) :
    (sortedFields fields).lookup key = (fields.lookup key).map sorted := by
  induction fields with
  | nil => rfl
  | cons field rest ih =>
      obtain ⟨k, v⟩ := field
      rw [sortedFields, lookup_insertField, ih, lookup_cons]
      by_cases hk : key = k
      · rw [if_pos hk, if_pos hk, Option.map_some]
      · rw [if_neg hk, if_neg hk]

/-- **Sorting the fields of an object keeps each field**, with what it holds sorted as well. -/
theorem field?_sorted (fields : List (String × Json)) (key : String) :
    (sorted (.object fields)).field? key = (fields.lookup key).map sorted := by
  rw [sorted, field?, lookup_sortedFields]

end Json

namespace Command

variable {session : FileTree → Plan → Run} {s : Surroundings} {t : FileTree}
  {named : Option Path} {rules : Path} {w : Workspace} {files : List (Path × RuleFile)}
  {ts : List Task} {done : List FileOutcome} {entries : List Json}
  {r : Except SessionError Session}

/-! ## How a session ends, and what it reports -/

/-- What has been reported of a document, also of one that has drifted. -/
def reportsOf : Except SessionError Session → List Report
  | .ok session => session.reports
  | .error (.drifted _ _ reports) => reports
  | .error _ => []

/-- Has the session failed for another cause than drift, so that there are no reports? -/
def failedUnreported : Except SessionError Session → Bool
  | .ok _ => false
  | .error (.drifted ..) => false
  | .error _ => true

/-- Do the reports fit the end? Only drift shows in them, and it shows in one report. -/
def Accounted (r : Except SessionError Session) : Prop :=
  (reportsOf r).countP (·.outcome.isFailed) = if r.isOk || failedUnreported r then 0 else 1

/-- **The reports of every session fit its end.** -/
theorem accounted_session (e : Editor) (write : Bool) (t : FileTree) (identity : Path)
    (rules : RuleSet) : Accounted (e.session write t identity rules).result := by
  rcases Editor.session_cases e t identity rules with ⟨err, h⟩ | ⟨d, rule, h⟩ | ⟨d, l, mode, h⟩
  · -- the document was not opened, so no rule has been reported
    have ho := (h write).opened
    rw [(h write).result]
    cases err with
    | drifted path id reports => exact absurd ho Editor.openDocument_ne_drifted
    | workspace err => rfl
    | io path fault => rfl
  · -- a rule has ended the pass: its report is the last one, and no other one names a failure
    have hends := (Pass.over_faithful rules.rules d.initial).ending (h write).aborted
    obtain ⟨front, hreports, hfront⟩ := hends
    have hnone : front.countP (·.outcome.isFailed) = 0 := by
      rw [List.countP_eq_zero]
      intro report hr hfail
      cases ho : report.outcome <;> simp [ho, Outcome.isFailed] at hfail
      exact hfront report hr ho
    rw [(h write).result]
    show (rules.pass d.initial).reports.countP _ = 1
    rw [RuleSet.pass, hreports, List.countP_append, hnone]
    rfl
  · -- the pass has come to its end, which it does only if no rule fails
    have hunfailed := Pass.unfailed_of_finished (h write).finished
    rw [(h write).result]
    show (rules.pass d.initial).reports.countP _ = 0
    rw [List.countP_eq_zero]
    intro report hr hfail
    rw [hunfailed report hr] at hfail
    cases hfail

/-- So do those of all tasks that have been performed. -/
theorem accounted_endsOf (h : ∀ t P, Accounted (session t P).result) (t : FileTree)
    (ts : List Task) : ∀ o ∈ endsOf session t ts, Accounted o.2.2 := by
  induction ts generalizing t with
  | nil => simp [endsOf]
  | cons task rest ih =>
      intro o ho
      rcases List.mem_cons.mp ho with rfl | ho
      · exact h t task.2
      · exact ih _ o ho

/-! ## What is counted -/

namespace Totals

variable {totals : Totals}

/-- How many rules have been counted, whatever they came to. -/
def all (totals : Totals) : Nat :=
  totals.applied + totals.alreadyApplied + totals.absent + totals.failed

theorem countOutcome_eq (totals : Totals) (o : Outcome) :
    (totals.countOutcome o).all = totals.all + 1
      ∧ (totals.countOutcome o).failed = totals.failed + if o.isFailed then 1 else 0 := by
  cases o with
  | applied n =>
      refine ⟨?_, rfl⟩
      show totals.applied + 1 + totals.alreadyApplied + totals.absent + totals.failed = _
      rw [all]
      omega
  | alreadyApplied =>
      refine ⟨?_, rfl⟩
      show totals.applied + (totals.alreadyApplied + 1) + totals.absent + totals.failed = _
      rw [all]
      omega
  | absent =>
      refine ⟨?_, rfl⟩
      show totals.applied + totals.alreadyApplied + (totals.absent + 1) + totals.failed = _
      rw [all]
      omega
  | failed => exact ⟨rfl, rfl⟩

/-- What some reports add. -/
theorem countReports_eq (totals : Totals) (reports : List Report) :
    (totals.countReports reports).all = totals.all + reports.length
      ∧ (totals.countReports reports).failed =
        totals.failed + reports.countP (·.outcome.isFailed) := by
  induction reports generalizing totals with
  | nil => exact ⟨rfl, rfl⟩
  | cons report rest ih =>
      obtain ⟨hall, hfailed⟩ := countOutcome_eq totals report.outcome
      obtain ⟨hall', hfailed'⟩ := ih (totals.countOutcome report.outcome)
      have hstep : totals.countReports (report :: rest) =
          (totals.countOutcome report.outcome).countReports rest := rfl
      rw [hstep, hall', hfailed', hall, hfailed, List.length_cons, List.countP_cons]
      omega

/-- **What a document adds to all that is counted**: its reports, or one if there are none. -/
theorem all_countDocument (totals : Totals) (r : Except SessionError Session) :
    (totals.countDocument r).all =
      totals.all + (reportsOf r).length + if failedUnreported r then 1 else 0 := by
  cases r with
  | ok session =>
      have hall := (countReports_eq totals session.reports).1
      rw [countDocument]
      split <;> exact hall
  | error err =>
      cases err with
      | drifted path rule reports => exact (countReports_eq totals reports).1
      | workspace err => rfl
      | io path fault => rfl

/-- **What a document adds to the failures**: one if it has failed. -/
theorem failed_countDocument (totals : Totals) (h : Accounted r) :
    (totals.countDocument r).failed = totals.failed + if r.isOk then 0 else 1 := by
  cases r with
  | ok session =>
      have hfailed := (countReports_eq totals session.reports).2
      have hnone : session.reports.countP (·.outcome.isFailed) = 0 := h
      rw [hnone] at hfailed
      rw [countDocument]
      split <;> exact hfailed
  | error err =>
      cases err with
      | drifted path rule reports =>
          -- the rule that failed stands for the document
          have hone : reports.countP (·.outcome.isFailed) = 1 := h
          have hfailed := (countReports_eq totals reports).2
          rw [hone] at hfailed
          exact hfailed
      | workspace err => rfl
      | io path fault => rfl

theorem all_foldl (totals : Totals) (ends : List End) :
    (ends.foldl (fun totals o => totals.countDocument o.2.2) totals).all =
      totals.all + (ends.flatMap fun o => reportsOf o.2.2).length
        + ends.countP fun o => failedUnreported o.2.2 := by
  induction ends generalizing totals with
  | nil => rfl
  | cons o rest ih =>
      rw [List.foldl_cons, ih, all_countDocument, List.flatMap_cons, List.length_append,
        List.countP_cons]
      omega

theorem failed_foldl (totals : Totals) {ends : List End} (h : ∀ o ∈ ends, Accounted o.2.2) :
    (ends.foldl (fun totals o => totals.countDocument o.2.2) totals).failed =
      totals.failed + ends.countP fun o => !o.2.2.isOk := by
  induction ends generalizing totals with
  | nil => rfl
  | cons o rest ih =>
      rw [List.foldl_cons, ih _ fun o ho => h o (List.mem_cons_of_mem _ ho),
        failed_countDocument totals (h o List.mem_cons_self), List.countP_cons]
      -- the totals ask for what went well, and the count for what did not
      have hone : (if o.2.2.isOk then 0 else 1) = if !o.2.2.isOk then 1 else 0 := by
        cases o.2.2.isOk <;> rfl
      rw [hone]
      omega

/-- **All that is counted**: the reports, and the documents that failed without any. -/
theorem all_ofDone (done : List FileOutcome) :
    (ofDone done).all = ((allEnds done).flatMap fun o => reportsOf o.2.2).length
      + (allEnds done).countP fun o => failedUnreported o.2.2 := by
  rw [ofDone_eq_foldl, all_foldl]
  have hnone : ({} : Totals).all = 0 := rfl
  rw [hnone, Nat.zero_add]

/-- **The failures are the documents that failed.** -/
theorem failed_ofDone (h : ∀ o ∈ allEnds done, Accounted o.2.2) :
    (ofDone done).failed = (allEnds done).countP fun o => !o.2.2.isOk := by
  rw [ofDone_eq_foldl, failed_foldl _ h]
  have hnone : ({} : Totals).failed = 0 := rfl
  rw [hnone, Nat.zero_add]

end Totals

/-! ## Entries -/

/-- The status in the entry of a document, by what became of it. -/
def statusOf : Except SessionError Session → String
  | .ok _ => "ok"
  | .error (.drifted ..) => "aborted"
  | .error _ => "error"

theorem statusOf_eq_ok_iff : statusOf r = "ok" ↔ r.isOk = true := by
  cases r with
  | ok session => exact ⟨fun _ => rfl, fun _ => rfl⟩
  | error err =>
      have hne : statusOf (.error err) ≠ "ok" := by
        cases err with
        | drifted path rule reports => exact (by decide : "aborted" ≠ "ok")
        | workspace err => exact (by decide : "error" ≠ "ok")
        | io path fault => exact (by decide : "error" ≠ "ok")
      exact ⟨fun h => absurd h hne, fun h => nomatch h⟩

/-- **The entry of a document has its status**, wherever the fields have been sorted to. -/
theorem status_of_outcomeJson? {file : Path} {o : DocumentOutcome} {entry : Json}
    (h : outcomeJson? file o = some entry) :
    entry.field? "status" = some (.text (statusOf o.2)) := by
  obtain ⟨document, r⟩ := o
  cases r with
  | ok session =>
      simp only [outcomeJson?, Option.bind_eq_bind, Option.bind_eq_some_iff, Option.pure_def,
        Option.some.injEq] at h
      obtain ⟨path, -, result, -, rfl⟩ := h
      exact Json.field?_sorted _ "status"
  | error err =>
      cases err with
      | drifted | workspace | io =>
          simp only [outcomeJson?, Option.bind_eq_bind, Option.bind_eq_some_iff, Option.pure_def,
            Option.some.injEq] at h
          obtain ⟨path, -, result, -, rfl⟩ := h
          exact Json.field?_sorted _ "status"

/-- **Some document has failed exactly if some entry has another status than `ok`.** -/
theorem exists_failed_iff (h : entriesOf? done = some entries) :
    (∃ o ∈ allEnds done, o.2.2.isOk = false) ↔
      ∃ entry ∈ entries, entry.field? "status" ≠ some (.text "ok") := by
  have htext : ∀ a b : String, some (Json.text a) = some (Json.text b) ↔ a = b := by
    intro a b
    rw [Option.some_inj, Json.text.injEq]
  have hentries : ∀ entry, entry ∈ entries ↔
      ∃ o ∈ allEnds done, outcomeJson? o.1 o.2 = some entry := by
    intro entry
    have hmem : some entry ∈ entries.map some ↔ entry ∈ entries := by simp
    rw [← hmem, ← entriesOf?_eq_some_iff.mp h, List.mem_map]
  constructor
  · rintro ⟨o, ho, hfailed⟩
    have hall : (entriesOf? done).isSome := Option.isSome_of_eq_some h
    obtain ⟨entry, hentry⟩ := Option.isSome_iff_exists.mp
      (outcomeJson?_isSome_iff.mpr (entriesOf?_isSome_iff.mp hall o ho))
    refine ⟨entry, (hentries entry).mpr ⟨o, ho, hentry⟩, fun hok => ?_⟩
    rw [status_of_outcomeJson? hentry, htext, statusOf_eq_ok_iff, hfailed] at hok
    cases hok
  · rintro ⟨entry, hentry, hstatus⟩
    obtain ⟨o, ho, hjson⟩ := (hentries entry).mp hentry
    rw [status_of_outcomeJson? hjson, Ne, htext, statusOf_eq_ok_iff, Bool.not_eq_true] at hstatus
    exact ⟨o, ho, hstatus⟩

/-! ## What is printed -/

/-- Texts that say nothing on the first channel say nothing there together. -/
theorem out_all {ps : List Printed} (h : ∀ p ∈ ps, p.out = "") : (Printed.all ps).out = "" := by
  -- the fold begins with nothing, and goes on with whatever has been printed so far
  have hfoldl : ∀ before : Printed, before.out = "" →
      (ps.foldl Printed.append before).out = "" := by
    induction ps with
    | nil => exact fun before hb => hb
    | cons p rest ih =>
        intro before hb
        refine ih (fun p hp => h p (List.mem_cons_of_mem _ hp)) _ ?_
        rw [Printed.append, hb, h p List.mem_cons_self]
        rfl
  exact hfoldl {} rfl

/-- With entries, nothing else is printed on the first channel. -/
theorem out_applyLines (root : Location) (dryRun diff : Bool) (verbosity : Nat)
    (done : List FileOutcome) : (applyLines root dryRun diff true verbosity done).out = "" := by
  have hlines : (Printed.all (done.map fun f => logLines verbosity f.log ++ {})).out = "" := by
    refine out_all fun p hp => ?_
    obtain ⟨f, -, rfl⟩ := List.mem_map.mp hp
    rfl
  show "" ++ (Printed.all _).out = "" ++ ""
  exact congrArg ("" ++ ·) hlines

/-! ## What `apply` makes of the documents that failed -/

/-- The reports of all documents of a command fit their ends. -/
theorem accounted_apply (hp : prepare s t named rules = .ok (w, files)) (dryRun : Bool) :
    ∀ o ∈ allEnds (applyProgress s t rules named dryRun false).done, Accounted o.2.2 := by
  obtain ⟨ts, hts⟩ := tasks_of_loaded (prepare_eq_ok hp) (Path.ofLocation w.root)
  have hsessions : ∀ t P, Accounted (runOf w dryRun t P).result := fun t P =>
    accounted_session { workspace := some w, dryRun } (!dryRun) t P.document P.rules
  rw [applyProgress_of_ok hp, (applyAll_of_tasks hts dryRun t).2.2]
  exact accounted_endsOf hsessions t ts

/-- **It ends with 1 exactly if a document has failed**, and else with 0, unless it is asked for
entries that cannot be made. -/
theorem exitCode_iff (hp : prepare s t named rules = .ok (w, files)) (dryRun diff : Bool)
    {json : Bool} (verbosity : Nat)
    (hjson : json = true → ∀ o ∈ allEnds (applyProgress s t rules named dryRun false).done,
      Listable o) :
    let output := run s t verbosity (.apply rules named dryRun diff json)
    (output.exitCode = 1 ↔
        ∃ o ∈ allEnds (applyProgress s t rules named dryRun false).done, o.2.2.isOk = false)
      ∧ (output.exitCode = 0 ∨ output.exitCode = 1) := by
  intro output
  have hcode : output.exitCode =
      if 0 < (Totals.ofDone (applyProgress s t rules named dryRun false).done).failed then 1
      else 0 := by
    rw [show output.exitCode = _ from exitCode_apply hp dryRun diff json verbosity]
    refine if_neg fun h => ?_
    obtain ⟨hj, hnone⟩ := Bool.and_eq_true_iff.mp h
    obtain ⟨o, ho, hnot⟩ := entriesOf?_eq_none_iff.mp (Option.isNone_iff_eq_none.mp hnone)
    exact hnot (hjson hj o ho)
  rw [Totals.failed_ofDone (accounted_apply hp dryRun)] at hcode
  have hexists : 0 < (allEnds (applyProgress s t rules named dryRun false).done).countP
        (fun o => !o.2.2.isOk) ↔
      ∃ o ∈ allEnds (applyProgress s t rules named dryRun false).done, o.2.2.isOk = false := by
    rw [List.countP_pos_iff]
    simp only [Bool.not_eq_true']
  rw [← hexists, hcode]
  split
  · rename_i h
    exact ⟨iff_of_true rfl h, .inr rfl⟩
  · rename_i h
    exact ⟨iff_of_false Nat.zero_ne_one h, .inl rfl⟩

/-- What `apply` comes to that does not break off, by what becomes of the documents. -/
structure Told (w : Workspace) (dryRun diff json : Bool) (verbosity : Nat) (progress : Progress)
    (output : Output) : Prop where
  exitCode : output.exitCode = 1 ↔ ∃ o ∈ allEnds progress.done, o.2.2.isOk = false
  otherwise : output.exitCode = 0 ∨ output.exitCode = 1
  tree : output.tree = progress.tree
  printed : json = false → output.printed =
    applyLines w.root dryRun diff false verbosity progress.done ++
      (Totals.ofDone progress.done).lines dryRun
  /-- The entries that are asked for tell the documents that failed. -/
  entries : json = true → ∃ entries, entriesOf? progress.done = some entries
    ∧ output.printed.out = (Json.list entries).pretty ++ "\n"
    ∧ ((∃ o ∈ allEnds progress.done, o.2.2.isOk = false) ↔
      ∃ entry ∈ entries, entry.field? "status" ≠ some (.text "ok"))

/-- What `apply` comes to that breaks off: it has applied the rule files up to the first one with
a document whose entry cannot be made, and has printed no entry. -/
structure BrokenOff (w : Workspace) (t : FileTree) (files : List (Path × RuleFile))
    (dryRun : Bool) (output : Output) : Prop where
  exitCode : output.exitCode = 101
  out : output.printed.out = ""
  tree : ∃ gone left front last, files = gone ++ left
    ∧ output.tree = (applyAll w dryRun false t gone).tree
    ∧ (applyAll w dryRun false t gone).done = front ++ [last]
    ∧ (∀ o ∈ allEnds front, Listable o) ∧ ∃ o ∈ allEnds [last], ¬ Listable o

theorem told_of_listable (hp : prepare s t named rules = .ok (w, files))
    (dryRun diff : Bool) {json : Bool} (verbosity : Nat)
    (hjson : json = true → ∀ o ∈ allEnds (applyProgress s t rules named dryRun false).done,
      Listable o) :
    Told w dryRun diff json verbosity (applyProgress s t rules named dryRun false)
      (run s t verbosity (.apply rules named dryRun diff json)) := by
  obtain ⟨hone, hzero⟩ := exitCode_iff hp dryRun diff verbosity hjson
  cases json with
  | false =>
      have hrun := run_apply_plain hp dryRun diff verbosity
      exact ⟨hone, hzero, by rw [hrun], fun _ => by rw [hrun], nofun⟩
  | true =>
      obtain ⟨entries, he⟩ := Option.isSome_iff_exists.mp (entriesOf?_isSome_iff.mpr (hjson rfl))
      have hrun := run_apply_listed hp he diff verbosity
      refine ⟨hone, hzero, by rw [hrun], nofun, fun _ => ⟨entries, he, ?_, exists_failed_iff he⟩⟩
      rw [hrun]
      show (applyLines w.root dryRun diff true verbosity _).out ++ (entriesLine entries).out = _
      rw [out_applyLines]
      exact String.empty_append

theorem brokenOff_of_unlisted (hp : prepare s t named rules = .ok (w, files)) (dryRun diff : Bool)
    (verbosity : Nat)
    (h : ∃ o ∈ allEnds (applyProgress s t rules named dryRun false).done, ¬ Listable o) :
    BrokenOff w t files dryRun (run s t verbosity (.apply rules named dryRun diff true)) := by
  have hrun := run_apply_unlisted hp (entriesOf?_eq_none_iff.mpr h) diff verbosity
  rw [applyProgress_of_ok hp] at h
  obtain ⟨ts, hts⟩ := tasks_of_loaded (prepare_eq_ok hp) (Path.ofLocation w.root)
  have hmade : ∀ file ∈ files, ∀ t, ∃ b,
      ({ workspace := some w, dryRun } : Editor).applyFile t file.2 (Path.ofLocation w.root) =
        .ok b := by
    intro file hfile t
    obtain ⟨plans, hplans⟩ := exists_plans_of_tasks hts hfile
    exact ⟨_, RuleFile.applyFile_of_plans hplans _ t⟩
  obtain ⟨gone, left, front, last, hfiles, hwork, hdone, hfront, hlast⟩ :=
    takeAll_until hmade (entriesOf?_eq_none_iff.mpr h)
  refine ⟨by rw [hrun]; rfl, ?_, gone, left, front, last, hfiles, ?_, hdone,
    entriesOf?_isSome_iff.mp hfront, ?_⟩
  · rw [hrun]
    show (applyLines w.root dryRun diff true verbosity _).out ++ "" = ""
    rw [out_applyLines]
    rfl
  · rw [hrun, applyProgress_of_ok hp]
    exact congrArg Progress.tree hwork
  · rw [← entriesOf?_eq_none_iff, entriesOf?_cons, hlast]
    rfl

/--
**The totals and the exit code tell exactly which documents failed, and so do the entries that can
be made.** If the workspace resolves and the rule files can be loaded, as many rules are counted as
failed as documents failed, and all in all as many as there are reports, and one for each document
that failed without any. The command ends with 1 exactly if a document has failed, and exactly if
an entry has another status than `ok`. Neither the exit code nor the tree depends on whether
changed lines are asked for; nor on whether entries are, if the paths of all rule files and
documents are texts. If one of them is not, the command breaks off where entries are asked for.
-/
theorem apply_counts_exact (hw : Workspace.ofPath t (workspacePath s t named) = .ok w)
    (hf : RuleFile.loadAll t rules = .ok files) (dryRun : Bool) :
    let progress := applyProgress s t rules named dryRun false
    let ends := allEnds progress.done
    let totals := Totals.ofDone progress.done
    totals.failed = ends.countP (fun o => !o.2.2.isOk)
      ∧ totals.applied + totals.alreadyApplied + totals.absent + totals.failed =
        (ends.flatMap fun o => reportsOf o.2.2).length
          + ends.countP (fun o => failedUnreported o.2.2)
      ∧ (∀ diff json verbosity, (json = true → ∀ o ∈ ends, Listable o) →
        let output := run s t verbosity (.apply rules named dryRun diff json)
        Told w dryRun diff json verbosity progress output
          ∧ ∀ diff' json' verbosity', (json' = true → ∀ o ∈ ends, Listable o) →
            let other := run s t verbosity' (.apply rules named dryRun diff' json')
            other.exitCode = output.exitCode ∧ other.tree = output.tree)
      ∧ ((∃ o ∈ ends, ¬ Listable o) → ∀ diff verbosity,
        BrokenOff w t files dryRun (run s t verbosity (.apply rules named dryRun diff true))) := by
  have hp := prepare_eq_ok_iff.mpr ⟨hw, hf⟩
  intro progress ends totals
  refine ⟨Totals.failed_ofDone (accounted_apply hp dryRun), Totals.all_ofDone progress.done,
    fun diff json verbosity hjson => ?_,
    fun h diff verbosity => brokenOff_of_unlisted hp dryRun diff verbosity h⟩
  have htold := told_of_listable hp dryRun diff verbosity hjson
  refine ⟨htold, fun diff' json' verbosity' hjson' => ?_⟩
  have hother := told_of_listable hp dryRun diff' verbosity' hjson'
  refine ⟨?_, hother.tree.trans htold.tree.symm⟩
  -- both codes are 1 if a document has failed, and 0 if none has
  have hsame := hother.exitCode.trans htold.exitCode.symm
  have hzero := hother.otherwise
  have hzero' := htold.otherwise
  omega

/-- Three rule files: one for a document that has its text, one for a document that has not got
the text that it needs, and one for a document that does not exist. -/
def mixed : FileTree where
  entries :=
    [(["a.txt"], .file "one".toUTF8 0o644),
      (["b.txt"], .file "two".toUTF8 0o644),
      (["rules"], .directory directoryMode),
      (["rules", "a.toml"], .file (ruleText "a.txt" "one" "two" []).toUTF8 0o644),
      (["rules", "b.toml"], .file (ruleText "b.txt" "one" "three"
        ["guard = \x7btype = \"literal\", text = \"three\"\x7d", "required = true"]).toUTF8 0o644),
      (["rules", "c.toml"], .file (ruleText "c.txt" "one" "two" []).toUTF8 0o644)]

theorem apply_counts_exact_mixed :
    (∃ files, Workspace.ofPath mixed (workspacePath {} mixed none) = .ok ⟨[], []⟩
      ∧ RuleFile.loadAll mixed ⟨["rules"]⟩ = .ok files)
      ∧ (Totals.ofDone (applyProgress {} mixed ⟨["rules"]⟩ none false false).done).failed = 2
      ∧ (run {} mixed 0 (.apply ⟨["rules"]⟩ none false false false)).exitCode = 1 := by
  have hw : Workspace.ofPath mixed (workspacePath {} mixed none) = .ok ⟨[], []⟩ := by
    decide +kernel
  have hends : (allEnds (applyProgress {} mixed ⟨["rules"]⟩ none false false).done).map
      (fun o => o.2.2.isOk) = [true, false, false] := by
    decide +kernel
  cases hf : RuleFile.loadAll mixed ⟨["rules"]⟩ with
  | error err =>
      rw [applyProgress_of_error (prepare_of_loadAll hw hf)] at hends
      cases hends
  | ok files =>
      obtain ⟨hfailed, -, hruns, -⟩ := apply_counts_exact hw hf false
      have htwo : (allEnds (applyProgress {} mixed ⟨["rules"]⟩ none false false).done).countP
          (fun o => !o.2.2.isOk) = 2 := by
        have hmap := congrArg (List.countP (!·)) hends
        rw [List.countP_map] at hmap
        exact hmap
      have hmem : false ∈ (allEnds (applyProgress {} mixed ⟨["rules"]⟩ none false false).done).map
          (fun o => o.2.2.isOk) := by
        rw [hends]
        decide
      refine ⟨⟨files, hw, rfl⟩, hfailed.trans htwo, ?_⟩
      exact (hruns false false 0 nofun).1.exitCode.mpr (List.mem_map.mp hmem)

/-- Two rule files for two documents. The name of the first one is no text. -/
def halfway : FileTree where
  entries :=
    [(["a.txt"], .file "one".toUTF8 0o644),
      (["b.txt"], .file "one".toUTF8 0o644),
      (["rules"], .directory directoryMode),
      (["rules", unreadableName], .file (ruleText "a.txt" "one" "two" []).toUTF8 0o644),
      (["rules", "b.toml"], .file (ruleText "b.txt" "one" "two" []).toUTF8 0o644)]

/--
**What `apply` does may depend on whether it is asked for entries.** Without them it edits both
documents and ends with 0. With them it breaks off behind the first rule file, so that the second
document keeps its text.
-/
theorem apply_breaks_off :
    (prepare {} halfway none ⟨["rules"]⟩).toOption.isSome = true
      ∧ (run {} halfway 0 (.apply ⟨["rules"]⟩ none false false false)).exitCode = 0
      ∧ (run {} halfway 0 (.apply ⟨["rules"]⟩ none false false true)).exitCode = 101
      ∧ (run {} halfway 0 (.apply ⟨["rules"]⟩ none false false false)).tree.readText ⟨["b.txt"]⟩ =
        .ok "two"
      ∧ (run {} halfway 0 (.apply ⟨["rules"]⟩ none false false true)).tree.readText ⟨["b.txt"]⟩ =
        .ok "one" := by
  decide +kernel

end Command

end Emend

import Emend.Proofs.Tasks

/-!
# Entries of documents

The entry of a document names two paths, that of the rule file and that of the document, and it
can be made only if both are texts. A command that makes entries breaks off behind the first rule
file with a document whose entry cannot be made, and leaves the other rule files alone.

* `outcomeJson?_isSome_iff`: `Listable` says when the entry of a document can be made.
* `entriesOf?_eq_some_iff`: the entries are those of all documents, in order.
* `takeAll_of_entries`: if all of them can be made, the work is what it is without entries.
* `entriesOf?_takeAll`: whether they can is seen from the work without entries.
* `takeAll_until`: if they cannot, this is how far it comes.
* `run_apply_plain`, `run_apply_listed`, `run_apply_unlisted`: how `apply` ends that has been
  prepared.
-/

namespace Emend.Command

/-- Every element has an image exactly if there is a list of all the images. -/
theorem mapM_eq_some_iff {α β : Type} {f : α → Option β} {l : List α} {images : List β} :
    l.mapM f = some images ↔ l.map f = images.map some := by
  induction l generalizing images with
  | nil => cases images <;> simp
  | cons a rest ih =>
      rw [List.mapM_cons, List.map_cons]
      cases ha : f a with
      | none => cases images <;> simp
      | some b =>
          cases images with
          | nil => cases rest.mapM f <;> simp
          | cons b' more =>
              rw [List.map_cons, List.cons.injEq, Option.some_inj, ← ih]
              cases rest.mapM f <;> simp

theorem isSome_mapM_iff {α β : Type} {f : α → Option β} {l : List α} :
    (l.mapM f).isSome ↔ ∀ a ∈ l, (f a).isSome := by
  induction l with
  | nil => simp
  | cons a rest ih =>
      rw [List.mapM_cons, List.forall_mem_cons, ← ih]
      cases f a <;> cases rest.mapM f <;> simp

variable {s : Surroundings} {t : FileTree} {named : Option Path} {rules : Path}
  {w : Workspace} {files : List (Path × RuleFile)} {done : List FileOutcome}
  {batch : FileTree → RuleFile → Except RuleError Batch} {entries : List Json}

/-! ## Entries that can be made -/

/-- The path of a document in its entry: that of the file, or of one that failed the one that
the rule file names. -/
def entryPath : DocumentOutcome → Path
  | (_, .ok session) => session.document
  | (document, .error _) => document

/-- Can the entry of a document be made? Then both its paths are texts. -/
def Listable (o : End) : Prop := o.1.text?.isSome ∧ (entryPath o.2).text?.isSome

instance (o : End) : Decidable (Listable o) :=
  inferInstanceAs (Decidable (o.1.text?.isSome ∧ (entryPath o.2).text?.isSome))

/-- **The entry of a document can be made exactly if both its paths are texts.** -/
theorem outcomeJson?_isSome_iff {o : End} : (outcomeJson? o.1 o.2).isSome ↔ Listable o := by
  obtain ⟨file, document, r⟩ := o
  cases r with
  | ok session =>
      show (outcomeJson? file (document, .ok session)).isSome = true ↔
        file.text?.isSome = true ∧ session.document.text?.isSome = true
      cases hf : file.text? <;> cases hd : session.document.text? <;>
        simp [outcomeJson?, Session.toJson?, Path.toJson?, hf, hd]
  | error err =>
      show (outcomeJson? file (document, .error err)).isSome = true ↔
        file.text?.isSome = true ∧ document.text?.isSome = true
      cases err <;> cases hf : file.text? <;> cases hd : document.text? <;>
        simp [outcomeJson?, Path.toJson?, hf, hd]

/-- The name of a rule file that is no text: a letter, a byte that no character has, and the
ending. -/
def unreadableName : SystemText :=
  .raw ⟨#[0x61, 0xFF, 0x2E, 0x74, 0x6F, 0x6D, 0x6C]⟩ (by decide)

theorem entriesOf?_cons (f : FileOutcome) (rest : List FileOutcome) :
    entriesOf? (f :: rest) = f.entries?.bind fun first => (entriesOf? rest).map (first ++ ·) := by
  rw [entriesOf?, entriesOf?, List.mapM_cons]
  cases f.entries? with
  | none => rfl
  | some first =>
      cases rest.mapM FileOutcome.entries? <;> rfl

/-- The entries are made one document after another. -/
theorem entriesOf?_eq_mapM (done : List FileOutcome) :
    entriesOf? done = (allEnds done).mapM fun o => outcomeJson? o.1 o.2 := by
  induction done with
  | nil => rfl
  | cons f rest ih =>
      have hfirst : f.entries? =
          (f.outcomes.map (Prod.mk f.file)).mapM fun o : End => outcomeJson? o.1 o.2 := by
        rw [List.mapM_map]
        rfl
      have hends : allEnds (f :: rest) = f.outcomes.map (Prod.mk f.file) ++ allEnds rest := rfl
      rw [entriesOf?_cons, hends, List.mapM_append, ← hfirst, ← ih]
      cases f.entries? with
      | none => rfl
      | some first => cases entriesOf? rest <;> rfl

/-- **The entries are those of all documents**, if each has one. -/
theorem entriesOf?_eq_some_iff :
    entriesOf? done = some entries ↔
      (allEnds done).map (fun o => outcomeJson? o.1 o.2) = entries.map some := by
  rw [entriesOf?_eq_mapM, mapM_eq_some_iff]

theorem entriesOf?_isSome_iff : (entriesOf? done).isSome ↔ ∀ o ∈ allEnds done, Listable o := by
  rw [entriesOf?_eq_mapM, isSome_mapM_iff]
  exact forall₂_congr fun o _ => outcomeJson?_isSome_iff

theorem entriesOf?_eq_none_iff : entriesOf? done = none ↔ ∃ o ∈ allEnds done, ¬ Listable o := by
  rw [← Option.not_isSome_iff_eq_none, entriesOf?_isSome_iff]
  simp only [not_forall, exists_prop]

/-! ## How far the work comes -/

/-- **If all entries can be made, the work is what it is without them.** -/
theorem takeAll_of_entries (h : (entriesOf? (takeAll false batch t files).done).isSome) :
    takeAll true batch t files = takeAll false batch t files := by
  induction files generalizing t with
  | nil => rfl
  | cons file rest ih =>
      obtain ⟨path, f⟩ := file
      simp only [takeAll] at h ⊢
      cases hb : batch t f with
      | error e => rfl
      | ok b =>
          simp only [hb, Bool.false_and, Bool.false_eq_true, if_false] at h ⊢
          rw [entriesOf?_cons] at h
          cases he : FileOutcome.entries? ⟨path, b.log, b.outcomes⟩ with
          | none =>
              rw [he] at h
              cases h
          | some first =>
              have hrest : (entriesOf? (takeAll false batch b.tree rest).done).isSome := by
                simpa [he] using h
              simp [ih hrest]

/-- **Whether all entries can be made is seen from the work without them**, which goes on where
the work with them breaks off. -/
theorem entriesOf?_takeAll (batch : FileTree → RuleFile → Except RuleError Batch) (t : FileTree)
    (files : List (Path × RuleFile)) :
    entriesOf? (takeAll true batch t files).done = entriesOf? (takeAll false batch t files).done := by
  induction files generalizing t with
  | nil => rfl
  | cons file rest ih =>
      obtain ⟨path, f⟩ := file
      simp only [takeAll]
      cases hb : batch t f with
      | error e => rfl
      | ok b =>
          simp only [Bool.false_and, Bool.false_eq_true, if_false]
          cases he : FileOutcome.entries? ⟨path, b.log, b.outcomes⟩ with
          | none => simp [entriesOf?_cons, he]
          | some first => simp [entriesOf?_cons, he, ih]

/-- **If an entry cannot be made, the work breaks off behind its rule file**: some rule files are
gone through as they are without entries, all entries but some of the last one's can be made, and
the other rule files are left alone. -/
theorem takeAll_until (hall : ∀ file ∈ files, ∀ t, ∃ b, batch t file.2 = .ok b)
    (h : entriesOf? (takeAll false batch t files).done = none) :
    ∃ gone left front last, files = gone ++ left
      ∧ takeAll true batch t files = takeAll false batch t gone
      ∧ (takeAll false batch t gone).done = front ++ [last]
      ∧ (entriesOf? front).isSome ∧ last.entries? = none := by
  induction files generalizing t with
  | nil => cases h
  | cons file rest ih =>
      obtain ⟨path, f⟩ := file
      obtain ⟨b, hb⟩ := hall (path, f) List.mem_cons_self t
      have hgone : ∀ gone, takeAll false batch t ((path, f) :: gone) =
          { takeAll false batch b.tree gone with
            done := ⟨path, b.log, b.outcomes⟩ :: (takeAll false batch b.tree gone).done } := by
        intro gone
        simp only [takeAll, hb, Bool.false_and, Bool.false_eq_true, if_false]
      cases he : FileOutcome.entries? ⟨path, b.log, b.outcomes⟩ with
      | none =>
          -- it breaks off behind this very file
          refine ⟨[(path, f)], rest, [], _, rfl, ?_, congrArg Progress.done (hgone []), rfl, he⟩
          rw [hgone]
          simp [takeAll, hb, he]
      | some first =>
          rw [hgone, entriesOf?_cons, he] at h
          have hrest : entriesOf? (takeAll false batch b.tree rest).done = none := by
            simpa using h
          obtain ⟨gone, left, front, last, rfl, hwork, hdone, hfront, hlast⟩ :=
            ih (fun file hfile => hall file (List.mem_cons_of_mem _ hfile)) hrest
          refine ⟨(path, f) :: gone, left, ⟨path, b.log, b.outcomes⟩ :: front, last, rfl, ?_, ?_, ?_,
            hlast⟩
          · rw [hgone, ← hwork]
            simp [takeAll, hb, he]
          · rw [hgone, hdone]
            rfl
          · simpa [entriesOf?_cons, he] using hfront

/-! ## How `apply` ends -/

/-- What `apply` does without entries when its workspace resolves and its rule files have been
loaded. -/
theorem run_apply_plain (hp : prepare s t named rules = .ok (w, files)) (dryRun diff : Bool)
    (verbosity : Nat) :
    let progress := applyProgress s t rules named dryRun false
    run s t verbosity (.apply rules named dryRun diff false) =
      { exitCode := if 0 < (Totals.ofDone progress.done).failed then 1 else 0
        printed := applyLines w.root dryRun diff false verbosity progress.done ++
          (Totals.ofDone progress.done).lines dryRun
        tree := progress.tree } := by
  have hfailure := applyAll_failure (w := w) (prepare_eq_ok hp) dryRun false t
  simp only [applyProgress_of_ok hp, run, runApply, hp, hfailure]
  rfl

/-- **With entries that can be made it does the same**, and prints them. -/
theorem run_apply_listed (hp : prepare s t named rules = .ok (w, files)) {dryRun : Bool}
    (h : entriesOf? (applyProgress s t rules named dryRun false).done = some entries)
    (diff : Bool) (verbosity : Nat) :
    let progress := applyProgress s t rules named dryRun false
    run s t verbosity (.apply rules named dryRun diff true) =
      { exitCode := if 0 < (Totals.ofDone progress.done).failed then 1 else 0
        printed := applyLines w.root dryRun diff true verbosity progress.done ++
          entriesLine entries
        tree := progress.tree } := by
  have hfailure := applyAll_failure (w := w) (prepare_eq_ok hp) dryRun false t
  rw [applyProgress_of_ok hp] at h
  have hsame : applyAll w dryRun true t files = applyAll w dryRun false t files :=
    takeAll_of_entries (Option.isSome_of_eq_some h)
  simp only [applyProgress_of_ok hp, run, runApply, hp, hsame, hfailure, h]
  rfl

/-- **With an entry that cannot be made it breaks off.** -/
theorem run_apply_unlisted (hp : prepare s t named rules = .ok (w, files)) {dryRun : Bool}
    (h : entriesOf? (applyProgress s t rules named dryRun false).done = none) (diff : Bool)
    (verbosity : Nat) :
    let progress := applyProgress s t rules named dryRun true
    run s t verbosity (.apply rules named dryRun diff true) =
      breakOff (applyLines w.root dryRun diff true verbosity progress.done) progress.tree := by
  have hfailure := applyAll_failure (w := w) (prepare_eq_ok hp) dryRun true t
  rw [applyProgress_of_ok hp] at h
  have hnone : entriesOf? (applyAll w dryRun true t files).done = none :=
    (entriesOf?_takeAll _ t files).trans h
  simp only [applyProgress_of_ok hp, run, runApply, hp, hfailure, hnone]
  rfl

/-- **The exit code**: only an entry that cannot be made is told from what becomes of documents. -/
theorem exitCode_apply (hp : prepare s t named rules = .ok (w, files)) (dryRun diff json : Bool)
    (verbosity : Nat) :
    let done := (applyProgress s t rules named dryRun false).done
    (run s t verbosity (.apply rules named dryRun diff json)).exitCode =
      if json && (entriesOf? done).isNone then 101
      else if 0 < (Totals.ofDone done).failed then 1 else 0 := by
  intro done
  cases json with
  | false =>
      rw [run_apply_plain hp]
      rfl
  | true =>
      cases he : entriesOf? done with
      | none =>
          rw [run_apply_unlisted hp he]
          rfl
      | some entries =>
          rw [run_apply_listed hp he]
          rfl

end Emend.Command

import Emend.Proofs.DryRuns
import Emend.Proofs.Forbidden
import Emend.Proofs.Totals

/-!
# Directories of rule files

`apply` with a directory finds the workspace once and loads all rule files before it writes
anything. The same rule files can be applied one after another, each by a command of its own;
then every command finds the workspace anew, and loads its rule file from the tree that the
commands before it have left. Both come to the same if no rule file is itself a document: then
nothing that a command looks at before it begins is ever written.

* `loadAll_of_loaded`: a rule file that can be loaded can be named by itself.
* `Standing` says that the workspace and the rule files are found as they were.
* `Standing.performed`: they still are when tasks of these rule files have been performed.
* `Standing.step`, `Standing.run_each`: so one command applies its rule file as the directory
  does, and so do all of them, one after another.
* `isInTurn_of_unresolved`: if the workspace is not found, none of the commands begins.
* `apply_directory`: hence the directory is the sequence of its rule files.
-/

namespace Emend

open FileTree RuleFile

/-! ## Finding the workspace and a rule file -/

/-- In a tree of the same shape a path names the same workspace. -/
theorem FileTree.SameShape.ofPath {t t' : FileTree} (h : t.SameShape t') (p : Path) :
    Workspace.ofPath t' p = Workspace.ofPath t p := by
  have hbelow : ∀ root, Workspace.forbiddenBelow t' root = Workspace.forbiddenBelow t root := by
    intro root
    simp only [Workspace.forbiddenBelow, h.resolve]
  simp only [Workspace.ofPath, Workspace.locate, h.resolve, hbelow]

namespace RuleFile

variable {t t' : FileTree} {path : Path} {f : RuleFile}

/-- Loading looks at nothing but the text at the path. -/
theorem load_of_agree (h : t.Agree t' path) : load t' path = load t path := by
  rw [load, load, h.readText]

/-- What has been loaded was a file. -/
theorem isFile_of_loaded (h : load t path = .ok f) :
    ∃ l text mode, t.resolve path = .ok l ∧ t.get? l = some (.file text mode) := by
  cases hr : t.readText path with
  | error fault => cases (load_of_unreadable hr).symm.trans h
  | ok text =>
      obtain ⟨l, mode, hres, hfile⟩ := readText_eq_ok hr
      exact ⟨l, text.toUTF8, mode, hres, hfile⟩

/-- **A rule file that can be loaded can be named by itself**, as it is no directory. -/
theorem loadAll_of_loaded (h : load t path = .ok f) : loadAll t path = .ok [(path, f)] := by
  obtain ⟨l, text, mode, hres, hfile⟩ := isFile_of_loaded h
  have hno : t.isDirectoryAt l = false := by
    simp [isDirectoryAt, hfile, Entry.isDirectory]
  have hdirectory : t.resolveDirectory path = .error .notADirectory := by
    simp [resolveDirectory, hres, hno, bind, Except.bind, throw, throwThe, MonadExceptOf.throw]
  have hfound : discover t path = .ok [path] := by
    simp only [discover, hdirectory]
  rw [Command.loadAll_of_discover hfound, loadEach_cons_of_ok h]
  rfl

/-- Some rule file has been found if any have been loaded. -/
theorem ne_nil_of_loadAll {files : List (Path × RuleFile)} (h : loadAll t path = .ok files) :
    files ≠ [] := by
  rintro rfl
  have hfound := (loadAll_eq_ok h).1
  unfold discover at hfound
  split at hfound
  · cases hfound
  · rename_i directory hd
    split at hfound
    · cases hfound
    · rename_i names hnames
      rw [Except.ok.injEq, List.map_nil, List.map_eq_nil_iff] at hfound
      exact hnames hfound

end RuleFile

namespace Command

variable {s : Surroundings} {t t' : FileTree} {named : Option Path} {rules : Path}
  {w : Workspace} {files rest : List (Path × RuleFile)} {file : Path × RuleFile}
  {ts : List Task} {ends : List End}

/-! ## Commands one after another -/

/-- Commands with some paths, one after another: each path with the tree that is found. -/
def inTurn (s : Surroundings) (verbosity : Nat) (command : Path → Command) :
    FileTree → List Path → List (FileTree × Path)
  | _, [] => []
  | t, path :: rest =>
    (t, path) :: inTurn s verbosity command (run s t verbosity (command path)).tree rest

/-- The tree that the last of them leaves behind. -/
def treeInTurn (s : Surroundings) (verbosity : Nat) (command : Path → Command) (t : FileTree)
    (paths : List Path) : FileTree :=
  paths.foldl (fun t path => (run s t verbosity (command path)).tree) t

/-! ## What is found before a command begins -/

/-- No document that one of these rule files names leads to one of them. -/
def RulesApart (w : Workspace) (t : FileTree) (files : List (Path × RuleFile)) : Prop :=
  ∀ file ∈ files, ∀ d ∈ file.2.rules,
    ∀ l ∈ (t.resolve (w.fromRoot (file.2.documentOf (Path.ofLocation w.root) d))).toOption,
      ∀ other ∈ files, t.resolve other.1 ≠ .ok l

instance : Decidable (RulesApart w t files) :=
  inferInstanceAs (Decidable (∀ file ∈ files, ∀ d ∈ file.2.rules,
    ∀ l ∈ (t.resolve (w.fromRoot (file.2.documentOf (Path.ofLocation w.root) d))).toOption,
      ∀ other ∈ files, t.resolve other.1 ≠ .ok l))

/-- A tree in which commands find the workspace and these rule files. -/
structure Standing (s : Surroundings) (named : Option Path) (w : Workspace)
    (files : List (Path × RuleFile)) (t : FileTree) : Prop where
  workspace : Workspace.ofPath t (workspacePath s t named) = .ok w
  loads : ∀ file ∈ files, load t file.1 = .ok file.2
  apart : RulesApart w t files

/-- The document of a task is one that its rule file names. -/
theorem exists_definition (h : tasks (Path.ofLocation w.root) files = .ok ts) {task : Task}
    (ht : task ∈ ts) :
    ∃ file ∈ files, ∃ d ∈ file.2.rules,
      file.2.documentOf (Path.ofLocation w.root) d = task.2.document := by
  obtain ⟨f, plans, hf, hplans, hP⟩ := (mem_tasks h).mp ht
  have hgrouped := planAll_grouped f (Path.ofLocation w.root) f.rules
  rw [← RuleFile.plans, hplans] at hgrouped
  obtain ⟨d, hd, hdocument⟩ := hgrouped.1.exists_documentOf hP
  exact ⟨(task.1, f), hf, d, hd, hdocument⟩

namespace Standing

/-- **All is found as before when documents of the rule files have been edited.** -/
theorem performed (h : Standing s named w files t) (hp : Performed w t t' ends)
    (hends : ∀ o ∈ ends, ∃ file ∈ files, ∃ d ∈ file.2.rules,
      file.2.documentOf (Path.ofLocation w.root) d = o.2.1) :
    Standing s named w files t' where
  workspace := by
    have hworking : t'.workingPath = t.workingPath := by
      rw [workingPath, workingPath, hp.shape.workingDirectory]
    have hpath : workspacePath s t' named = workspacePath s t named := by
      rw [workspacePath, workspacePath, hworking]
    rw [hpath, hp.shape.ofPath]
    exact h.workspace
  loads := by
    intro file hfile
    have hagree : t.Agree t' file.1 := by
      refine ⟨hp.shape.resolve file.1, fun l hl => Classical.byContradiction fun hne => ?_⟩
      -- what differs has been written, and only documents are written
      obtain ⟨o, ho, hres, -⟩ := hp.written l hne
      obtain ⟨owner, howner, d, hd, hdocument⟩ := hends o ho
      rw [← hdocument] at hres
      have hleads : l ∈ (t.resolve (w.fromRoot
          (owner.2.documentOf (Path.ofLocation w.root) d))).toOption := by
        rw [hres]
        rfl
      exact h.apart owner howner d hd l hleads file hfile hl
    rw [load_of_agree hagree]
    exact h.loads file hfile
  apart := by
    intro file hfile d hd l hres other hother
    rw [hp.shape.resolve] at hres ⊢
    exact h.apart file hfile d hd l hres other hother

/-- **One command of the sequence**: it is prepared with its rule file alone, and when that has
been applied, all is found as before. -/
theorem step (h : Standing s named w files t) (hfile : file ∈ files) (dryRun : Bool) :
    prepare s t named file.1 = .ok (w, [file])
      ∧ Standing s named w files (applyAll w dryRun false t [file]).tree := by
  have halone := loadAll_of_loaded (h.loads file hfile)
  refine ⟨prepare_eq_ok_iff.mpr ⟨h.workspace, halone⟩, ?_⟩
  obtain ⟨ts, hts⟩ := tasks_of_loaded halone (Path.ofLocation w.root)
  obtain ⟨-, htree, -⟩ := applyAll_of_tasks hts dryRun t
  rw [htree]
  refine h.performed (performed_tasks w dryRun t ts) fun o ho => ?_
  have hdocuments : (endsOf (runOf w dryRun) t ts).map (fun o => (o.1, o.2.1)) =
      ts.map fun task => (task.1, task.2.document) := documents_endsOf
  have hdocument : (o.1, o.2.1) ∈ ts.map fun task => (task.1, task.2.document) := by
    rw [← hdocuments]
    exact List.mem_map_of_mem ho
  obtain ⟨task, htask, he⟩ := List.mem_map.mp hdocument
  obtain ⟨owner, howner, d, hd, hnames⟩ := exists_definition hts htask
  rw [List.mem_singleton] at howner
  exact ⟨owner, howner ▸ hfile, d, hd, hnames.trans (Prod.mk.inj he).2⟩

end Standing

/-! ## A command in the place of others -/

variable {dryRun diff json : Bool} {verbosity : Nat}

/-- Rule files are taken to their documents one after another: the first one, and then the others
on the tree that it has left. -/
theorem applyAll_cons (rest : List (Path × RuleFile))
    (h : (applyAll w dryRun false t [file]).failure = none) :
    (applyAll w dryRun false t (file :: rest)).tree =
        (applyAll w dryRun false (applyAll w dryRun false t [file]).tree rest).tree
      ∧ (applyAll w dryRun false t (file :: rest)).done =
        (applyAll w dryRun false t [file]).done
          ++ (applyAll w dryRun false (applyAll w dryRun false t [file]).tree rest).done := by
  unfold applyAll at h ⊢
  simp only [takeAll] at h ⊢
  split at h
  · cases h
  · exact ⟨rfl, rfl⟩

/-- `apply` with one path does what it does with some others, one command after another. -/
structure IsInTurn (s : Surroundings) (t : FileTree) (named : Option Path)
    (dryRun diff json : Bool) (verbosity : Nat) (rules : Path) (paths : List Path) : Prop where
  tree : (run s t verbosity (.apply rules named dryRun diff json)).tree =
    treeInTurn s verbosity (.apply · named dryRun diff json) t paths
  /-- Every document of every rule file comes to the same end, with the same log. -/
  done : (applyProgress s t rules named dryRun false).done =
    (inTurn s verbosity (.apply · named dryRun diff json) t paths).flatMap fun i =>
      (applyProgress s i.1 i.2 named dryRun false).done
  exitCode : (run s t verbosity (.apply rules named dryRun diff json)).exitCode = 1 ↔
    ∃ i ∈ inTurn s verbosity (.apply · named dryRun diff json) t paths,
      (run s i.1 verbosity (.apply i.2 named dryRun diff json)).exitCode = 1

/-- **Where the workspace is not found, no command begins**, neither the one nor the others. -/
theorem isInTurn_of_unresolved {err : WorkspaceError} {paths : List Path}
    (hw : Workspace.ofPath t (workspacePath s t named) = .error err) (hpaths : paths ≠ []) :
    IsInTurn s t named dryRun diff json verbosity rules paths := by
  have hfails : ∀ path, run s t verbosity (.apply path named dryRun diff json) =
      fail t (.ofWorkspace (workspacePath s t named) err) := fun path => by
    simp only [run, runApply, prepare_of_workspace hw]
  have hnone : ∀ path, (applyProgress s t path named dryRun false).done = [] := fun path => by
    rw [applyProgress_of_error (prepare_of_workspace hw)]
  -- every one of the others finds the tree that the first one has found
  have hstill : treeInTurn s verbosity (.apply · named dryRun diff json) t paths = t
      ∧ inTurn s verbosity (.apply · named dryRun diff json) t paths = paths.map (Prod.mk t) := by
    clear hpaths
    induction paths with
    | nil => exact ⟨rfl, rfl⟩
    | cons path rest ih =>
        rw [treeInTurn, List.foldl_cons, inTurn, hfails]
        exact ⟨ih.1, congrArg _ ih.2⟩
  obtain ⟨first, hfirst⟩ := List.exists_mem_of_ne_nil paths hpaths
  constructor
  · rw [hstill.1, hfails]
    rfl
  · rw [hstill.2, hnone, List.flatMap_map]
    exact (List.flatMap_eq_nil_iff.mpr fun path _ => hnone path).symm
  · refine iff_of_true (by rw [hfails]; rfl) ⟨(t, first), ?_, by rw [hfails]; rfl⟩
    rw [hstill.2]
    exact List.mem_map_of_mem hfirst

/-- What becomes of documents, over two parts of the work. -/
theorem allEnds_append (done done' : List FileOutcome) :
    allEnds (done ++ done') = allEnds done ++ allEnds done' :=
  List.flatMap_append

/-- What becomes of documents, over several parts of the work. -/
theorem allEnds_flatMap {α : Type} (parts : List α) (done : α → List FileOutcome) :
    allEnds (parts.flatMap done) = parts.flatMap fun part => allEnds (done part) := by
  rw [allEnds, List.flatMap_assoc]
  rfl

/-- **All commands of the sequence** together do what is done to the rule files at once, and each
of them is prepared. -/
theorem Standing.run_each (h : Standing s named w files t) (hrest : ∀ file ∈ rest, file ∈ files)
    (dryRun diff json : Bool) (verbosity : Nat)
    (hjson : json = true → ∀ o ∈ allEnds (applyAll w dryRun false t rest).done, Listable o) :
    treeInTurn s verbosity (.apply · named dryRun diff json) t (rest.map Prod.fst) =
        (applyAll w dryRun false t rest).tree
      ∧ (applyAll w dryRun false t rest).done =
        (inTurn s verbosity (.apply · named dryRun diff json) t (rest.map Prod.fst)).flatMap
          (fun i => (applyProgress s i.1 i.2 named dryRun false).done)
      ∧ ∀ i ∈ inTurn s verbosity (.apply · named dryRun diff json) t (rest.map Prod.fst),
        (∃ prepared, prepare s i.1 named i.2 = .ok prepared)
          ∧ (json = true →
            ∀ o ∈ allEnds (applyProgress s i.1 i.2 named dryRun false).done, Listable o) := by
  -- the tree changes from command to command, but all rule files still stand in it as before
  induction rest generalizing t with
  | nil => exact ⟨rfl, rfl, fun i hi => nomatch hi⟩
  | cons file rest ih =>
      obtain ⟨hp, hnext⟩ := h.step (hrest file List.mem_cons_self) dryRun
      have hprogress := applyProgress_of_ok hp dryRun false
      obtain ⟨htree', hdone'⟩ :=
        applyAll_cons rest (applyAll_failure (prepare_eq_ok hp) dryRun false t)
      rw [hdone', allEnds_append] at hjson
      have hfirst : json = true →
          ∀ o ∈ allEnds (applyProgress s t file.1 named dryRun false).done, Listable o := by
        rw [hprogress]
        exact fun hj o ho => hjson hj o (List.mem_append_left _ ho)
      have hrun : (run s t verbosity (.apply file.1 named dryRun diff json)).tree =
          (applyAll w dryRun false t [file]).tree := by
        rw [(told_of_listable hp dryRun diff verbosity hfirst).tree, hprogress]
      obtain ⟨htree, hdone, hprepared⟩ :=
        ih hnext (fun file hfile => hrest file (List.mem_cons_of_mem _ hfile))
          fun hj o ho => hjson hj o (List.mem_append_right _ ho)
      rw [List.map_cons, treeInTurn, List.foldl_cons, inTurn, List.flatMap_cons, hrun, hprogress,
        htree', hdone', hdone]
      refine ⟨htree, rfl, fun i hi => ?_⟩
      rcases List.mem_cons.mp hi with rfl | hi
      · exact ⟨⟨(w, [file]), hp⟩, hfirst⟩
      · exact hprepared i hi

/-- **Where the rule files are found as they were, the one command is the sequence.** -/
theorem Standing.isInTurn (h : Standing s named w files t) (hf : loadAll t rules = .ok files)
    (hjson : json = true → ∀ o ∈ allEnds (applyProgress s t rules named dryRun false).done,
      Listable o) :
    IsInTurn s t named dryRun diff json verbosity rules (files.map Prod.fst) := by
  have hp := prepare_eq_ok_iff.mpr ⟨h.workspace, hf⟩
  have hprogress := applyProgress_of_ok hp dryRun false
  obtain ⟨htree, hdone, hprepared⟩ :=
    h.run_each (fun _ hfile => hfile) dryRun diff json verbosity (hprogress ▸ hjson)
  constructor
  · rw [htree, (told_of_listable hp dryRun diff verbosity hjson).tree, hprogress]
  · rw [hprogress, hdone]
  · -- a document that failed for the directory has failed for one of the commands
    rw [(exitCode_iff hp dryRun diff verbosity hjson).1, hprogress, hdone, allEnds_flatMap]
    constructor
    · rintro ⟨o, ho, hfailed⟩
      obtain ⟨i, hi, hoi⟩ := List.mem_flatMap.mp ho
      obtain ⟨⟨prepared, hpi⟩, hji⟩ := hprepared i hi
      exact ⟨i, hi, (exitCode_iff hpi dryRun diff verbosity hji).1.mpr ⟨o, hoi, hfailed⟩⟩
    · rintro ⟨i, hi, hone⟩
      obtain ⟨⟨prepared, hpi⟩, hji⟩ := hprepared i hi
      obtain ⟨o, hoi, hfailed⟩ := (exitCode_iff hpi dryRun diff verbosity hji).1.mp hone
      exact ⟨o, List.mem_flatMap.mpr ⟨i, hi, hoi⟩, hfailed⟩

/--
**A directory is the sequence of its rule files.** If no document that one of the rule files names
is one of these rule files, `apply` with the directory leaves behind the same tree as `apply` with
each of them, one command after another in the order in which they are found; every document of
every rule file comes to the same end; and the command ends with 1 exactly if one of the others
does. If the workspace is not found, none of the commands begins. Where entries are asked for, all
of them must be such that they can be made: a command that breaks off leaves rule files alone that
the commands behind it would apply.
-/
theorem apply_directory (hf : loadAll t rules = .ok files)
    (hapart : ∀ w, Workspace.ofPath t (workspacePath s t named) = .ok w → RulesApart w t files) :
    discover t rules = .ok (files.map Prod.fst)
      ∧ ∀ dryRun diff json verbosity,
        (json = true → ∀ o ∈ allEnds (applyProgress s t rules named dryRun false).done,
          Listable o) →
        IsInTurn s t named dryRun diff json verbosity rules (files.map Prod.fst) := by
  obtain ⟨hfound, hloads⟩ := loadAll_eq_ok hf
  refine ⟨hfound, fun dryRun diff json verbosity hjson => ?_⟩
  cases hw : Workspace.ofPath t (workspacePath s t named) with
  | error err =>
      refine isInTurn_of_unresolved hw fun hnone => ?_
      exact ne_nil_of_loadAll hf (List.map_eq_nil_iff.mp hnone)
  | ok w =>
      have hstanding : Standing s named w files t := ⟨hw, hloads, hapart w hw⟩
      exact hstanding.isInTurn hf hjson

theorem apply_directory_chained :
    (∃ files, loadAll chained ⟨["rules"]⟩ = .ok files ∧ RulesApart ⟨[], []⟩ chained files)
      ∧ (run {} chained 0 (.apply ⟨["rules"]⟩ none false false false)).tree =
        treeInTurn {} 0 (.apply · none false false false) chained
          [⟨["rules", "a.toml"]⟩, ⟨["rules", "b.toml"]⟩] := by
  have hw : Workspace.ofPath chained (workspacePath {} chained none) = .ok ⟨[], []⟩ := by
    decide +kernel
  have hfound : discover chained ⟨["rules"]⟩ =
      .ok [⟨["rules", "a.toml"]⟩, ⟨["rules", "b.toml"]⟩] := by
    decide +kernel
  have happly : (loadAll chained ⟨["rules"]⟩).toOption.any
      (fun files => decide (RulesApart ⟨[], []⟩ chained files)) = true := by
    decide +kernel
  cases hf : loadAll chained ⟨["rules"]⟩ with
  | error err =>
      rw [hf] at happly
      cases happly
  | ok files =>
      rw [hf] at happly
      have hapart : RulesApart ⟨[], []⟩ chained files := of_decide_eq_true happly
      have hany : ∀ w, Workspace.ofPath chained (workspacePath {} chained none) = .ok w →
          RulesApart w chained files := by
        intro w hw'
        rw [hw] at hw'
        cases hw'
        exact hapart
      obtain ⟨hpaths, hrun⟩ := apply_directory hf hany
      rw [hfound, Except.ok.injEq] at hpaths
      refine ⟨⟨files, rfl, hapart⟩, ?_⟩
      rw [hpaths]
      exact (hrun false false false 0 nofun).tree

end Command

end Emend

import Emend.Command.Run
import Emend.Proofs.Plans

/-!
# How `apply` fails

A command that ends with an error has not changed anything. For `apply` this is not plain to
see: it takes one rule file after another to its documents, and a rule file whose rules
cannot be made would end it when others have already been applied. But all rule files have
been loaded before the first document is read, and a rule file that has been loaded has rules
that can be made.

* `Rejected` lists why a rule file cannot be loaded, and `load_eq_error_iff` says that there
  is no other reason.
* `loadEach_of_firstRejected`, `firstRejected_of_loadEach`: of several rule files the first
  one that is rejected decides.
* `prepare_eq_error_iff`: `Cause` lists how the preparations of a command fail.
* `applyAll_failure`: when they have succeeded, no rule file ends the command.
* `apply_fails_untouched` puts this together.
-/

namespace Emend

open RuleFile

namespace RuleFile

variable {t : FileTree} {path : Path}

/-! ## Rule files that are rejected -/

/-- Why the rule file at a path is rejected. -/
inductive Rejected (t : FileTree) (path : Path) : LoadError → Prop
  /-- It cannot be read, or what has been read is no text. -/
  | unreadable (fault : Fault) (h : t.readText path = .error fault) :
      Rejected t path (.io path fault)
  /-- The text is not the text of a rule file. -/
  | malformed (text : String) (cause : DocumentError) (hr : t.readText path = .ok text)
      (h : parse text = .error cause) : Rejected t path (.malformed (some path) cause)
  /-- The rule file has issues; one of them may be that a rule cannot be made. -/
  | invalid (text : String) (f : RuleFile) (hr : t.readText path = .ok text)
      (hp : parse text = .ok f) (h : f.issues ≠ []) :
      Rejected t path (.invalid (some path) f.issues)

/-- Loading a rule file, in terms of what its text is. -/
theorem load_of_readText {text : String} (h : t.readText path = .ok text) :
    load t path = match parse text with
      | .error cause => .error (.malformed (some path) cause)
      | .ok f => if f.issues = [] then .ok f else .error (.invalid (some path) f.issues) := by
  cases hp : parse text with
  | error cause =>
      simp [load, h, ofText, hp, bind, Except.bind, LoadError.atPath]
  | ok f =>
      cases hi : f.issues with
      | nil => simp [load, h, ofText, hp, hi, bind, Except.bind, pure, Except.pure]
      | cons issue more =>
          simp [load, h, ofText, hp, hi, bind, Except.bind, LoadError.atPath,
            throw, throwThe, MonadExceptOf.throw]

theorem load_of_unreadable {fault : Fault} (h : t.readText path = .error fault) :
    load t path = .error (.io path fault) := by
  simp [load, h, bind, Except.bind]

/-- **A rule file that cannot be loaded is rejected for one of these reasons.** -/
theorem load_eq_error_iff {err : LoadError} : load t path = .error err ↔ Rejected t path err := by
  constructor
  · intro h
    cases hr : t.readText path with
    | error fault =>
        rw [load_of_unreadable hr] at h
        cases h
        exact .unreadable fault hr
    | ok text =>
        rw [load_of_readText hr] at h
        cases hp : parse text with
        | error cause =>
            simp only [hp] at h
            cases h
            exact .malformed text cause hr hp
        | ok f =>
            simp only [hp] at h
            split at h
            · cases h
            · rename_i hi
              cases h
              exact .invalid text f hr hp hi
  · rintro (⟨fault, hr⟩ | ⟨text, cause, hr, hp⟩ | ⟨text, f, hr, hp, hi⟩)
    · exact load_of_unreadable hr
    · simp only [load_of_readText hr, hp]
    · simp only [load_of_readText hr, hp, if_neg hi]

theorem discover_of_no_names {directory : Location} (hd : t.resolveDirectory path = .ok directory)
    (hn : namesIn t directory = []) : discover t path = .error (.noRuleFiles path) := by
  simp [discover, hd, hn]

/-- No rule files can be found in a directory that has none, and only there. -/
theorem discover_eq_error {err : LoadError} (h : discover t path = .error err) :
    err = .noRuleFiles path
      ∧ ∃ directory, t.resolveDirectory path = .ok directory ∧ namesIn t directory = [] := by
  unfold discover at h
  split at h
  · cases h
  · rename_i directory hd
    split at h
    · rename_i hn
      cases h
      exact ⟨rfl, directory, hd, hn⟩
    · cases h

theorem loadEach_cons_of_error {first : Path} {rest : List Path} {err : LoadError}
    (h : load t first = .error err) : loadEach t (first :: rest) = .error err := by
  simp [loadEach, h, bind, Except.bind]

theorem loadEach_cons_of_ok {first : Path} {rest : List Path} {f : RuleFile}
    (h : load t first = .ok f) :
    loadEach t (first :: rest) = (loadEach t rest).map ((first, f) :: ·) := by
  cases hr : loadEach t rest with
  | error err => simp [loadEach, h, hr, bind, Except.bind, Except.map]
  | ok files => simp [loadEach, h, hr, bind, Except.bind, Except.map, pure, Except.pure]

/-- The first rule file of some that is rejected, with those before it. -/
def FirstRejected (t : FileTree) (paths : List Path) (err : LoadError) : Prop :=
  ∃ before path after, paths = before ++ path :: after
    ∧ (∀ p ∈ before, ∃ f, load t p = .ok f) ∧ Rejected t path err

/-- **The first rule file that is rejected decides**, wherever it stands. -/
theorem loadEach_of_firstRejected {paths : List Path} {err : LoadError}
    (h : FirstRejected t paths err) : loadEach t paths = .error err := by
  obtain ⟨before, path, after, rfl, hbefore, hrejected⟩ := h
  induction before with
  | nil => exact loadEach_cons_of_error (load_eq_error_iff.mpr hrejected)
  | cons first before ih =>
      obtain ⟨f, hf⟩ := hbefore first List.mem_cons_self
      rw [List.cons_append, loadEach_cons_of_ok hf,
        ih fun p hp => hbefore p (List.mem_cons_of_mem _ hp)]
      rfl

/-- And nothing else keeps rule files from being loaded. -/
theorem firstRejected_of_loadEach {paths : List Path} {err : LoadError}
    (h : loadEach t paths = .error err) : FirstRejected t paths err := by
  induction paths with
  | nil => cases h
  | cons first rest ih =>
      cases hl : load t first with
      | error cause =>
          rw [loadEach_cons_of_error hl] at h
          cases h
          exact ⟨[], first, rest, rfl, by simp, load_eq_error_iff.mp hl⟩
      | ok f =>
          rw [loadEach_cons_of_ok hl] at h
          cases hr : loadEach t rest with
          | ok files =>
              rw [hr] at h
              cases h
          | error cause =>
              rw [hr] at h
              cases h
              obtain ⟨before, path, after, rfl, hbefore, hrejected⟩ := ih hr
              refine ⟨first :: before, path, after, rfl, fun p hp => ?_, hrejected⟩
              rcases List.mem_cons.mp hp with rfl | hp
              · exact ⟨f, hl⟩
              · exact hbefore p hp

/-- If any rule file is rejected, there is a first one. -/
theorem exists_firstRejected {paths : List Path} {err : LoadError} (hp : path ∈ paths)
    (h : Rejected t path err) : ∃ first, FirstRejected t paths first := by
  cases hall : loadEach t paths with
  | error first => exact ⟨first, firstRejected_of_loadEach hall⟩
  | ok files =>
      obtain ⟨hmap, hload⟩ := loadEach_eq_ok hall
      rw [← hmap] at hp
      obtain ⟨file, hfile, rfl⟩ := List.mem_map.mp hp
      cases (hload file hfile).symm.trans (load_eq_error_iff.mpr h)

end RuleFile

namespace Command

variable {s : Surroundings} {t : FileTree} {named : Option Path} {rules : Path}

/-! ## Preparations that fail -/

/-- Why a command fails before it has begun. -/
inductive Cause (s : Surroundings) (t : FileTree) (named : Option Path) (rules : Path) :
    Failure → Prop
  /-- The workspace cannot be resolved. -/
  | workspace (err : WorkspaceError)
      (h : Workspace.ofPath t (workspacePath s t named) = .error err) :
      Cause s t named rules (.ofWorkspace (workspacePath s t named) err)
  /-- There are no rule files. -/
  | noRuleFiles (w : Workspace) (directory : Location)
      (hw : Workspace.ofPath t (workspacePath s t named) = .ok w)
      (hd : t.resolveDirectory rules = .ok directory) (h : namesIn t directory = []) :
      Cause s t named rules (.ofLoad (.noRuleFiles rules))
  /-- One of the rule files is rejected. -/
  | ruleFile (w : Workspace) (paths : List Path) (err : LoadError)
      (hw : Workspace.ofPath t (workspacePath s t named) = .ok w)
      (hd : discover t rules = .ok paths) (h : FirstRejected t paths err) :
      Cause s t named rules (.ofLoad err)

theorem prepare_of_workspace {err : WorkspaceError}
    (h : Workspace.ofPath t (workspacePath s t named) = .error err) :
    prepare s t named rules = .error (.ofWorkspace (workspacePath s t named) err) := by
  simp [prepare, h, bind, Except.bind]

theorem prepare_of_loadAll {w : Workspace} {err : LoadError}
    (hw : Workspace.ofPath t (workspacePath s t named) = .ok w)
    (h : loadAll t rules = .error err) : prepare s t named rules = .error (.ofLoad err) := by
  simp [prepare, hw, h, bind, Except.bind]

theorem loadAll_of_discover {paths : List Path} (h : discover t rules = .ok paths) :
    loadAll t rules = loadEach t paths := by
  simp [loadAll, h, bind, Except.bind]

/-- **The preparations of a command fail for one of these causes.** -/
theorem prepare_eq_error_iff {f : Failure} :
    prepare s t named rules = .error f ↔ Cause s t named rules f := by
  constructor
  · intro h
    cases hw : Workspace.ofPath t (workspacePath s t named) with
    | error err =>
        rw [prepare_of_workspace hw] at h
        cases h
        exact .workspace err hw
    | ok w =>
        cases hd : discover t rules with
        | error err =>
            have hall : loadAll t rules = .error err := by simp [loadAll, hd, bind, Except.bind]
            rw [prepare_of_loadAll hw hall] at h
            cases h
            obtain ⟨rfl, directory, hdir, hnone⟩ := discover_eq_error hd
            exact .noRuleFiles w directory hw hdir hnone
        | ok paths =>
            cases hall : loadAll t rules with
            | error err =>
                rw [prepare_of_loadAll hw hall] at h
                cases h
                rw [loadAll_of_discover hd] at hall
                exact .ruleFile w paths err hw hd (firstRejected_of_loadEach hall)
            | ok files =>
                simp [prepare, hw, hall, bind, Except.bind, pure,
                  Except.pure] at h
  · rintro (⟨err, hw⟩ | ⟨w, directory, hw, hd, hnone⟩ | ⟨w, paths, err, hw, hd, h⟩)
    · exact prepare_of_workspace hw
    · refine prepare_of_loadAll hw ?_
      simp [loadAll, discover_of_no_names hd hnone, bind, Except.bind]
    · exact prepare_of_loadAll hw ((loadAll_of_discover hd).trans (loadEach_of_firstRejected h))

/-- A command is prepared exactly if its workspace and its rule files are in order. -/
theorem prepare_eq_ok_iff {w : Workspace} {files : List (Path × RuleFile)} :
    prepare s t named rules = .ok (w, files)
      ↔ Workspace.ofPath t (workspacePath s t named) = .ok w
        ∧ loadAll t rules = .ok files := by
  cases hw : Workspace.ofPath t (workspacePath s t named) with
  | error err => simp [prepare_of_workspace hw]
  | ok w' =>
      cases hf : loadAll t rules with
      | error err => simp [prepare_of_loadAll hw hf]
      | ok files' =>
          simp [prepare, hw, hf, bind, Except.bind, pure, Except.pure]

/-- What has been prepared has been loaded. -/
theorem prepare_eq_ok {w : Workspace} {files : List (Path × RuleFile)}
    (h : prepare s t named rules = .ok (w, files)) : loadAll t rules = .ok files :=
  (prepare_eq_ok_iff.mp h).2

/-! ## Rule files that are applied -/

/-- **Rule files of which every one has its batch are all gone through.** -/
theorem takeAll_failure {listed : Bool} {batch : FileTree → RuleFile → Except RuleError Batch}
    {files : List (Path × RuleFile)}
    (h : ∀ file ∈ files, ∀ t, ∃ b, batch t file.2 = .ok b) :
    (takeAll listed batch t files).failure = none := by
  induction files generalizing t with
  | nil => rfl
  | cons file rest ih =>
      obtain ⟨b, hb⟩ := h file List.mem_cons_self t
      simp only [takeAll, hb]
      split
      · rfl
      · exact ih fun file hfile => h file (List.mem_cons_of_mem _ hfile)

/-- Rule files that have been loaded are applied without an error. -/
theorem applyAll_failure {w : Workspace} {files : List (Path × RuleFile)}
    (h : loadAll t rules = .ok files) (dryRun listed : Bool) (t' : FileTree) :
    (applyAll w dryRun listed t' files).failure = none := by
  refine takeAll_failure fun file hfile t => ?_
  have hissues := (RuleFile.Admitted.listed _ _ files file.1 h hfile).issues
  obtain ⟨plans, hplans, -⟩ := plans_of_issues hissues (Path.ofLocation w.root)
  exact ⟨_, applyFile_of_plans hplans _ t⟩

/-! ## How `apply` ends -/

/-- How far `apply` comes, with or without entries. -/
def applyProgress (s : Surroundings) (t : FileTree) (rules : Path) (named : Option Path)
    (dryRun listed : Bool) : Progress :=
  match prepare s t named rules with
  | .error f => { tree := t, failure := some f }
  | .ok (w, files) => applyAll w dryRun listed t files

theorem applyProgress_of_error {f : Failure} (h : prepare s t named rules = .error f)
    (dryRun listed : Bool) :
    applyProgress s t rules named dryRun listed = { tree := t, failure := some f } := by
  simp only [applyProgress, h]

theorem applyProgress_of_ok {w : Workspace} {files : List (Path × RuleFile)}
    (h : prepare s t named rules = .ok (w, files)) (dryRun listed : Bool) :
    applyProgress s t rules named dryRun listed = applyAll w dryRun listed t files := by
  simp only [applyProgress, h]

/-- **`apply` ends with an error exactly if its preparations fail.** -/
theorem applyProgress_failure_iff {dryRun listed : Bool} {f : Failure} :
    (applyProgress s t rules named dryRun listed).failure = some f ↔ Cause s t named rules f := by
  rw [← prepare_eq_error_iff]
  cases hp : prepare s t named rules with
  | error f' => rw [applyProgress_of_error hp, Option.some_inj, Except.error.injEq]
  | ok prepared =>
      obtain ⟨w, files⟩ := prepared
      rw [applyProgress_of_ok hp, applyAll_failure (prepare_eq_ok hp)]
      simp

/-- What is left behind and printed then. -/
theorem runApply_of_failure {dryRun json : Bool} {f : Failure}
    (h : (applyProgress s t rules named dryRun json).failure = some f) (diff : Bool)
    (verbosity : Nat) :
    (applyProgress s t rules named dryRun json).done = []
      ∧ runApply s t rules named dryRun diff json verbosity = ⟨1, f.printed, t⟩ := by
  have hp := prepare_eq_error_iff.mpr (applyProgress_failure_iff.mp h)
  rw [applyProgress_of_error hp, runApply, hp]
  exact ⟨rfl, rfl⟩

/--
**`apply` fails before it has written anything, or not at all.** It ends with an error
exactly if its preparations fail, and they fail if any of the rule files is rejected. Then it
has run no session, and it leaves behind the tree that it was given and nothing but the
message. Once it has begun, no rule file ends it with an error.
-/
theorem apply_fails_untouched {args : List SystemText} {dryRun diff json : Bool} {verbosity : Nat}
    (hargs : Request.ofArguments args =
      some (.run (.apply rules named dryRun diff json) verbosity)) :
    (∀ f, (applyProgress s t rules named dryRun json).failure = some f ↔ Cause s t named rules f)
      ∧ (∀ w paths path err, Workspace.ofPath t (workspacePath s t named) = .ok w →
          discover t rules = .ok paths → path ∈ paths → Rejected t path err →
          ∃ f, (applyProgress s t rules named dryRun json).failure = some f)
      ∧ (∀ f, (applyProgress s t rules named dryRun json).failure = some f →
          (applyProgress s t rules named dryRun json).done = []
            ∧ runArguments s t args = ⟨1, f.printed, t⟩)
      ∧ ∀ w files, prepare s t named rules = .ok (w, files) →
          (applyAll w dryRun json t files).failure = none
            ∧ (runArguments s t args).tree = (applyAll w dryRun json t files).tree := by
  have hrun : runArguments s t args = runApply s t rules named dryRun diff json verbosity := by
    simp only [runArguments, hargs, run]
  refine ⟨fun f => applyProgress_failure_iff, ?_, ?_, ?_⟩
  · intro w paths path err hw hd hpath hrejected
    obtain ⟨first, hfirst⟩ := exists_firstRejected hpath hrejected
    exact ⟨_, applyProgress_failure_iff.mpr (.ruleFile w paths first hw hd hfirst)⟩
  · intro f hf
    rw [hrun]
    exact runApply_of_failure hf diff verbosity
  · intro w files hp
    have hnone := applyAll_failure (w := w) (prepare_eq_ok hp) dryRun json t
    refine ⟨hnone, ?_⟩
    simp only [hrun, runApply, hp, hnone]
    -- it may break off where entries are made, but not before the tree is what it is
    cases json with
    | false => rfl
    | true =>
        rw [if_pos rfl]
        split <;> rfl

/-- Two rule files, of which the first one would edit a document and the second one is no text. -/
def secondUnreadable : FileTree where
  entries :=
    [(["doc.txt"], .file "one".toUTF8 0o644),
      (["rules"], .directory directoryMode),
      (["rules", "a.toml"], .file (String.intercalate "\n"
        ["[[rules]]", "id = \"edit\"", "file = \"doc.txt\"",
          "find = \x7btype = \"literal\", text = \"one\"\x7d", "replace = \"two\""]).toUTF8 0o644),
      (["rules", "b.toml"], .file ⟨#[255]⟩ 0o644)]

theorem apply_fails_untouched_secondUnreadable :
    Request.ofArguments ["apply", "--rules", "rules"] =
        some (.run (.apply ⟨["rules"]⟩ none false false false) 0)
      ∧ (∃ f, load secondUnreadable ⟨["rules", "a.toml"]⟩ = .ok f)
      ∧ runArguments {} secondUnreadable ["apply", "--rules", "rules"] =
          ⟨1, (Failure.ofLoad (.io ⟨["rules", "b.toml"]⟩ .invalidText)).printed,
            secondUnreadable⟩ := by
  have hargs : Request.ofArguments ["apply", "--rules", "rules"] =
      some (.run (.apply ⟨["rules"]⟩ none false false false) 0) := by decide +kernel
  have hw : Workspace.ofPath secondUnreadable (workspacePath {} secondUnreadable none) =
      .ok ⟨[], []⟩ := by decide +kernel
  have hd : discover secondUnreadable ⟨["rules"]⟩ =
      .ok [⟨["rules", "a.toml"]⟩, ⟨["rules", "b.toml"]⟩] := by decide +kernel
  have hsecond : secondUnreadable.readText ⟨["rules", "b.toml"]⟩ = .error .invalidText := by
    decide +kernel
  have hfirst : ∃ f, load secondUnreadable ⟨["rules", "a.toml"]⟩ = .ok f := by
    have hsome : (load secondUnreadable ⟨["rules", "a.toml"]⟩).toOption.isSome := by
      decide +kernel
    cases hl : load secondUnreadable ⟨["rules", "a.toml"]⟩ with
    | error err => simp [hl, Except.toOption] at hsome
    | ok f => exact ⟨f, rfl⟩
  have hcause : Cause {} secondUnreadable none ⟨["rules"]⟩
      (.ofLoad (.io ⟨["rules", "b.toml"]⟩ .invalidText)) := by
    refine .ruleFile _ _ _ hw hd ⟨[⟨["rules", "a.toml"]⟩], _, [], rfl, ?_, .unreadable _ hsecond⟩
    intro p hp
    rw [List.mem_singleton] at hp
    exact hp ▸ hfirst
  obtain ⟨hfails, -, hends, -⟩ := apply_fails_untouched (s := {}) (t := secondUnreadable) hargs
  exact ⟨hargs, hfirst, (hends _ ((hfails _).mpr hcause)).2⟩

end Command

end Emend

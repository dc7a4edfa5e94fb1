import Emend.Proofs.Commands
import Emend.Proofs.Listings
import Mathlib.Data.List.Forall2

/-!
# Directories of rule files

The rules that `apply` takes from a directory run in the order in which its rule files are
loaded, and the first of them that cannot be loaded is the one that a reader hears of. So it
has to be certain which files these are, and in which order they come.

* `IsRuleFile` says which entries are rule files; `mem_namesIn_iff` and `namesIn_increasing`:
  these are found, each once, in the order of their names.
* `namesIn_of_listing`: whatever order the directory is listed in.
* `Holds` and `Refused` say what becomes of the contents of a rule file, and `load_eq_ok_iff`,
  `rejected_iff` that nothing else becomes of it.
* `loadEach_eq_ok_iff`: several rule files are loaded if each of them is.
* `firstRejected_namesIn_iff`: otherwise the first one in a directory that is refused decides.
* `discover_exact` puts this together.
-/

namespace Emend

open FileTree

/-- The path of the rule file that an error is about. -/
def LoadError.path? : LoadError → Option Path
  | io path _ => some path
  | malformed path _ => path
  | invalid path _ => path
  | noRuleFiles _ => none

namespace RuleFile

variable {t : FileTree} {path : Path} {directory l : Location} {name : SystemText} {f : RuleFile}
  {err : LoadError}

/-! ## Which files these are -/

/-- A rule file in a directory: a file, neither a directory nor a link, whose name goes on with
`.toml` after something else, be that a text or not. -/
structure IsRuleFile (t : FileTree) (directory : Location) (name : SystemText) : Prop where
  file : t.IsFileAt (directory ++ [name])
  ending : ∃ stem, stem ≠ [] ∧ name.octets = stem ++ SystemText.octets ".toml"

theorem IsRuleFile.isName (h : IsRuleFile t directory name) : IsName name := by
  obtain ⟨stem, -, hname⟩ := h.ending
  have hlong : (SystemText.octets ".toml").length ≤ name.octets.length := by
    rw [hname, List.length_append]
    exact Nat.le_add_left _ _
  -- the other steps are too short for the ending
  refine ⟨?_, ?_, ?_⟩
  all_goals
    rintro rfl
    exact absurd hlong (by decide)

theorem isRuleFileName_iff : isRuleFileName t directory name ↔ IsRuleFile t directory name := by
  have hending : name.ending? = some (SystemText.octets "toml") ↔
      ∃ stem, stem ≠ [] ∧ name.octets = stem ++ SystemText.octets ".toml" := by
    rw [SystemText.ending?_eq_some_iff, and_iff_right (by decide)]
    rfl
  unfold isRuleFileName
  split
  · rename_i contents mode hfile
    rw [decide_eq_true_iff, hending]
    exact ⟨fun h => ⟨⟨contents, mode, hfile⟩, h⟩, IsRuleFile.ending⟩
  · rename_i hno
    refine iff_of_false Bool.false_ne_true fun h => ?_
    obtain ⟨contents, mode, hfile⟩ := h.file
    exact hno contents mode hfile

/-- **The rule files in a directory are found**, and nothing else is. -/
theorem mem_namesIn_iff : name ∈ namesIn t directory ↔ IsRuleFile t directory name := by
  rw [namesIn, List.mem_filter, isRuleFileName_iff, mem_names_iff]
  refine and_iff_right_of_imp fun h => ?_
  obtain ⟨contents, mode, hfile⟩ := h.file
  rw [hfile]
  rfl

/-- **They come in the order of their names.** -/
theorem namesIn_increasing (t : FileTree) (directory : Location) :
    (namesIn t directory).Pairwise (· < ·) :=
  (names_increasing t directory).filter _

/-- **In whatever order the directory is listed**, sorting puts them into this one. -/
theorem namesIn_of_listing {listing : List SystemText} (h : t.Listing directory listing) :
    (listing.filter (isRuleFileName t directory)).mergeSort (· ≤ ·) = namesIn t directory :=
  sort_filter_of_listing h _

/-! ## What becomes of them -/

/-- The contents of a file are the text of a rule file without issues. -/
def Holds (t : FileTree) (l : Location) (f : RuleFile) : Prop :=
  ∃ contents mode text, t.get? l = some (.file contents mode)
    ∧ String.fromUTF8? contents = some text ∧ parse text = .ok f ∧ f.issues = []

/-- The contents of a file are not, and this is the error that says so. -/
inductive Refused (t : FileTree) (l : Location) (path : Path) : LoadError → Prop
  | notText {contents : ByteArray} {mode : Nat} (hfile : t.get? l = some (.file contents mode))
      (ht : String.fromUTF8? contents = none) : Refused t l path (.io path .invalidText)
  | malformed {contents : ByteArray} {mode : Nat} {text : String} {cause : DocumentError}
      (hfile : t.get? l = some (.file contents mode))
      (ht : String.fromUTF8? contents = some text) (h : parse text = .error cause) :
      Refused t l path (.malformed (some path) cause)
  | invalid {contents : ByteArray} {mode : Nat} {text : String} {f : RuleFile}
      (hfile : t.get? l = some (.file contents mode))
      (ht : String.fromUTF8? contents = some text) (hp : parse text = .ok f)
      (h : f.issues ≠ []) : Refused t l path (.invalid (some path) f.issues)

theorem Refused.path? (h : Refused t l path err) : err.path? = some path := by
  cases h <;> rfl

/-- A path that shows a rule file loads it, if its contents are in order. -/
theorem load_eq_ok_iff {contents : ByteArray} {mode : Nat}
    (h : t.Shows path l (.file contents mode)) : load t path = .ok f ↔ Holds t l f := by
  constructor
  · intro hload
    cases hr : t.readText path with
    | error fault => cases (load_of_unreadable hr).symm.trans hload
    | ok text =>
        have hc := h.readText_eq_ok_iff.mp hr
        rw [load_of_readText hr] at hload
        split at hload
        · cases hload
        · rename_i f' hp
          split at hload
          · rename_i hissues
            cases hload
            exact ⟨contents, mode, text, h.entry, hc, hp, hissues⟩
          · cases hload
  · rintro ⟨contents', mode', text, hentry, hc, hp, hissues⟩
    cases h.entry.symm.trans hentry
    simp [load_of_readText (h.readText_eq_ok_iff.mpr hc), hp, hissues]

/-- And is refused otherwise, for what the contents lack. -/
theorem rejected_iff {contents : ByteArray} {mode : Nat}
    (h : t.Shows path l (.file contents mode)) :
    Rejected t path err ↔ Refused t l path err := by
  constructor
  · rintro (⟨fault, hr⟩ | ⟨text, cause, hr, hp⟩ | ⟨text, f, hr, hp, hissues⟩)
    · obtain ⟨rfl, hc⟩ := h.readText_eq_error_iff.mp hr
      exact .notText h.entry hc
    · exact .malformed h.entry (h.readText_eq_ok_iff.mp hr) hp
    · exact .invalid h.entry (h.readText_eq_ok_iff.mp hr) hp hissues
  · intro hrefused
    cases hrefused with
    | notText hentry hc =>
        cases h.entry.symm.trans hentry
        exact .unreadable _ (h.readText_eq_error_iff.mpr ⟨rfl, hc⟩)
    | malformed hentry hc hp =>
        cases h.entry.symm.trans hentry
        exact .malformed _ _ (h.readText_eq_ok_iff.mpr hc) hp
    | invalid hentry hc hp hissues =>
        cases h.entry.symm.trans hentry
        exact .invalid _ _ (h.readText_eq_ok_iff.mpr hc) hp hissues

/-! ## Several of them -/

/-- **Rule files are loaded if each of them is**, and each is listed with what it holds. -/
theorem loadEach_eq_ok_iff {paths : List Path} {files : List (Path × RuleFile)} :
    loadEach t paths = .ok files ↔
      List.Forall₂ (fun path file => file.1 = path ∧ load t path = .ok file.2) paths files := by
  induction paths generalizing files with
  | nil => cases files <;> simp [loadEach]
  | cons path rest ih =>
      cases hl : load t path with
      | error err => cases files <;> simp [loadEach_cons_of_error hl, hl]
      | ok f =>
          rw [loadEach_cons_of_ok hl]
          constructor
          · intro h
            obtain ⟨more, hmore, rfl⟩ := map_eq_ok_iff.mp h
            exact .cons ⟨rfl, hl⟩ (ih.mp hmore)
          · intro h
            cases h with
            | cons hfirst hrest =>
                rename_i file more
                obtain ⟨p, f'⟩ := file
                obtain ⟨rfl, hf'⟩ := hfirst
                cases hl.symm.trans hf'
                rw [ih.mpr hrest]
                rfl

/-- It depends on each of them alone whether they all are. -/
theorem exists_loadEach_iff {paths : List Path} :
    (∃ files, loadEach t paths = .ok files) ↔ ∀ path ∈ paths, ∃ f, load t path = .ok f := by
  constructor
  · rintro ⟨files, h⟩ path hpath
    obtain ⟨hmap, hload⟩ := loadEach_eq_ok h
    rw [← hmap] at hpath
    obtain ⟨file, hfile, rfl⟩ := List.mem_map.mp hpath
    exact ⟨file.2, hload file hfile⟩
  · intro h
    cases hall : loadEach t paths with
    | ok files => exact ⟨files, rfl⟩
    | error err =>
        -- the one that is to blame does not load by itself either
        obtain ⟨before, path, after, rfl, -, hrejected⟩ := firstRejected_of_loadEach hall
        obtain ⟨f, hf⟩ := h path (by simp)
        cases hf.symm.trans (load_eq_error_iff.mpr hrejected)

theorem loadEach_eq_error_iff {paths : List Path} :
    loadEach t paths = .error err ↔ FirstRejected t paths err :=
  ⟨firstRejected_of_loadEach, loadEach_of_firstRejected⟩

/-! ## A directory of them -/

/-- The path of a file in a directory is that of the directory with the name at its end. -/
theorem IsRuleFile.shows (h : IsRuleFile t directory name)
    (hd : t.resolveDirectory path = .ok directory) :
    ∃ contents mode, t.Shows (path.join ⟨[name]⟩) (directory ++ [name]) (.file contents mode) := by
  obtain ⟨contents, mode, hfile⟩ := h.file
  obtain ⟨hres, hdir⟩ := resolveDirectory_eq_ok_iff.mp hd
  have hjoined := resolve_join_name hres hdir h.isName hfile (fun target he => by cases he)
  exact ⟨contents, mode, hjoined, hfile⟩

theorem discover_of_directory (hd : t.resolveDirectory path = .ok directory) :
    discover t path =
      if namesIn t directory = [] then .error (.noRuleFiles path)
      else .ok ((namesIn t directory).map fun name => path.join ⟨[name]⟩) := by
  simp only [discover, hd]
  cases namesIn t directory with
  | nil => rfl
  | cons first rest => rw [if_neg (List.cons_ne_nil first rest)]

theorem IsRuleFile.load_eq_ok_iff (h : IsRuleFile t directory name)
    (hd : t.resolveDirectory path = .ok directory) :
    load t (path.join ⟨[name]⟩) = .ok f ↔ Holds t (directory ++ [name]) f := by
  obtain ⟨contents, mode, hshows⟩ := h.shows hd
  exact RuleFile.load_eq_ok_iff hshows

theorem IsRuleFile.rejected_iff (h : IsRuleFile t directory name)
    (hd : t.resolveDirectory path = .ok directory) :
    Rejected t (path.join ⟨[name]⟩) err ↔
      Refused t (directory ++ [name]) (path.join ⟨[name]⟩) err := by
  obtain ⟨contents, mode, hshows⟩ := h.shows hd
  exact RuleFile.rejected_iff hshows

/-- The rule files of a directory are loaded if the contents of each of them are in order. -/
theorem loadEach_namesIn_iff {files : List (Path × RuleFile)}
    (hd : t.resolveDirectory path = .ok directory) :
    loadEach t ((namesIn t directory).map fun name => path.join ⟨[name]⟩) = .ok files ↔
      List.Forall₂ (fun name file => file.1 = path.join ⟨[name]⟩
        ∧ Holds t (directory ++ [name]) file.2) (namesIn t directory) files := by
  have hrule : ∀ name ∈ namesIn t directory, IsRuleFile t directory name := fun _ =>
    mem_namesIn_iff.mp
  rw [loadEach_eq_ok_iff, List.forall₂_map_left_iff]
  constructor
  · intro hfiles
    refine ((List.forall₂_and_left _ _).mpr ⟨hrule, hfiles⟩).imp fun name file h => ?_
    obtain ⟨hname, hpath, hload⟩ := h
    exact ⟨hpath, (hname.load_eq_ok_iff hd).mp hload⟩
  · intro hfiles
    refine ((List.forall₂_and_left _ _).mpr ⟨hrule, hfiles⟩).imp fun name file h => ?_
    obtain ⟨hname, hpath, hholds⟩ := h
    exact ⟨hpath, (hname.load_eq_ok_iff hd).mpr hholds⟩

/-- **The first rule file of a directory that is refused decides.** -/
theorem firstRejected_namesIn_iff (hd : t.resolveDirectory path = .ok directory) :
    FirstRejected t ((namesIn t directory).map fun name => path.join ⟨[name]⟩) err ↔
      ∃ before name after, namesIn t directory = before ++ name :: after
        ∧ (∀ n ∈ before, ∃ f, Holds t (directory ++ [n]) f)
        ∧ Refused t (directory ++ [name]) (path.join ⟨[name]⟩) err
        ∧ err.path? = some (path.join ⟨[name]⟩) := by
  have hrule : ∀ name ∈ namesIn t directory, IsRuleFile t directory name := fun _ =>
    mem_namesIn_iff.mp
  constructor
  · rintro ⟨front, p, back, hsplit, hfront, hrejected⟩
    -- where the paths are cut, the names are
    obtain ⟨before, more, hnames, rfl, hmore⟩ := List.map_eq_append_iff.mp hsplit
    obtain ⟨name, after, rfl, rfl, rfl⟩ := List.map_eq_cons_iff.mp hmore
    have hrefused := ((hrule name (by simp [hnames])).rejected_iff hd).mp hrejected
    refine ⟨before, name, after, hnames, fun n hn => ?_, hrefused, hrefused.path?⟩
    obtain ⟨f, hf⟩ := hfront _ (List.mem_map_of_mem hn)
    exact ⟨f, ((hrule n (by simp [hnames, hn])).load_eq_ok_iff hd).mp hf⟩
  · rintro ⟨before, name, after, hnames, hbefore, hrefused, -⟩
    refine ⟨before.map fun n => path.join ⟨[n]⟩, path.join ⟨[name]⟩,
      after.map fun n => path.join ⟨[n]⟩, by rw [hnames, List.map_append, List.map_cons],
      fun p hp => ?_, ((hrule name (by simp [hnames])).rejected_iff hd).mpr hrefused⟩
    obtain ⟨n, hn, rfl⟩ := List.mem_map.mp hp
    obtain ⟨f, hf⟩ := hbefore n hn
    exact ⟨f, ((hrule n (by simp [hnames, hn])).load_eq_ok_iff hd).mpr hf⟩

/-- Nothing is loaded from a directory without rule files; otherwise each of them is. -/
theorem loadAll_of_directory (hd : t.resolveDirectory path = .ok directory) :
    loadAll t path =
      if namesIn t directory = [] then .error (.noRuleFiles path)
      else loadEach t ((namesIn t directory).map fun name => path.join ⟨[name]⟩) := by
  rw [loadAll, discover_of_directory hd]
  split <;> rfl

/--
**A directory names its rule files, and they are loaded in the order of their names.** These
are the files in it, not the links and not the directories, whose names end in `.toml` behind
something else; they come each once, and whatever order the directory is listed in. The path of
each is that of the directory with its name at the end. All of them are loaded if there are any,
and the contents of each are the text of a rule file without issues. Otherwise there are none,
or the first one of which this does not hold is named in the error, with what is wrong with it.
-/
theorem discover_exact (h : t.resolveDirectory path = .ok directory) :
    (namesIn t directory).Pairwise (· < ·)
      ∧ (∀ name, name ∈ namesIn t directory ↔ IsRuleFile t directory name)
      ∧ (∀ listing, t.Listing directory listing →
          (listing.filter (isRuleFileName t directory)).mergeSort (· ≤ ·) = namesIn t directory)
      ∧ discover t path =
          (if namesIn t directory = [] then .error (.noRuleFiles path)
          else .ok ((namesIn t directory).map fun name => path.join ⟨[name]⟩))
      ∧ (∀ name ∈ namesIn t directory,
          t.RealPath (path.join ⟨[name]⟩) (directory ++ [name]))
      ∧ (∀ files, loadAll t path = .ok files ↔ namesIn t directory ≠ []
          ∧ List.Forall₂ (fun name file => file.1 = path.join ⟨[name]⟩
              ∧ Holds t (directory ++ [name]) file.2) (namesIn t directory) files)
      ∧ ((∃ files, loadAll t path = .ok files) ↔ namesIn t directory ≠ []
          ∧ ∀ name ∈ namesIn t directory, ∃ f, Holds t (directory ++ [name]) f)
      ∧ ∀ err, loadAll t path = .error err ↔
          (namesIn t directory = [] ∧ err = .noRuleFiles path)
          ∨ ∃ before name after, namesIn t directory = before ++ name :: after
              ∧ (∀ n ∈ before, ∃ f, Holds t (directory ++ [n]) f)
              ∧ Refused t (directory ++ [name]) (path.join ⟨[name]⟩) err
              ∧ err.path? = some (path.join ⟨[name]⟩) := by
  have hrule : ∀ name ∈ namesIn t directory, IsRuleFile t directory name := fun _ =>
    mem_namesIn_iff.mp
  refine ⟨namesIn_increasing t directory, fun name => mem_namesIn_iff,
    fun listing hl => namesIn_of_listing hl, discover_of_directory h, fun name hname => ?_,
    fun files => ?_, ?_, fun err => ?_⟩
  · obtain ⟨contents, mode, hshows⟩ := (hrule name hname).shows h
    exact realPath_iff.mpr hshows.resolves
  · rw [loadAll_of_directory h]
    split
    · rename_i hnone
      simp [hnone]
    · rename_i hsome
      rw [loadEach_namesIn_iff h, and_iff_right hsome]
  · rw [loadAll_of_directory h]
    split
    · rename_i hnone
      simp [hnone]
    · rename_i hsome
      rw [exists_loadEach_iff, and_iff_right hsome, List.forall_mem_map]
      exact forall₂_congr fun name hname =>
        exists_congr fun f => (hrule name hname).load_eq_ok_iff h
  · rw [loadAll_of_directory h]
    split
    · rename_i hnone
      simp [hnone, eq_comm]
    · rename_i hsome
      rw [loadEach_eq_error_iff, firstRejected_namesIn_iff h]
      simp [hsome]

/-- A directory with two rule files, of which the first is no text, and with entries that look
like rule files and are none. -/
def crowded : FileTree where
  entries :=
    [(["rules"], .directory directoryMode),
      (["rules", "20.toml"], .file "".toUTF8 0o644),
      (["rules", ".toml"], .file "".toUTF8 0o644),
      (["rules", "x.TOML"], .file "".toUTF8 0o644),
      (["rules", "a.toml.bak"], .file "".toUTF8 0o644),
      (["rules", "a.toml"], .directory directoryMode),
      (["rules", "a.toml", "00.toml"], .file "".toUTF8 0o644),
      (["rules", "00.toml"], .link ⟨["20.toml"]⟩),
      (["rules", "10.toml"], .file ⟨#[0xff]⟩ 0o644)]

theorem discover_exact_crowded :
    crowded.resolveDirectory ⟨["rules"]⟩ = .ok ["rules"]
      ∧ discover crowded ⟨["rules"]⟩ = .ok [⟨["rules", "10.toml"]⟩, ⟨["rules", "20.toml"]⟩]
      ∧ loadAll crowded ⟨["rules"]⟩ = .error (.io ⟨["rules", "10.toml"]⟩ .invalidText) := by
  have hd : crowded.resolveDirectory ⟨["rules"]⟩ = .ok ["rules"] := by decide +kernel
  have hnames : namesIn crowded ["rules"] = ["10.toml", "20.toml"] := by decide +kernel
  have hfile : crowded.get? ["rules", "10.toml"] = some (.file ⟨#[0xff]⟩ 0o644) := by
    decide +kernel
  have hrefused : Refused crowded ["rules", "10.toml"] ⟨["rules", "10.toml"]⟩
      (.io ⟨["rules", "10.toml"]⟩ .invalidText) := .notText hfile (by decide +kernel)
  obtain ⟨-, -, -, hdiscover, -, -, -, herror⟩ := discover_exact hd
  rw [hnames] at hdiscover herror
  exact ⟨hd, hdiscover,
    (herror _).mpr (.inr ⟨[], "10.toml", ["20.toml"], rfl, by simp, hrefused, rfl⟩)⟩

end RuleFile

end Emend

import Emend.Proofs.Grouping
import Emend.RuleFile.Batch
import Emend.RuleFile.Load

/-!
# Rule files without problems

A rule file is looked at twice. When it is loaded, its definitions are gone through
one by one, and each is tried as a rule only if nothing else is wrong with it. When its
plans are made, the rules are built once more and put into sets, which refuse an id that
they have already. This module shows that the second look never finds anything that the
first one has missed, however the definitions spread over documents.

* `sound_of_issuesOf`: definitions without issues make rules, and their ids are different.
* `unrefused_of_sound`: so none of them is refused when plans are made.
* `Grouped.planned`: and each has its rule in the plan of its document.
* `admitted_compiles`: a rule file that has been accepted, in whatever way, has plans.
-/

namespace Emend

namespace RuleFile

variable {f : RuleFile} {root : Path} {seen : List String} {ds : List Definition}

/-! ## The definitions of a file -/

/-- **Definitions without issues are sound, and their ids are pairwise different.** -/
theorem sound_of_issuesOf (h : issuesOf seen ds = []) :
    (∀ d ∈ ds, d.Sound seen) ∧ (ds.map (·.id)).Nodup := by
  induction ds generalizing seen with
  | nil => simp
  | cons d rest ih =>
      obtain ⟨hd, hrest⟩ := List.append_eq_nil_iff.mp h
      have hsound := Definition.sound_of_issues hd
      rw [hsound.given] at hrest
      obtain ⟨hall, hnodup⟩ := ih hrest
      have hnew : ∀ d' ∈ rest, d'.id ≠ d.id ∧ d'.id ∉ seen := by
        intro d' hd'
        simpa using (hall d' hd').fresh
      constructor
      · intro d' hd'
        rcases List.mem_cons.mp hd' with rfl | hr
        · exact hsound
        · exact { hall d' hr with fresh := (hnew d' hr).2 }
      · rw [List.map_cons, List.nodup_cons]
        refine ⟨fun hm => ?_, hnodup⟩
        obtain ⟨d', hd', he⟩ := List.mem_map.mp hm
        exact (hnew d' hd').1 he

theorem issuesOf_of_issues (h : f.issues = []) : issuesOf [] f.rules = [] :=
  (List.append_eq_nil_iff.mp h).2

/-! ## What is planned -/

/-- A plan for a document has a rule, and finds it by its id. -/
def Planned (plans : List Plan) (document : Path) (rule : Rule) : Prop :=
  ∃ plan ∈ plans, plan.document = document ∧ plan.rules.get? rule.id = some rule

/-- No definition is refused if each makes a rule, and their ids are pairwise different. -/
theorem unrefused_of_sound (hs : ∀ d ∈ ds, ∃ rule, d.toRule = .ok rule)
    (hnd : (ds.map (·.id)).Nodup) : f.Unrefused root ds := by
  intro before d hfront
  obtain ⟨rule, hrule⟩ := hs d (hfront.subset (by simp))
  have hfresh : d.id ∉ before.map (·.id) := by
    have hnd' := (hfront.sublist.map (·.id)).nodup hnd
    rw [List.map_append, List.map_singleton, List.nodup_append_comm, List.singleton_append,
      List.nodup_cons] at hnd'
    exact hnd'.1
  rw [refusal?, hrule]
  refine if_neg fun hm => hfresh ?_
  obtain ⟨e, he, hid⟩ := List.mem_map.mp hm
  exact List.mem_map.mpr ⟨e, (List.mem_filter.mp he).1, hid⟩

/-- **Every definition is planned with its rule**, if their ids are pairwise different. -/
theorem Grouped.planned {plans : List Plan} {d : Definition} {rule : Rule}
    (h : f.Grouped root ds plans) (hnd : (ds.map (·.id)).Nodup) (hd : d ∈ ds)
    (hr : d.toRule = .ok rule) : Planned plans (f.documentOf root d) rule := by
  obtain ⟨plan, ⟨hp, hnames⟩, -⟩ := h.existsUnique hd
  have hids : plan.rules.ids.Nodup := by
    rw [h.ids hp]
    exact (List.filter_sublist.map Definition.id).nodup hnd
  have hrule : rule ∈ plan.rules.rules := by
    have hmem := List.mem_map_of_mem (f := Definition.toRule) hnames
    rw [h.rules plan hp, hr] at hmem
    simpa using hmem
  have hdoc : f.documentOf root d = plan.document := by
    simpa using (List.mem_filter.mp hnames).2
  exact ⟨plan, hp, hdoc.symm, RuleSet.get?_of_mem hids hrule⟩

/-! ## Files that have been accepted -/

/-- The ways in which a rule file is accepted: it has no issues, or it has been loaded. -/
inductive Admitted (f : RuleFile) : Prop
  | checked (h : f.issues = [])
  | read (text : String) (h : ofText text = .ok f)
  | loaded (t : FileTree) (path : Path) (h : load t path = .ok f)
  | listed (t : FileTree) (path : Path) (files : List (Path × RuleFile)) (file : Path)
      (h : loadAll t path = .ok files) (hf : (file, f) ∈ files)

theorem issues_of_ofText {text : String} (h : ofText text = .ok f) : f.issues = [] := by
  obtain ⟨g, -, hg⟩ := bind_eq_ok_iff.mp h
  split at hg
  · rename_i hi
    cases hg
    exact hi
  · cases hg

theorem issues_of_load {t : FileTree} {path : Path} (h : load t path = .ok f) :
    f.issues = [] := by
  obtain ⟨text, -, ho⟩ := bind_eq_ok_iff.mp h
  exact issues_of_ofText (mapError_eq_ok_iff.mp ho)

/-- Loading some rule files loads every one of them, in order. -/
theorem loadEach_eq_ok {t : FileTree} {paths : List Path} {files : List (Path × RuleFile)}
    (h : loadEach t paths = .ok files) :
    files.map Prod.fst = paths ∧ ∀ file ∈ files, load t file.1 = .ok file.2 := by
  induction paths generalizing files with
  | nil =>
      cases h
      simp
  | cons path rest ih =>
      obtain ⟨f, hl, h⟩ := bind_eq_ok_iff.mp h
      obtain ⟨more, hr, h⟩ := bind_eq_ok_iff.mp h
      cases h
      obtain ⟨hmap, hall⟩ := ih hr
      refine ⟨by rw [List.map_cons, hmap], fun file hfile => ?_⟩
      rcases List.mem_cons.mp hfile with rfl | hm
      · exact hl
      · exact hall file hm

/-- What has been loaded together has been loaded from the paths that were found. -/
theorem loadAll_eq_ok {t : FileTree} {path : Path} {files : List (Path × RuleFile)}
    (h : loadAll t path = .ok files) :
    discover t path = .ok (files.map Prod.fst) ∧ ∀ file ∈ files, load t file.1 = .ok file.2 := by
  obtain ⟨paths, hd, h⟩ := bind_eq_ok_iff.mp h
  obtain ⟨hmap, hall⟩ := loadEach_eq_ok h
  exact ⟨by rw [hd, hmap], hall⟩

theorem Admitted.issues (h : f.Admitted) : f.issues = [] := by
  cases h with
  | checked h => exact h
  | read text h => exact issues_of_ofText h
  | loaded t path h => exact issues_of_load h
  | listed t path files file h hf => exact issues_of_load ((loadAll_eq_ok h).2 _ hf)

/-- A rule file without issues has plans, in which every definition has its rule. -/
theorem plans_of_issues (h : f.issues = []) (root : Path) :
    ∃ plans, f.plans root = .ok plans ∧ ∀ d ∈ f.rules, ∀ rule, d.toRule = .ok rule →
      Planned plans (f.documentOf root d) rule := by
  obtain ⟨hsound, hnodup⟩ := sound_of_issuesOf (issuesOf_of_issues h)
  have hunrefused : f.Unrefused root f.rules :=
    unrefused_of_sound (fun d hd => (hsound d hd).rule) hnodup
  have hgrouped := planAll_grouped f root f.rules
  cases hplans : f.plans root with
  | error err =>
      rw [← plans, hplans] at hgrouped
      obtain ⟨before, d, hfront, -, hrefused⟩ := hgrouped
      cases (hunrefused before d hfront).symm.trans hrefused
  | ok plans =>
      rw [← RuleFile.plans, hplans] at hgrouped
      exact ⟨plans, rfl, fun d hd rule hr => hgrouped.1.planned hnodup hd hr⟩

/-- So it can be taken to its documents. -/
theorem applyFile_of_plans {plans : List Plan} (h : f.plans root = .ok plans) (e : Editor)
    (t : FileTree) : e.applyFile t f root =
      .ok (Batch.ofPlans (fun t plan => e.run t plan.document plan.rules) t plans) := by
  simp [Editor.applyFile, h, bind, Except.bind, pure, Except.pure]

theorem checkFile_of_plans {plans : List Plan} (h : f.plans root = .ok plans) (e : Editor)
    (t : FileTree) : e.checkFile t f root =
      .ok (Batch.ofPlans (fun t plan => e.check t plan.document plan.rules) t plans) := by
  simp [Editor.checkFile, h, bind, Except.bind, pure, Except.pure]

/--
**A rule file that has been accepted compiles**, whatever the root. No batch of it is
refused for its rules, and each definition has its rule in the plan of its document,
with everything as it was written and a guard if the rule is required.
-/
theorem admitted_compiles (h : f.Admitted) (root : Path) :
    ∃ plans, f.plans root = .ok plans
      ∧ (∀ (e : Editor) (t : FileTree), (∃ batch, e.applyFile t f root = .ok batch)
          ∧ ∃ batch, e.checkFile t f root = .ok batch)
      ∧ ∀ d ∈ f.rules, ∃ rule, d.toRule = .ok rule ∧ Planned plans (f.documentOf root d) rule
          ∧ d.Describes rule ∧ (rule.required = true → rule.guard.isSome = true) := by
  obtain ⟨plans, hplans, hall⟩ := plans_of_issues h.issues root
  refine ⟨plans, hplans, fun e t => ⟨⟨_, applyFile_of_plans hplans e t⟩,
    ⟨_, checkFile_of_plans hplans e t⟩⟩, fun d hd => ?_⟩
  have hsound := (sound_of_issuesOf (issuesOf_of_issues h.issues)).1 d hd
  obtain ⟨rule, hrule⟩ := hsound.rule
  have hdesc := Definition.describes_of_toRule hrule
  refine ⟨rule, hrule, hall d hd rule hrule, hdesc, fun hr => ?_⟩
  rw [hdesc.isSome_guard]
  exact hsound.guarded (hdesc.required ▸ hr)

/-- A rule file that names one document in two ways, and another one in between. -/
def spelledTwice : RuleFile where
  rules :=
    [{ id := "first", file := "a.txt", find := .literal "one", replace := "1",
       guard := some (.literal "1"), required := true },
      { id := "second", file := "sub//b.txt", find := .literal "x" },
      { id := "third", file := "./a.txt", find := .regex "b+" {}, replace := "<$0>",
        scope := .all }]

theorem admitted_compiles_spelledTwice :
    spelledTwice.issues = []
      ∧ ∃ plans, spelledTwice.plans ⟨["", "work"]⟩ = .ok plans
        ∧ ∀ d ∈ spelledTwice.rules, ∃ rule, d.toRule = .ok rule
          ∧ Planned plans (spelledTwice.documentOf ⟨["", "work"]⟩ d) rule ∧ d.Describes rule
          ∧ (rule.required = true → rule.guard.isSome = true) := by
  have h : spelledTwice.issues = [] := by decide +kernel
  obtain ⟨plans, hplans, -, hall⟩ := admitted_compiles (.checked h) ⟨["", "work"]⟩
  exact ⟨h, plans, hplans, hall⟩

end RuleFile

end Emend

import Emend.Proofs.Definitions
import Emend.Proofs.RuleSets
import Emend.Proofs.Spelling
import Emend.RuleFile.Plan
import Mathlib.Data.List.Induction
import Mathlib.Data.List.Nodup
import Mathlib.Logic.ExistsUnique

/-!
# How definitions are grouped

The definitions of a rule file are gone through once. Each of them makes a rule, and the rule
goes to the end of the plan for its document, wherever that plan stands, or begins a new plan
behind the others. It may be refused on the way, and then no plans are made at all.

* `refusal?` says why a definition is refused, without looking at plans: it makes no rule, or a
  definition before it has the same id and names the same document.
* `Grouped` is what plans have to do with the definitions that have been gone through.
* `Grouped.begin`, `Grouped.join`: a rule begins a plan, or joins one.
* `Grouped.step`: so one more definition is refused, or leaves plans that are grouped again.
* `planAll_grouped`: hence all definitions end up in plans, or the first one that is refused says
  why there are none.
* `plans_partition`: and the plans share the definitions out among them.
-/

namespace Emend

/-- A plan with one more rule at the end. -/
def Plan.extend (plan : Plan) (rule : Rule) : Plan :=
  { plan with rules := { plan.rules with rules := plan.rules.rules ++ [rule] } }

@[simp] theorem Plan.extend_document (plan : Plan) (rule : Rule) :
    (plan.extend rule).document = plan.document := rfl

@[simp] theorem Plan.extend_rules (plan : Plan) (rule : Rule) :
    (plan.extend rule).rules.rules = plan.rules.rules ++ [rule] := rfl

namespace RuleFile

variable {f : RuleFile} {root document : Path} {ds : List Definition} {d : Definition}
  {rule : Rule} {plans : List Plan} {plan : Plan}

/-! ## What is expected of plans -/

/-- Those of some definitions that name a document, in order. -/
def naming (f : RuleFile) (root document : Path) (ds : List Definition) : List Definition :=
  ds.filter (f.documentOf root · = document)

/-- Why a definition is refused behind some others, if it is. -/
def refusal? (f : RuleFile) (root : Path) (earlier : List Definition) (d : Definition) :
    Option RuleError :=
  match d.toRule with
  | .error err => some err
  | .ok _ =>
    if d.id ∈ (f.naming root (f.documentOf root d) earlier).map (·.id) then
      some (.duplicateId d.id)
    else none

/-- None of some definitions is refused behind those that come before it. -/
def Unrefused (f : RuleFile) (root : Path) (ds : List Definition) : Prop :=
  ∀ before d, before ++ [d] <+: ds → f.refusal? root before d = none

/-- The first definition of some that is refused, with the reason. -/
def FirstRefused (f : RuleFile) (root : Path) (ds : List Definition) (err : RuleError) : Prop :=
  ∃ before d, before ++ [d] <+: ds ∧ f.Unrefused root before
    ∧ f.refusal? root before d = some err

/-- Plans among which the definitions of a rule file are shared out. -/
structure Partition (f : RuleFile) (root : Path) (plans : List Plan) : Prop where
  /-- The documents stand in the order in which they first come up. -/
  order : plans.map (·.document) = (f.rules.map (f.documentOf root)).eraseDups
  /-- No two of them go through the same components. -/
  apart : plans.Pairwise fun P Q => P.document.same Q.document = false
  /-- The rules of a plan are those of the definitions that name its document, in their order. -/
  rules : ∀ plan ∈ plans, plan.rules.name = f.name
    ∧ (f.naming root plan.document f.rules).map Definition.toRule = plan.rules.rules.map .ok
  /-- Every definition is in one plan, and only in that. -/
  once : ∀ d ∈ f.rules, ∃! plan, plan ∈ plans ∧ d ∈ f.naming root plan.document f.rules
  /-- Together the plans have all definitions, each as often as the file has it. -/
  complete : (plans.flatMap fun plan => f.naming root plan.document f.rules).Perm f.rules

/-! ## Naming a document -/

theorem naming_append_same (h : f.documentOf root d = document) :
    f.naming root document (ds ++ [d]) = f.naming root document ds ++ [d] := by
  simp [naming, List.filter_append, h]

theorem naming_append_other (h : f.documentOf root d ≠ document) :
    f.naming root document (ds ++ [d]) = f.naming root document ds := by
  simp [naming, List.filter_append, h]

theorem naming_eq_nil (h : document ∉ ds.map (f.documentOf root)) :
    f.naming root document ds = [] := by
  rw [naming, List.filter_eq_nil_iff]
  intro d hd hdoc
  exact h (List.mem_map.mpr ⟨d, hd, by simpa using hdoc⟩)

/-- **Different documents that are all that definitions name share them out.** -/
theorem flatMap_naming_perm {documents : List Path} (hnd : documents.Nodup)
    (h : ∀ d ∈ ds, f.documentOf root d ∈ documents) :
    (documents.flatMap fun document => f.naming root document ds).Perm ds := by
  induction documents generalizing ds with
  | nil =>
      have hnil : ds = [] := List.eq_nil_iff_forall_not_mem.mpr fun d hd => nomatch h d hd
      rw [hnil]
      exact .nil
  | cons document rest ih =>
      obtain ⟨hnew, hnd'⟩ := List.nodup_cons.mp hnd
      -- the other documents share out the definitions that do not name this one
      let others := ds.filter fun d => !decide (f.documentOf root d = document)
      have hothers : ∀ k ∈ rest, f.naming root k ds = f.naming root k others := by
        intro k hk
        have hne : k ≠ document := fun he => hnew (he ▸ hk)
        simp only [naming, others, List.filter_filter]
        refine List.filter_congr fun d _ => ?_
        by_cases hd : f.documentOf root d = k <;> simp [hd, hne]
      have hrest : (rest.flatMap fun k => f.naming root k ds).Perm others := by
        rw [List.flatMap_congr hothers]
        refine ih hnd' fun d hd => ?_
        obtain ⟨hmem, hne⟩ := List.mem_filter.mp hd
        rcases List.mem_cons.mp (h d hmem) with he | hr
        · simp [he] at hne
        · exact hr
      rw [List.flatMap_cons]
      exact (hrest.append_left _).trans (List.filter_append_perm _ _)

/-! ## Adding one rule -/

/-- A rule for a document that has no plan begins one, behind the others. -/
theorem addToPlans_new (name : String) (rule : Rule) (h : document ∉ plans.map (·.document)) :
    addToPlans name document rule plans =
      .ok (plans ++ [⟨document, { name, rules := [rule] }⟩]) := by
  induction plans with
  | nil => rfl
  | cons plan rest ih =>
      rw [List.map_cons, List.mem_cons, not_or] at h
      rw [addToPlans, if_neg (Ne.symm h.1), ih h.2]
      rfl

/-- A rule for a document that has a plan goes to that plan, which keeps its place. -/
theorem addToPlans_old {before : List Plan} (name : String) (rule : Rule) (after : List Plan)
    (h : plan.document ∉ before.map (·.document)) :
    addToPlans name plan.document rule (before ++ plan :: after) =
      (plan.rules.push rule).2.map fun _ =>
        before ++ { plan with rules := (plan.rules.push rule).1 } :: after := by
  induction before with
  | nil =>
      rw [List.nil_append, addToPlans, if_pos rfl]
      rfl
  | cons first before ih =>
      rw [List.map_cons, List.mem_cons, not_or] at h
      rw [List.cons_append, addToPlans, if_neg (Ne.symm h.1), ih h.2]
      cases (plan.rules.push rule).2 <;> rfl

/-- No plan beside one of several is for its document, if no two are for the same. -/
theorem not_mem_documents {before after : List Plan}
    (h : ((before ++ plan :: after).map (·.document)).Nodup) :
    plan.document ∉ before.map (·.document) ∧ plan.document ∉ after.map (·.document) := by
  rw [List.map_append, List.map_cons, List.nodup_middle, List.nodup_cons, List.mem_append,
    not_or] at h
  exact h.1

/-! ## Plans in the making -/

/-- Plans that have been made of some definitions. -/
structure Grouped (f : RuleFile) (root : Path) (ds : List Definition) (plans : List Plan) :
    Prop where
  documents : plans.map (·.document) = (ds.map (f.documentOf root)).eraseDups
  nodup : (plans.map (·.document)).Nodup
  name : ∀ plan ∈ plans, plan.rules.name = f.name
  rules : ∀ plan ∈ plans,
    (f.naming root plan.document ds).map Definition.toRule = plan.rules.rules.map .ok

namespace Grouped

theorem nil (f : RuleFile) (root : Path) : f.Grouped root [] [] where
  documents := by simp
  nodup := by simp
  name := by simp
  rules := by simp

/-- The documents of the plans are those that the definitions name. -/
theorem mem_documents_iff (h : f.Grouped root ds plans) :
    document ∈ plans.map (·.document) ↔ document ∈ ds.map (f.documentOf root) := by
  rw [h.documents, List.mem_eraseDups]

theorem documentOf_mem (h : f.Grouped root ds plans) (hd : d ∈ ds) :
    f.documentOf root d ∈ plans.map (·.document) :=
  h.mem_documents_iff.mpr (List.mem_map.mpr ⟨d, hd, rfl⟩)

theorem exists_documentOf (h : f.Grouped root ds plans) (hp : plan ∈ plans) :
    ∃ d ∈ ds, f.documentOf root d = plan.document :=
  List.mem_map.mp (h.mem_documents_iff.mp (List.mem_map.mpr ⟨plan, hp, rfl⟩))

/-- One more document is added to those of the plans only if it is new. -/
theorem eraseDups_append (h : f.Grouped root ds plans) (d : Definition) :
    ((ds ++ [d]).map (f.documentOf root)).eraseDups =
      if f.documentOf root d ∈ plans.map (·.document) then plans.map (·.document)
      else plans.map (·.document) ++ [f.documentOf root d] := by
  rw [List.map_append, List.map_singleton, List.eraseDups_append, ← h.documents]
  split
  · rename_i hold
    have hnone : [f.documentOf root d].removeAll (ds.map (f.documentOf root)) = [] := by
      rw [List.removeAll, List.filter_eq_nil_iff]
      simpa using List.mem_map.mp (h.mem_documents_iff.mp hold)
    rw [hnone, List.eraseDups_nil, List.append_nil]
  · rename_i hnew
    have hone : [f.documentOf root d].removeAll (ds.map (f.documentOf root)) =
        [f.documentOf root d] := by
      rw [List.removeAll, List.filter_eq_self]
      simpa using fun x hx he => hnew (h.mem_documents_iff.mpr (List.mem_map.mpr ⟨x, hx, he⟩))
    rw [hone]
    rfl

/-- The ids in a plan are those of the definitions. -/
theorem ids (h : f.Grouped root ds plans) (hp : plan ∈ plans) :
    plan.rules.ids = (f.naming root plan.document ds).map (·.id) := by
  have hrules := h.rules plan hp
  rw [RuleSet.ids]
  generalize f.naming root plan.document ds = named at hrules ⊢
  generalize plan.rules.rules = rules at hrules ⊢
  induction named generalizing rules with
  | nil =>
      rw [List.map_nil, eq_comm, List.map_eq_nil_iff] at hrules
      rw [hrules]
      rfl
  | cons d rest ih =>
      cases rules with
      | nil => cases hrules
      | cons rule more =>
          rw [List.map_cons, List.map_cons, List.cons.injEq] at hrules
          rw [List.map_cons, List.map_cons, ih more hrules.2,
            (Definition.describes_of_toRule hrules.1).id]

/-- **A rule begins a plan**, if no definition so far names its document. -/
theorem begin (h : f.Grouped root ds plans) (hr : d.toRule = .ok rule)
    (hnew : f.documentOf root d ∉ plans.map (·.document)) :
    f.Grouped root (ds ++ [d])
      (plans ++ [⟨f.documentOf root d, { name := f.name, rules := [rule] }⟩]) where
  documents := by
    rw [h.eraseDups_append, if_neg hnew, List.map_append]
    rfl
  nodup := by
    rw [List.map_append, List.map_singleton, List.nodup_append_comm, List.singleton_append,
      List.nodup_cons]
    exact ⟨hnew, h.nodup⟩
  name := by
    intro plan hp
    rcases List.mem_append.mp hp with hp | hp
    · exact h.name plan hp
    · rw [List.mem_singleton.mp hp]
  rules := by
    intro plan hp
    rcases List.mem_append.mp hp with hp | hp
    · have hne : f.documentOf root d ≠ plan.document :=
        fun he => hnew (he ▸ List.mem_map.mpr ⟨plan, hp, rfl⟩)
      rw [naming_append_other hne, h.rules plan hp]
    · have hnone := naming_eq_nil (h.mem_documents_iff.not.mp hnew)
      rw [List.mem_singleton.mp hp, naming_append_same rfl, hnone]
      simp [hr]

/-- **A rule joins the plan of its document**, and the other plans stay as they are. -/
theorem join {before after : List Plan} (h : f.Grouped root ds (before ++ plan :: after))
    (hr : d.toRule = .ok rule) (hd : plan.document = f.documentOf root d) :
    f.Grouped root (ds ++ [d]) (before ++ plan.extend rule :: after) := by
  have hmem : plan ∈ before ++ plan :: after := by simp
  have hsame : (before ++ plan.extend rule :: after).map (·.document) =
      (before ++ plan :: after).map (·.document) := by simp
  -- a plan is one that was there before and is for another document, or the longer one
  obtain ⟨hbefore, hafter⟩ := not_mem_documents h.nodup
  have hcases : ∀ P ∈ before ++ plan.extend rule :: after,
      (P ∈ before ++ plan :: after ∧ f.documentOf root d ≠ P.document) ∨ P = plan.extend rule := by
    intro P hP
    rw [List.mem_append, List.mem_cons] at hP
    rw [← hd]
    rcases hP with hP | rfl | hP
    · exact .inl ⟨by simp [hP], fun he => hbefore (he ▸ List.mem_map.mpr ⟨P, hP, rfl⟩)⟩
    · exact .inr rfl
    · exact .inl ⟨by simp [hP], fun he => hafter (he ▸ List.mem_map.mpr ⟨P, hP, rfl⟩)⟩
  exact {
    documents := by
      have hold : f.documentOf root d ∈ (before ++ plan :: after).map (·.document) :=
        hd ▸ List.mem_map.mpr ⟨plan, hmem, rfl⟩
      rw [hsame, h.eraseDups_append, if_pos hold]
    nodup := hsame ▸ h.nodup
    name := by
      intro P hP
      rcases hcases P hP with ⟨hold, -⟩ | rfl
      · exact h.name P hold
      · exact h.name plan hmem
    rules := by
      intro P hP
      rcases hcases P hP with ⟨hold, hother⟩ | rfl
      · rw [naming_append_other hother, h.rules P hold]
      · rw [Plan.extend_document, naming_append_same hd.symm, List.map_append, h.rules plan hmem,
          Plan.extend_rules, List.map_append, List.map_singleton, List.map_singleton, hr] }

end Grouped

/-! ## Going through the definitions -/

theorem planAll_append (f : RuleFile) (root : Path) (ds es : List Definition)
    (plans : List Plan) :
    f.planAll root (ds ++ es) plans =
      f.planAll root ds plans >>= fun plans => f.planAll root es plans := by
  induction ds generalizing plans with
  | nil => rfl
  | cons d rest ih =>
      rw [List.cons_append, planAll, planAll]
      cases d.toRule with
      | error err => rfl
      | ok rule =>
          simp only [bind, Except.bind]
          cases addToPlans f.name (f.documentOf root d) rule plans with
          | error err => rfl
          | ok more => exact ih more

/-- One definition that makes a rule. -/
theorem planAll_singleton (hr : d.toRule = .ok rule) :
    f.planAll root [d] plans = addToPlans f.name (f.documentOf root d) rule plans := by
  rw [planAll, hr]
  simp only [bind, Except.bind]
  cases addToPlans f.name (f.documentOf root d) rule plans <;> rfl

/-- **One more definition is refused, or it leaves plans that are grouped again.** -/
theorem Grouped.step (h : f.Grouped root ds plans) (d : Definition) :
    (f.refusal? root ds d = none
      ∧ ∃ plans', f.planAll root [d] plans = .ok plans' ∧ f.Grouped root (ds ++ [d]) plans')
    ∨ ∃ err, f.refusal? root ds d = some err ∧ f.planAll root [d] plans = .error err := by
  unfold refusal?
  cases hr : d.toRule with
  | error err => exact .inr ⟨err, rfl, by rw [planAll, hr]; rfl⟩
  | ok rule =>
      have hid : rule.id = d.id := (Definition.describes_of_toRule hr).id
      rw [planAll_singleton hr]
      by_cases hdoc : f.documentOf root d ∈ plans.map (·.document)
      · obtain ⟨plan, hp, hd⟩ := List.mem_map.mp hdoc
        obtain ⟨before, after, rfl⟩ := List.append_of_mem hp
        rw [← hd, addToPlans_old f.name rule after (not_mem_documents h.nodup).1]
        simp only [← h.ids hp]
        by_cases htaken : d.id ∈ plan.rules.ids
        · -- the plan has a rule with this id already
          right
          refine ⟨.duplicateId d.id, if_pos htaken, ?_⟩
          rw [RuleSet.push_eq, hid, if_pos htaken]
          rfl
        · left
          refine ⟨if_neg htaken, _, ?_, h.join hr hd⟩
          rw [RuleSet.push_eq, hid, if_neg htaken]
          rfl
      · -- nothing so far is for this document
        left
        have hnone := naming_eq_nil (h.mem_documents_iff.not.mp hdoc)
        exact ⟨by simp [hnone], _, addToPlans_new f.name rule hdoc, h.begin hr hdoc⟩

theorem FirstRefused.append {err : RuleError} (h : f.FirstRefused root ds err)
    (es : List Definition) : f.FirstRefused root (ds ++ es) err := by
  obtain ⟨before, d, hfront, hbefore, hrefused⟩ := h
  exact ⟨before, d, hfront.trans (List.prefix_append ds es), hbefore, hrefused⟩

theorem Unrefused.snoc (h : f.Unrefused root ds) (hd : f.refusal? root ds d = none) :
    f.Unrefused root (ds ++ [d]) := by
  intro before e hfront
  rcases List.prefix_concat_iff.mp hfront with he | hfront
  · obtain ⟨hbefore, hlast⟩ := List.append_inj' he rfl
    cases hlast
    rw [hbefore]
    exact hd
  · exact h before e hfront

/-- **All definitions end up in plans, or the first one that is refused says why.** -/
theorem planAll_grouped (f : RuleFile) (root : Path) (ds : List Definition) :
    match f.planAll root ds [] with
    | .ok plans => f.Grouped root ds plans ∧ f.Unrefused root ds
    | .error err => f.FirstRefused root ds err := by
  -- the definitions are added from behind, as the plans grow
  induction ds using List.reverseRecOn with
  | nil => exact ⟨.nil f root, fun before d hfront => by simp at hfront⟩
  | append_singleton ds d ih =>
      rw [planAll_append]
      cases hplans : f.planAll root ds [] with
      | error err =>
          rw [hplans] at ih
          exact FirstRefused.append ih [d]
      | ok plans =>
          rw [hplans] at ih
          obtain ⟨hgrouped, hunrefused⟩ := ih
          simp only [bind, Except.bind]
          rcases hgrouped.step d with ⟨hnone, plans', hok, hgrouped'⟩ | ⟨err, hrefused, herr⟩
          · rw [hok]
            exact ⟨hgrouped', hunrefused.snoc hnone⟩
          · rw [herr]
            exact ⟨ds, d, List.prefix_rfl, hunrefused, hrefused⟩

/-! ## The plans of a rule file -/

/-- Every definition is in the plan for its document, and in no other. -/
theorem Grouped.existsUnique (h : f.Grouped root ds plans) (hd : d ∈ ds) :
    ∃! plan, plan ∈ plans ∧ d ∈ f.naming root plan.document ds := by
  obtain ⟨plan, hp, he⟩ := List.mem_map.mp (h.documentOf_mem hd)
  refine ⟨plan, ⟨hp, List.mem_filter.mpr ⟨hd, by simpa using he.symm⟩⟩, ?_⟩
  rintro other ⟨hother, hnames⟩
  have hother' : f.documentOf root d = other.document := by
    simpa using (List.mem_filter.mp hnames).2
  exact List.inj_on_of_nodup_map h.nodup hother hp (hother'.symm.trans he.symm)

/-- **Plans that have been made of all definitions share them out among them.** -/
theorem Grouped.partition (h : f.Grouped root f.rules plans) : f.Partition root plans where
  order := h.documents
  apart := by
    refine (List.pairwise_map.mp h.nodup).imp_of_mem fun {P Q} hP hQ hne => ?_
    obtain ⟨d, -, hd⟩ := h.exists_documentOf hP
    obtain ⟨e, -, he⟩ := h.exists_documentOf hQ
    rw [← hd, ← he] at hne ⊢
    -- both documents are normal paths
    exact Bool.eq_false_iff.mpr fun hsame => hne (Path.same_normalize_iff.mp hsame)
  rules := fun plan hp => ⟨h.name plan hp, h.rules plan hp⟩
  once := fun d hd => h.existsUnique hd
  complete := by
    have hperm := flatMap_naming_perm h.nodup fun d hd => h.documentOf_mem hd
    rwa [List.flatMap_map] at hperm

/--
**Plans share the definitions out among them.** The documents of the plans differ as paths, and
stand in the order in which they first come up; each plan has the rules of the definitions that
name its document, in their order, and every definition is in one plan only. If there are no
plans, the first definition is to blame that makes no rule, or whose id comes before it already
for the same document.
-/
theorem plans_partition (f : RuleFile) (root : Path) :
    match f.plans root with
    | .ok plans => f.Partition root plans ∧ f.Unrefused root f.rules
    | .error err => f.FirstRefused root f.rules err := by
  have h := planAll_grouped f root f.rules
  rw [plans]
  cases hplans : f.planAll root f.rules [] with
  | error err =>
      rw [hplans] at h
      exact h
  | ok plans =>
      rw [hplans] at h
      exact ⟨h.1.partition, h.2⟩

/-- Definitions with one id for two documents, and for a third file. -/
def oneIdFor (file : String) : RuleFile where
  rules := ["a.txt", "b.txt", file].map fun file => { id := "same", file, find := .literal "x" }

example : ((oneIdFor "c.txt").plans ⟨["."]⟩).map (·.map (·.document)) =
    .ok [⟨["a.txt"]⟩, ⟨["b.txt"]⟩, ⟨["c.txt"]⟩] := by
  decide +kernel

example : (oneIdFor "./a.txt").plans ⟨["."]⟩ = .error (.duplicateId "same") := by
  decide +kernel

end RuleFile

end Emend

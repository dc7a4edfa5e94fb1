import Emend.RuleSet
import Mathlib.Data.List.Nodup

/-!
# How sets of rules come about

A set is begun empty or with some rules, and then takes one rule after another, except for those
whose ids it has. A call that fails leaves the set that there was.

* `push_eq`: a set refuses a rule whose id it has, and takes any other.
* `pushAll_of_nodup`, `pushAll_of_not_nodup`: it takes rules up to the first one whose id has been
  used before.
* `ofRules_eq_ok_iff`: so a set can be made of rules whose ids are pairwise different, and of no
  others.
* `after_admits`: what one call does to a set whose ids are pairwise different.
* `reached_admits`: so after any calls the ids are pairwise different, and the rules are those
  that were to be taken.
-/

namespace Emend

/-! ## Items with keys -/

section

variable {α : Type} {key : α → String} {l : List α}

theorem isSome_find?_iff {k : String} :
    (l.find? (key · = k)).isSome = true ↔ k ∈ l.map key := by
  rw [List.find?_isSome, List.mem_map]
  simp only [decide_eq_true_eq]

/-- If keys are pairwise different, then the first item with a key is the only one. -/
theorem find?_eq_some_of_nodup {a : α} (h : (l.map key).Nodup) (ha : a ∈ l) :
    l.find? (key · = key a) = some a := by
  cases hf : l.find? (key · = key a) with
  | none =>
      have hno := List.find?_eq_none.mp hf a ha
      simp at hno
  | some found =>
      have hkey : key found = key a := by simpa using List.find?_some hf
      rw [List.inj_on_of_nodup_map h (List.mem_of_find?_eq_some hf) ha hkey]

end

namespace RuleSet

variable {set filled : RuleSet} {rule : Rule} {rules : List Rule} {name : String}

/-! ## Sets of rules -/

@[simp] theorem ids_append (set : RuleSet) (rules : List Rule) :
    ids { set with rules := set.rules ++ rules } = set.ids ++ rules.map (·.id) :=
  List.map_append

theorem isSome_get?_iff {id : String} : (set.get? id).isSome = true ↔ id ∈ set.ids :=
  isSome_find?_iff

/-- **A set refuses a rule whose id it has**, and takes any other. -/
theorem push_eq (set : RuleSet) (rule : Rule) :
    set.push rule =
      if rule.id ∈ set.ids then (set, .error (.duplicateId rule.id))
      else ({ set with rules := set.rules ++ [rule] }, .ok ()) := by
  simp only [push, isSome_get?_iff]

/-- A rule is found by its id, if the ids are pairwise different. -/
theorem get?_of_mem (h : set.ids.Nodup) (hr : rule ∈ set.rules) :
    set.get? rule.id = some rule :=
  find?_eq_some_of_nodup h hr

/-- A rule that a set takes leaves its ids pairwise different. -/
theorem nodup_ids_append (h : set.ids.Nodup) (hnew : rule.id ∉ set.ids) :
    (ids { set with rules := set.rules ++ [rule] }).Nodup := by
  rw [ids_append]
  exact List.nodup_append'.mpr
    ⟨h, List.nodup_singleton _, List.disjoint_singleton.mpr hnew⟩

/-! ## Sets made of rules -/

/-- Rules are taken one after another as long as none is refused. -/
theorem pushAll_cons (set : RuleSet) (rule : Rule) (rest : List Rule) :
    set.pushAll (rule :: rest) =
      if rule.id ∈ set.ids then (set, .error (.duplicateId rule.id))
      else pushAll { set with rules := set.rules ++ [rule] } rest := by
  rw [pushAll, push_eq]
  by_cases hold : rule.id ∈ set.ids
  · simp only [if_pos hold]
  · simp only [if_neg hold]

/-- Rules whose ids are new and pairwise different are taken, all of them. -/
theorem pushAll_of_nodup (h : (set.ids ++ rules.map (·.id)).Nodup) :
    set.pushAll rules = ({ set with rules := set.rules ++ rules }, .ok ()) := by
  induction rules generalizing set with
  | nil => rw [pushAll, List.append_nil]
  | cons rule rest ih =>
      rw [List.map_cons, ← List.singleton_append, ← List.append_assoc] at h
      have hnew : rule.id ∉ set.ids := fun hold =>
        List.disjoint_of_nodup_append h.of_append_left hold (List.mem_singleton_self _)
      rw [pushAll_cons, if_neg hnew, ih (by simpa using h), List.append_assoc]
      rfl

/-- The first rule whose id has been used before is refused, and those before it are taken. -/
theorem pushAll_of_not_nodup (h : set.ids.Nodup) (hrules : ¬ (set.ids ++ rules.map (·.id)).Nodup) :
    ∃ before rule after, rules = before ++ rule :: after
      ∧ (set.ids ++ before.map (·.id)).Nodup ∧ rule.id ∈ set.ids ++ before.map (·.id)
      ∧ set.pushAll rules =
        ({ set with rules := set.rules ++ before }, .error (.duplicateId rule.id)) := by
  induction rules generalizing set with
  | nil => exact absurd (by simpa using h) hrules
  | cons rule rest ih =>
      rw [pushAll_cons]
      by_cases hold : rule.id ∈ set.ids
      · exact ⟨[], rule, rest, rfl, by simpa using h, by simpa using hold, by simp [hold]⟩
      · rw [if_neg hold]
        obtain ⟨before, refused, after, rfl, hnd, hused, hpush⟩ :=
          ih (nodup_ids_append h hold) (by simpa using hrules)
        rw [ids_append, List.append_assoc] at hnd hused
        refine ⟨rule :: before, refused, after, rfl, hnd, hused, ?_⟩
        rw [hpush, List.append_assoc]
        rfl

/-- **A set can be made of rules** if and only if their ids are pairwise different. -/
theorem ofRules_eq_ok_iff :
    ofRules name rules = .ok filled ↔ filled = { name, rules } ∧ (rules.map (·.id)).Nodup := by
  by_cases hnd : (rules.map (·.id)).Nodup
  · have hall : pushAll { name } rules = ({ name, rules }, .ok ()) := pushAll_of_nodup hnd
    rw [ofRules, hall]
    simp [Except.map, hnd, eq_comm]
  · have hempty : ({ name } : RuleSet).ids.Nodup := List.nodup_nil
    obtain ⟨before, rule, after, -, -, -, hpush⟩ := pushAll_of_not_nodup hempty hnd
    rw [ofRules, hpush]
    simp [Except.map, hnd]

/-! ## Calls -/

/-- What can be done to a set. -/
inductive Call
  | new (name : String)
  | ofRules (name : String) (rules : List Rule)
  | push (rule : Rule)

/-- The set that there is after a call. -/
def after (set : RuleSet) : Call → RuleSet
  | .new name => { name }
  | .ofRules name rules =>
    match RuleSet.ofRules name rules with
    | .ok made => made
    | .error _ => set
  | .push rule => (set.push rule).1

/-- The set that there is after some calls. -/
def reached (calls : List Call) : RuleSet := calls.foldl after {}

/-- The rules that are to be there after a call, if there were some before. -/
def Call.admit (kept : List Rule) : Call → List Rule
  | new _ => []
  | ofRules _ rules => if (rules.map (·.id)).Nodup then rules else kept
  | push rule => if rule.id ∈ kept.map (·.id) then kept else kept ++ [rule]

/-- The rules that are to be there after some calls. -/
def accepted (calls : List Call) : List Rule := calls.foldl Call.admit []

/-- **One call** leaves ids that are pairwise different, and the rules that are to be there. -/
theorem after_admits (h : set.ids.Nodup) (call : Call) :
    (set.after call).ids.Nodup ∧ (set.after call).rules = call.admit set.rules := by
  cases call with
  | new name => exact ⟨List.nodup_nil, rfl⟩
  | ofRules name rules =>
      rw [after, Call.admit]
      cases hmade : RuleSet.ofRules name rules with
      | ok made =>
          obtain ⟨rfl, hnd⟩ := ofRules_eq_ok_iff.mp hmade
          exact ⟨hnd, (if_pos hnd).symm⟩
      | error err =>
          have hnd : ¬ (rules.map (·.id)).Nodup := by
            intro hnd
            cases hmade.symm.trans (ofRules_eq_ok_iff.mpr ⟨rfl, hnd⟩)
          exact ⟨h, (if_neg hnd).symm⟩
  | push rule =>
      rw [after, push_eq]
      by_cases hold : rule.id ∈ set.ids
      · rw [if_pos hold]
        exact ⟨h, (if_pos hold).symm⟩
      · rw [if_neg hold]
        exact ⟨nodup_ids_append h hold, (if_neg hold).symm⟩

/-- **Calls one after another** do so as well, whether some of them fail or not. -/
theorem reached_admits (calls : List Call) :
    (reached calls).ids.Nodup ∧ (reached calls).rules = accepted calls := by
  have hrun : ∀ (set : RuleSet), set.ids.Nodup → (calls.foldl after set).ids.Nodup
      ∧ (calls.foldl after set).rules = calls.foldl Call.admit set.rules := by
    induction calls with
    | nil => exact fun set h => ⟨h, rfl⟩
    | cons call rest ih =>
        intro set h
        obtain ⟨hnd, hrules⟩ := after_admits h call
        rw [List.foldl_cons, List.foldl_cons, ← hrules]
        exact ih (set.after call) hnd
  exact hrun {} List.nodup_nil

end RuleSet

end Emend

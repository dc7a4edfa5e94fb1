import Emend.Proofs.Reports
import Emend.Proofs.RuleSets

/-!
# Looking up rules and what became of them

A set and the record of a session are asked by ids, and answer with the first thing that has the
id. As the ids of a set are pairwise different, there is no other.

* `Session.Tells`: a record that answers for every rule of a set with what became of that rule.
* `tells_of_reports`: so does a record with the reports of a pass that has come to its end.
* `reached_unambiguous`: this is so for every set, whatever calls it comes from.
-/

namespace Emend

/-- A record that says of some rules, asked by their ids, what became of them and of a text. -/
structure Session.Tells (s : Session) (rules : List Rule) (content : String) : Prop where
  /-- It answers for these rules and for no others. -/
  found : ∀ id, (s.outcome? id).isSome = true ↔ id ∈ rules.map (·.id)
  /-- It answers for a rule with the report at its place, which says what the rule did to the text
  that those before it had left. -/
  outcome : ∀ (k : Nat) (rule : Rule), rules[k]? = some rule →
    s.reports[k]? = some ⟨rule.id, (rule.apply (Pass.textAfter (rules.take k) content)).2⟩
      ∧ s.outcome? rule.id = some (rule.apply (Pass.textAfter (rules.take k) content)).2

namespace Session

variable {s : Session} {r : Report}

theorem isSome_outcome?_iff {id : String} :
    (s.outcome? id).isSome = true ↔ id ∈ s.reports.map (·.rule) := by
  rw [outcome?, Option.isSome_map]
  exact isSome_find?_iff

theorem outcome?_of_mem (h : (s.reports.map (·.rule)).Nodup) (hr : r ∈ s.reports) :
    s.outcome? r.rule = some r.outcome := by
  rw [outcome?, find?_eq_some_of_nodup h hr, Option.map_some]

end Session

/-- The report at a place is about the rule there. -/
theorem Pass.Faithful.report_at {p : Pass} {rules : List Rule} {content : String}
    (h : p.Faithful rules content) (hf : p.abortedBy = none) {k : Nat} {rule : Rule}
    (hk : rules[k]? = some rule) :
    p.reports[k]? =
      some ⟨rule.id, (rule.apply (textAfter (rules.take k) content)).2⟩ := by
  have hlt : k < p.reports.length := by
    rw [h.finished hf]
    exact (List.getElem?_eq_some_iff.mp hk).1
  obtain ⟨⟨id, outcome⟩, hr⟩ : ∃ r, p.reports[k]? = some r := ⟨_, List.getElem?_eq_getElem hlt⟩
  obtain ⟨rule', hk', hid, ho⟩ := h.outcome k _ hr
  obtain rfl : rule' = rule := Option.some.inj (hk'.symm.trans hk)
  obtain rfl : id = rule'.id := hid
  obtain rfl : outcome = (rule'.apply (textAfter (rules.take k) content)).2 := ho
  exact hr

/-- **The reports of a pass that has come to its end answer for every rule**, if the ids of the
rules are pairwise different. -/
theorem Session.tells_of_reports {s : Session} {set : RuleSet} {content : String}
    (h : set.ids.Nodup) (hf : (set.pass content).abortedBy = none)
    (hs : s.reports = (set.pass content).reports) : s.Tells set.rules content := by
  have hfaithful := Pass.over_faithful set.rules content
  have hids : s.reports.map (·.rule) = set.ids := by
    rw [hs]
    exact hfaithful.complete hf
  refine ⟨fun id => ?_, fun k rule hk => ?_⟩
  · rw [isSome_outcome?_iff, hids]
    rfl
  · have hreport := hfaithful.report_at hf hk
    rw [RuleSet.pass] at hs
    rw [← hs] at hreport
    refine ⟨hreport, ?_⟩
    have hmem := List.mem_of_getElem? hreport
    exact outcome?_of_mem (hids ▸ h) hmem

namespace RuleSet

/-- A set in which every id stands for one rule, and in the records of sessions as well. -/
structure Unambiguous (set : RuleSet) : Prop where
  ids : set.ids.Nodup
  /-- What is found by an id is the only rule with that id. -/
  get? : ∀ id rule, set.get? id = some rule ↔ rule ∈ set.rules ∧ rule.id = id
  /-- A rule is refused if its id is there already, for this reason and no other. -/
  refused : ∀ rule err,
    (set.push rule).2 = .error err ↔ rule.id ∈ set.ids ∧ err = .duplicateId rule.id
  /-- A rule that is refused leaves the set as it is. -/
  kept : ∀ rule, rule.id ∈ set.ids → (set.push rule).1 = set
  /-- Any other rule goes to the end. -/
  taken : ∀ rule, rule.id ∉ set.ids →
    set.push rule = ({ set with rules := set.rules ++ [rule] }, .ok ())
  /-- The record of a pass that has come to its end answers for every rule. -/
  reports : ∀ (content : String) (s : Session), (set.pass content).abortedBy = none →
    s.reports = (set.pass content).reports → s.Tells set.rules content

theorem unambiguous_of_nodup {set : RuleSet} (h : set.ids.Nodup) : set.Unambiguous where
  ids := h
  get? := by
    intro id rule
    constructor
    · intro hget
      exact ⟨List.mem_of_find?_eq_some hget, by simpa using List.find?_some hget⟩
    · rintro ⟨hr, rfl⟩
      exact get?_of_mem h hr
  refused := by
    intro rule err
    rw [push_eq]
    by_cases hold : rule.id ∈ set.ids
    · simp [hold, eq_comm]
    · simp [hold]
  kept := fun rule hold => by rw [push_eq, if_pos hold]
  taken := fun rule hnew => by rw [push_eq, if_neg hnew]
  reports := fun _ _ hf hs => Session.tells_of_reports h hf hs

/--
**Every id of a set stands for one rule**, whatever calls the set comes from. The set has the
rules that were to be taken, in order, and can be asked for each of them; so can the record of
every session of the set that comes to its end. A set can be made of rules at once if and only if
their ids are pairwise different.
-/
theorem reached_unambiguous (calls : List Call) :
    (reached calls).Unambiguous
      ∧ (reached calls).rules = accepted calls
      ∧ (∀ (name : String) (rules : List Rule) (set : RuleSet),
          ofRules name rules = .ok set ↔ set = { name, rules } ∧ (rules.map (·.id)).Nodup)
      ∧ ∀ (e : Editor) (write : Bool) (t : FileTree) (identity : Path) (s : Session),
          (e.session write t identity (reached calls)).result = .ok s →
            s.Tells (reached calls).rules s.before := by
  obtain ⟨hnd, hrules⟩ := reached_admits calls
  refine ⟨unambiguous_of_nodup hnd, hrules, fun _ _ _ => ofRules_eq_ok_iff, ?_⟩
  intro e write t identity s hs
  rcases Editor.session_cases e t identity (reached calls)
    with ⟨err, h⟩ | ⟨d, rule, h⟩ | ⟨d, l, mode, h⟩
  · rw [(h write).result] at hs
    cases hs
  · rw [(h write).result] at hs
    cases hs
  · rw [(h write).result] at hs
    cases hs
    exact Session.tells_of_reports hnd (h write).finished rfl

end RuleSet

end Emend

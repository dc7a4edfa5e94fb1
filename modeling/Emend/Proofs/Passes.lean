import Emend.Pass

/-!
# Passes over a text that has been edited before

A rule is *inert* at a text if it would leave the text alone: its guard is satisfied
there, or it finds nothing and need not. Whether a second pass changes anything is a
question about single rules and one text.

* `inert_iff`: a rule is inert at a text exactly if it is skipped there.
* `over_quiet_iff`: a pass is quiet exactly if every rule is inert at the text it was
  given, although each rule is asked only after the ones before it.
* `quiet_of_unapplied`: a pass that comes to its end without an applied rule is quiet.
* `inert_of_undisturbed`: a pass of self-guarding rules leaves a text at which every
  rule is inert, as long as no edit takes an earlier rule out of its rest.
* `pass_again`: so the second pass is quiet.

Self-guarding alone is not enough. An edit may remove the text by which an earlier
rule knows that its work is done (`pass_again_not_quiet`).
-/

namespace Emend

namespace Rule

/-! ## What becomes of one rule -/

/-- The matches of a pattern that a scope takes in. -/
def targets (p : Pattern) (scope : Scope) (content : String) : List Match :=
  match scope with
  | .first => (p.find? content).toList
  | .all => p.findAll content

/-- The first scope takes in the first of all matches. -/
theorem targets_first (p : Pattern) (content : String) :
    targets p .first content = (p.findAll content).take 1 := by
  rw [targets, ← p.head?_findAll]
  cases p.findAll content with
  | nil => rfl
  | cons m rest => rfl

/-- **Both scopes edit in the same way**, each the matches that it takes in: a single match is
replaced between what comes before and after it. -/
theorem edit?_of_pattern {rule : Rule} {p : Pattern} (hm : rule.matcher = .pattern p)
    (content : String) :
    rule.edit? content =
      match targets p rule.scope content with
      | [] => none
      | m :: ms => some
          (String.ofList (Text.weave content.toList
            ((m :: ms).map fun m => ((m.start, m.stop), rule.replacement.insertion p m))),
          (m :: ms).length) := by
  cases hs : rule.scope with
  | first =>
      simp only [edit?, hm, hs, targets]
      cases p.find? content with
      | none => rfl
      | some m =>
          simp only [Option.map_some, Option.toList_some, List.map_cons, List.map_nil,
            Text.weave_singleton]
          rfl
  | all =>
      simp only [edit?, hm, hs, targets]
      cases p.findAll content with
      | nil => rfl
      | cons m ms => simp only [List.length_map]

/-- An edit is possible exactly if the matcher matches. -/
theorem edit?_eq_none_iff {rule : Rule} {content : String} :
    rule.edit? content = none ↔ rule.matcher.isMatch content = false := by
  cases hm : rule.matcher with
  | literal text =>
      simp only [edit?, hm, Option.map_eq_none_iff, Matcher.isMatch, Text.occurs,
        Option.isSome_eq_false_iff, Option.isNone_iff_eq_none]
  | pattern p =>
      have hnone : rule.edit? content = none ↔ targets p rule.scope content = [] := by
        rw [edit?_of_pattern hm]
        cases targets p rule.scope content <;> simp
      have hhead := p.head?_findAll content
      rw [hnone, Matcher.isMatch, Pattern.isMatch, ← hhead]
      cases rule.scope with
      | first =>
          rw [targets_first]
          cases p.findAll content <;> simp
      | all =>
          rw [targets]
          cases p.findAll content <;> simp

theorem apply_of_guard {rule : Rule} {content : String} (h : rule.guardSatisfied content) :
    rule.apply content = (content, .alreadyApplied) := by
  rw [apply, if_pos h]

theorem apply_of_edit {rule : Rule} {content new : String} {n : Nat}
    (h : rule.guardSatisfied content = false) (he : rule.edit? content = some (new, n)) :
    rule.apply content = (new, .applied n) := by
  rw [apply, if_neg (by simp [h]), he]

theorem apply_of_absent {rule : Rule} {content : String}
    (h : rule.guardSatisfied content = false) (hm : rule.matcher.isMatch content = false) :
    rule.apply content = (content, rule.absentOutcome) := by
  rw [apply, if_neg (by simp [h]), edit?_eq_none_iff.mpr hm]

/-- **A rule has three ways to go**: its guard is satisfied, it edits, or it finds nothing. -/
theorem apply_cases (rule : Rule) (content : String) :
    rule.guardSatisfied content = true
    ∨ (rule.guardSatisfied content = false ∧ ∃ new n, rule.edit? content = some (new, n))
    ∨ (rule.guardSatisfied content = false ∧ rule.matcher.isMatch content = false) := by
  cases hg : rule.guardSatisfied content with
  | true => exact .inl rfl
  | false =>
      right
      cases he : rule.edit? content with
      | none => exact .inr ⟨rfl, edit?_eq_none_iff.mp he⟩
      | some edited => exact .inl ⟨rfl, edited.1, edited.2, rfl⟩

/-- A rule that would leave a text alone, and be content with it. -/
def Inert (rule : Rule) (content : String) : Prop :=
  rule.guardSatisfied content = true
    ∨ (rule.matcher.isMatch content = false ∧ rule.required = false)

/-- What becomes of a rule at a text at which it is inert. -/
def inertOutcome (rule : Rule) (content : String) : Outcome :=
  if rule.guardSatisfied content then .alreadyApplied else .absent

theorem Inert.apply {rule : Rule} {content : String} (h : rule.Inert content) :
    rule.apply content = (content, rule.inertOutcome content) := by
  cases hg : rule.guardSatisfied content with
  | true => rw [apply_of_guard hg, inertOutcome, if_pos hg]
  | false =>
      rcases h with h | ⟨hm, hr⟩
      · exact absurd h (by simp [hg])
      · rw [apply_of_absent hg hm, absentOutcome, inertOutcome, if_neg (by simp [hr]),
          if_neg (by simp [hg])]

/-- **A rule is inert exactly where it is skipped.** -/
theorem inert_iff {rule : Rule} {content : String} :
    rule.Inert content ↔ (rule.apply content).2.isSkipped = true := by
  constructor
  · intro h
    rw [h.apply, inertOutcome]
    split <;> rfl
  · intro h
    rcases apply_cases rule content with hg | ⟨hg, new, n, he⟩ | ⟨hg, hm⟩
    · exact .inl hg
    · rw [apply_of_edit hg he] at h
      exact absurd h (by simp [Outcome.isSkipped])
    · rw [apply_of_absent hg hm, absentOutcome] at h
      split at h
      · exact absurd h (by simp [Outcome.isSkipped])
      · rename_i hr
        exact .inr ⟨hm, by simpa using hr⟩

/-- A rule that was neither applied nor failed was skipped, so it is inert. -/
theorem inert_of_neither {rule : Rule} {content : String}
    (ha : (rule.apply content).2.isApplied = false)
    (hf : (rule.apply content).2.isFailed = false) : rule.Inert content := by
  rw [inert_iff]
  cases ho : (rule.apply content).2 with
  | applied n =>
      rw [ho] at ha
      cases ha
  | alreadyApplied => rfl
  | absent => rfl
  | failed =>
      rw [ho] at hf
      cases hf

/-- A guarded rule whose edit always satisfies its guard. -/
structure SelfGuarding (rule : Rule) : Prop where
  guarded : rule.guard.isSome
  /-- Whatever it makes of a text, the guard is satisfied by that. -/
  satisfied : ∀ content new n, rule.apply content = (new, .applied n) → rule.guardSatisfied new

/-- **A self-guarding rule that does not fail is inert at the text that it leaves.** -/
theorem SelfGuarding.inert {rule : Rule} (h : rule.SelfGuarding) {content : String}
    (hf : (rule.apply content).2.isFailed = false) : rule.Inert (rule.apply content).1 := by
  rcases apply_cases rule content with hg | ⟨hg, new, n, he⟩ | ⟨hg, hm⟩
  · rw [apply_of_guard hg]
    exact .inl hg
  · have ha := apply_of_edit hg he
    rw [ha]
    exact .inl (h.satisfied content new n ha)
  · rw [apply_of_absent hg hm, absentOutcome] at hf ⊢
    split at hf
    · exact absurd hf (by simp [Outcome.isFailed])
    · rename_i hr
      exact .inr ⟨hm, by simpa using hr⟩

/-! ## Rules that insert their guard -/

theorem guardSatisfied_iff {rule : Rule} {guard : String}
    (hg : rule.guard = some (.literal guard)) {content : String} :
    rule.guardSatisfied content ↔ guard.toList <:+: content.toList := by
  rw [guardSatisfied, hg]
  exact Text.occurs_iff

/-- A literal replacement is part of the text that an edit leaves. -/
theorem infix_of_edit? {rule : Rule} {inserted : String}
    (hr : rule.replacement = .literal inserted) {content new : String} {n : Nat}
    (h : rule.edit? content = some (new, n)) : inserted.toList <:+: new.toList := by
  cases hm : rule.matcher with
  | literal text =>
      simp only [edit?, hm, hr, Option.map_eq_some_iff] at h
      obtain ⟨⟨before, after⟩, -, he⟩ := h
      rw [← (Prod.mk.inj he).1, String.toList_ofList]
      exact ⟨before, after, rfl⟩
  | pattern p =>
      rw [edit?_of_pattern hm, hr] at h
      split at h
      · cases h
      · rename_i m ms _
        rw [← (Prod.mk.inj (Option.some.inj h)).1, String.toList_ofList]
        exact Text.infix_weaveFrom (List.mem_map.mpr ⟨m, List.mem_cons_self .., rfl⟩)

/-- A rule whose literal replacement contains its literal guard is self-guarding. -/
theorem selfGuarding_of_infix {rule : Rule} {guard inserted : String}
    (hg : rule.guard = some (.literal guard)) (hr : rule.replacement = .literal inserted)
    (h : guard.toList <:+: inserted.toList) : rule.SelfGuarding where
  guarded := by simp [hg]
  satisfied := by
    intro content new n ha
    rw [guardSatisfied_iff hg]
    rcases apply_cases rule content with hs | ⟨hs, new', n', he⟩ | ⟨hs, hm⟩
    · rw [apply_of_guard hs] at ha
      cases ha
    · rw [apply_of_edit hs he] at ha
      cases ha
      exact h.trans (infix_of_edit? hr he)
    · rw [apply_of_absent hs hm, absentOutcome] at ha
      split at ha <;> cases ha

end Rule

namespace Pass

/-! ## Quiet passes -/

/-- One rule of a pass that does not fail. -/
theorem over_cons_of_not_failed {rule : Rule} (rest : List Rule) {content : String}
    (h : (rule.apply content).2.isFailed = false) :
    Pass.over (rule :: rest) content =
      { Pass.over rest (rule.apply content).1 with
        reports := ⟨rule.id, (rule.apply content).2⟩
          :: (Pass.over rest (rule.apply content).1).reports } := by
  rw [Pass.over]
  simp only [h]
  rfl

/-- A pass that no rule ends goes on behind its first rule. -/
theorem over_cons_finished {rule : Rule} {rest : List Rule} {content : String}
    (h : (Pass.over (rule :: rest) content).abortedBy = none) :
    (rule.apply content).2.isFailed = false
      ∧ (Pass.over rest (rule.apply content).1).abortedBy = none := by
  cases hf : (rule.apply content).2.isFailed with
  | false =>
      rw [over_cons_of_not_failed _ hf] at h
      exact ⟨rfl, h⟩
  | true =>
      rw [Pass.over] at h
      simp [hf] at h

/-- A pass that no rule has ended, in which none was applied, and which left the text alone. -/
structure Quiet (p : Pass) (content : String) : Prop where
  finished : p.abortedBy = none
  unapplied : ∀ r ∈ p.reports, r.outcome.isApplied = false
  content : p.content = content

/-- A pass that has skipped all its rules is quiet. -/
theorem quiet_skipped (rules : List Rule) (content : String) :
    (Pass.mk content (rules.map fun rule => ⟨rule.id, rule.inertOutcome content⟩) none).Quiet
      content where
  finished := rfl
  unapplied := by
    intro r hr
    obtain ⟨rule, -, rfl⟩ := List.mem_map.mp hr
    simp only [Rule.inertOutcome]
    split <;> rfl
  content := rfl

/-- A pass of rules that are inert at its text. -/
theorem over_of_inert {rules : List Rule} {content : String}
    (h : ∀ rule ∈ rules, rule.Inert content) :
    Pass.over rules content =
      ⟨content, rules.map fun rule => ⟨rule.id, rule.inertOutcome content⟩, none⟩ := by
  induction rules with
  | nil => rfl
  | cons rule rest ih =>
      have hrule := (h rule (List.mem_cons_self ..)).apply
      have hf : (rule.apply content).2.isFailed = false := by
        rw [hrule, Rule.inertOutcome]
        split <;> rfl
      rw [over_cons_of_not_failed _ hf, hrule, ih fun r hr => h r (List.mem_cons_of_mem _ hr)]
      rfl

/-- A pass that no rule ends, and in which none is applied, is one of inert rules. -/
theorem inert_of_unapplied {rules : List Rule} {content : String}
    (h : (Pass.over rules content).abortedBy = none)
    (ha : ∀ r ∈ (Pass.over rules content).reports, r.outcome.isApplied = false) :
    ∀ rule ∈ rules, rule.Inert content := by
  induction rules with
  | nil => simp
  | cons rule rest ih =>
      obtain ⟨hf, hrest⟩ := over_cons_finished h
      rw [over_cons_of_not_failed rest hf] at ha
      have hi : rule.Inert content := Rule.inert_of_neither (ha _ List.mem_cons_self) hf
      -- so the rules behind it are asked at the same text
      have hsame : (rule.apply content).1 = content := by rw [hi.apply]
      rw [hsame] at hrest ha
      intro r hr
      rcases List.mem_cons.mp hr with rfl | hr
      · exact hi
      · exact ih hrest (fun r hr => ha r (List.mem_cons_of_mem _ hr)) r hr

/-- **A pass is quiet exactly if every rule by itself is inert at its text.** -/
theorem over_quiet_iff {rules : List Rule} {content : String} :
    (Pass.over rules content).Quiet content ↔ ∀ rule ∈ rules, rule.Inert content := by
  constructor
  · intro hq
    exact inert_of_unapplied hq.finished hq.unapplied
  · intro h
    rw [over_of_inert h]
    exact quiet_skipped rules content

/-- **A pass is quiet if no rule ends it and none is applied.** -/
theorem quiet_of_unapplied {rules : List Rule} {content : String}
    (h : (Pass.over rules content).abortedBy = none)
    (ha : ∀ r ∈ (Pass.over rules content).reports, r.outcome.isApplied = false) :
    (Pass.over rules content).Quiet content :=
  over_quiet_iff.mpr (inert_of_unapplied h ha)

/-- A pass that no rule has ended reports no failure. -/
theorem unfailed_of_finished {rules : List Rule} {content : String}
    (h : (Pass.over rules content).abortedBy = none) :
    ∀ r ∈ (Pass.over rules content).reports, r.outcome.isFailed = false := by
  induction rules generalizing content with
  | nil => simp [Pass.over]
  | cons rule rest ih =>
      obtain ⟨hf, hrest⟩ := over_cons_finished h
      rw [over_cons_of_not_failed rest hf]
      intro r hr
      rcases List.mem_cons.mp hr with rfl | hr
      · exact hf
      · exact ih hrest r hr

/-! ## Edits that leave earlier rules at rest -/

/--
No edit of a pass takes a rule that has run before it out of its rest: one whose guard
was satisfied may lose its guard only where it finds nothing either, and one that
found nothing may find something only where its guard is satisfied.
-/
def Undisturbed : (earlier : List Rule) → List Rule → (content : String) → Prop
  | _, [], _ => True
  | earlier, rule :: rest, content =>
    (∀ r ∈ earlier, r.Inert content → r.Inert (rule.apply content).1)
      ∧ Undisturbed (earlier ++ [rule]) rest (rule.apply content).1

/-- **A pass of self-guarding rules puts every rule at rest**, unless an edit disturbs one. -/
theorem inert_of_undisturbed {earlier rules : List Rule} {content : String}
    (hs : ∀ rule ∈ rules, rule.SelfGuarding) (he : ∀ r ∈ earlier, r.Inert content)
    (hu : Undisturbed earlier rules content) (hf : (Pass.over rules content).abortedBy = none) :
    ∀ r ∈ earlier ++ rules, r.Inert (Pass.over rules content).content := by
  induction rules generalizing earlier content with
  | nil =>
      rw [List.append_nil]
      exact he
  | cons rule rest ih =>
      obtain ⟨hstep, hu'⟩ := hu
      obtain ⟨hfirst, hrest⟩ := over_cons_finished hf
      have hnext : ∀ r ∈ earlier ++ [rule], r.Inert (rule.apply content).1 := by
        intro r hr
        rcases List.mem_append.mp hr with h | h
        · exact hstep r h (he r h)
        · rw [List.mem_singleton.mp h]
          exact (hs rule (List.mem_cons_self ..)).inert hfirst
      have := ih (fun r hr => hs r (List.mem_cons_of_mem _ hr)) hnext hu' hrest
      rw [over_cons_of_not_failed _ hfirst]
      rwa [List.append_assoc] at this

end Pass

namespace RuleSet

/-! ## The second pass -/

/--
**A second pass of self-guarding rules is quiet if no edit of the first disturbs an
earlier rule.** In any case it is quiet exactly if every rule is inert at the text that
the first pass leaves.
-/
theorem pass_again (set : RuleSet) (content : String)
    (hs : ∀ rule ∈ set.rules, rule.SelfGuarding) (hf : (set.pass content).abortedBy = none) :
    (Pass.Undisturbed [] set.rules content →
        (set.pass (set.pass content).content).Quiet (set.pass content).content)
      ∧ ((set.pass (set.pass content).content).Quiet (set.pass content).content ↔
        ∀ rule ∈ set.rules, rule.Inert (set.pass content).content) := by
  refine ⟨fun hu => ?_, Pass.over_quiet_iff⟩
  have hinert := Pass.inert_of_undisturbed hs (by simp) hu hf
  exact Pass.over_quiet_iff.mpr hinert

/-- A rule that replaces one literal text by another, and is guarded by the new one. -/
def guardedBy (id find inserted : String) : Rule where
  id
  matcher := .literal find
  replacement := .literal inserted
  guard := some (.literal inserted)

theorem selfGuarding_guardedBy (id find inserted : String) :
    (guardedBy id find inserted).SelfGuarding :=
  Rule.selfGuarding_of_infix rfl rfl List.infix_rfl

/-- Two rules that leave each other's marks alone. -/
def marking : RuleSet where
  rules := [guardedBy "first" "a" "<1>", guardedBy "second" "b" "<2>"]

theorem pass_again_marking :
    (∀ rule ∈ marking.rules, rule.SelfGuarding) ∧ (marking.pass "aba").abortedBy = none
      ∧ Pass.Undisturbed [] marking.rules "aba"
      ∧ (marking.pass (marking.pass "aba").content).Quiet (marking.pass "aba").content := by
  have hs : ∀ rule ∈ marking.rules, rule.SelfGuarding := by
    intro rule hr
    simp only [marking, List.mem_cons, List.not_mem_nil, or_false] at hr
    rcases hr with rfl | rfl <;> exact selfGuarding_guardedBy ..
  have hf : (marking.pass "aba").abortedBy = none := by decide
  have hu : Pass.Undisturbed [] marking.rules "aba" := by
    refine ⟨by simp, ?_, trivial⟩
    intro r hr _
    rw [List.mem_singleton.mp hr]
    exact .inl (by decide)
  exact ⟨hs, hf, hu, (pass_again marking "aba" hs hf).1 hu⟩

/-- Two rules of which the second one erases what the first one has inserted. -/
def erasing : RuleSet where
  rules := [guardedBy "first" "a" "b", guardedBy "second" "b" "c"]

/-- **Self-guarding rules need not be quiet when they run again**: in a text with two
places for the first rule, the second pass edits the one that is left. -/
theorem pass_again_not_quiet :
    (∀ rule ∈ erasing.rules, rule.SelfGuarding) ∧ (erasing.pass "aa").abortedBy = none
      ∧ ¬ (erasing.pass (erasing.pass "aa").content).Quiet (erasing.pass "aa").content := by
  refine ⟨?_, by decide, ?_⟩
  · intro rule hr
    simp only [erasing, List.mem_cons, List.not_mem_nil, or_false] at hr
    rcases hr with rfl | rfl <;> exact selfGuarding_guardedBy ..
  · intro hq
    exact absurd hq.content (by decide)

end RuleSet

end Emend

import Emend.Proofs.Passes
import Emend.Proofs.Sessions

/-!
# What the reports of a pass say

The reports of a pass are all that a reader learns of it, and everything that counts rules
counts reports. They are written one after another, while the text goes from rule to rule, and
they break off when a required rule finds nothing.

* `textAfter` is the text after some rules, said without passes and reports.
* `Faithful` lists what the reports and the end of a pass say about rules and texts.
* `faithful_of_failed`, `Faithful.cons`: the first rule ends the pass, or the pass goes on behind it.
* `over_faithful`: so every pass is faithful.
* `pass_faithful` adds what follows for sessions, which count their reports.
* `unapplied_iff_inert`: reports that name no applied and no failed rule tell of a text at which
  every rule is inert.
-/

namespace Emend

namespace Pass

variable {rule : Rule} {rest rules : List Rule} {content : String} {p : Pass}

/-! ## Faithful passes -/

/-- The text after some rules, each of which is given the text that the one before it left. -/
def textAfter (rules : List Rule) (content : String) : String :=
  rules.foldl (fun content rule => (rule.apply content).1) content

@[simp] theorem textAfter_nil (content : String) : textAfter [] content = content := rfl

@[simp] theorem textAfter_cons (rule : Rule) (rest : List Rule) (content : String) :
    textAfter (rule :: rest) content = textAfter rest (rule.apply content).1 := rfl

/-- A pass whose reports and whose end say what became of some rules and of a text. -/
structure Faithful (p : Pass) (rules : List Rule) (content : String) : Prop where
  /-- The reports name the rules in order, as far as the pass has come. -/
  ids : p.reports.map (·.rule) <+: rules.map (·.id)
  /-- Each says what became of its rule on the text that the rules before it left. -/
  outcome : ∀ (k : Nat) (report : Report), p.reports[k]? = some report →
    ∃ rule : Rule, rules[k]? = some rule ∧ report.rule = rule.id
      ∧ report.outcome = (rule.apply (textAfter (rules.take k) content)).2
  /-- The text is the one that the last of them left. -/
  text : p.content = textAfter (rules.take p.reports.length) content
  /-- Only the last rule can have failed: a required one, whose guard is not satisfied and whose
  matcher matches nowhere in that text. -/
  failed : ∀ (k : Nat) (report : Report), p.reports[k]? = some report →
    report.outcome = .failed → k + 1 = p.reports.length
      ∧ ∃ rule : Rule, rules[k]? = some rule ∧ rule.required = true
        ∧ rule.guardSatisfied p.content = false ∧ rule.matcher.isMatch p.content = false
  /-- A rule has ended the pass exactly if the last report says that it has failed. -/
  abortedBy : ∀ id, p.abortedBy = some id ↔ p.reports.getLast? = some ⟨id, .failed⟩
  /-- If none has, the reports are complete. -/
  finished : p.abortedBy = none → p.reports.length = rules.length
  /-- The text can only have been changed by a rule that was applied. -/
  changed : p.content ≠ content → ∃ report ∈ p.reports, report.outcome.isApplied = true

/-- A rule that has failed is required and finds nothing, and it leaves the text alone. -/
theorem apply_of_failed (h : (rule.apply content).2.isFailed = true) :
    rule.apply content = (content, .failed) ∧ rule.required = true
      ∧ rule.guardSatisfied content = false ∧ rule.matcher.isMatch content = false := by
  rcases Rule.apply_cases rule content with hg | ⟨hg, new, n, he⟩ | ⟨hg, hm⟩
  · rw [Rule.apply_of_guard hg] at h
    cases h
  · rw [Rule.apply_of_edit hg he] at h
    cases h
  · rw [Rule.apply_of_absent hg hm, Rule.absentOutcome] at h ⊢
    by_cases hr : rule.required
    · exact ⟨by rw [if_pos hr], hr, hg, hm⟩
    · rw [if_neg hr] at h
      cases h

/-- A rule that has changed a text has been applied to it. -/
theorem isApplied_of_changed (h : (rule.apply content).1 ≠ content) :
    (rule.apply content).2.isApplied = true := by
  rcases Rule.apply_cases rule content with hg | ⟨hg, new, n, he⟩ | ⟨hg, hm⟩
  · exact absurd (by rw [Rule.apply_of_guard hg]) h
  · rw [Rule.apply_of_edit hg he]
    rfl
  · exact absurd (by rw [Rule.apply_of_absent hg hm]) h

theorem faithful_nil (content : String) : (Pass.mk content [] none).Faithful [] content where
  ids := List.nil_prefix
  outcome := by simp
  text := rfl
  failed := by simp
  abortedBy := by simp
  finished := fun _ => rfl
  changed := fun h => absurd rfl h

/-- **A rule that fails ends the pass**, with its own report as the last one. -/
theorem faithful_of_failed (rest : List Rule) (h : (rule.apply content).2.isFailed = true) :
    (Pass.mk content [⟨rule.id, .failed⟩] (some rule.id)).Faithful (rule :: rest) content := by
  obtain ⟨happly, hr, hg, hm⟩ := apply_of_failed h
  have only : ∀ (k : Nat) (report : Report), [⟨rule.id, .failed⟩][k]? = some report →
      k = 0 ∧ report = ⟨rule.id, .failed⟩ := by
    intro k report hk
    cases k with
    | zero => exact ⟨rfl, (Option.some.inj hk).symm⟩
    | succ k => cases hk
  exact {
    ids := ⟨rest.map (·.id), rfl⟩
    outcome := by
      intro k report hk
      obtain ⟨rfl, rfl⟩ := only k report hk
      exact ⟨rule, rfl, rfl, by simp [happly]⟩
    text := by simp [happly]
    failed := by
      intro k report hk _
      obtain ⟨rfl, -⟩ := only k report hk
      exact ⟨rfl, rule, rfl, hr, hg, hm⟩
    abortedBy := by simp [eq_comm]
    finished := fun h => nomatch h
    changed := fun h => absurd rfl h }

/-- **Any other rule hands its text on**, and its report comes before those of the others. -/
theorem Faithful.cons (hf : (rule.apply content).2.isFailed = false)
    (h : p.Faithful rest (rule.apply content).1) :
    Faithful { p with reports := ⟨rule.id, (rule.apply content).2⟩ :: p.reports }
      (rule :: rest) content where
  ids := List.cons_prefix_cons.mpr ⟨rfl, h.ids⟩
  outcome := by
    intro k report hk
    cases k with
    | zero =>
        cases hk
        exact ⟨rule, rfl, rfl, rfl⟩
    | succ k => exact h.outcome k report hk
  text := h.text
  failed := by
    intro k report hk hfail
    cases k with
    | zero =>
        cases hk
        rw [show (rule.apply content).2 = .failed from hfail] at hf
        cases hf
    | succ k =>
        obtain ⟨hlast, hrule⟩ := h.failed k report hk hfail
        exact ⟨by simp [← hlast], hrule⟩
  abortedBy := by
    intro id
    rw [h.abortedBy id]
    cases hr : p.reports with
    | nil =>
        have hne : (rule.apply content).2 ≠ .failed := by
          intro he
          rw [he] at hf
          cases hf
        simp [hne]
    | cons first more => simp only [List.getLast?_cons_cons]
  finished := fun hn => congrArg (· + 1) (h.finished hn)
  changed := by
    intro hne
    by_cases hsame : (rule.apply content).1 = content
    · obtain ⟨report, hr, ha⟩ := h.changed (by rw [hsame]; exact hne)
      exact ⟨report, List.mem_cons_of_mem _ hr, ha⟩
    · exact ⟨_, List.mem_cons_self, isApplied_of_changed hsame⟩

/-- **Every pass is faithful**, whether a rule ends it or not. -/
theorem over_faithful (rules : List Rule) (content : String) :
    (Pass.over rules content).Faithful rules content := by
  induction rules generalizing content with
  | nil => exact faithful_nil content
  | cons rule rest ih =>
      cases hf : (rule.apply content).2.isFailed with
      | false =>
          rw [over_cons_of_not_failed rest hf]
          exact (ih (rule.apply content).1).cons hf
      | true =>
          have hstop := faithful_of_failed rest hf
          rw [Pass.over]
          simp only [(apply_of_failed hf).1]
          exact hstop

/-! ## What follows from it -/

/-- A pass that no rule has ended has reported on all of them. -/
theorem Faithful.complete (h : p.Faithful rules content) (hf : p.abortedBy = none) :
    p.reports.map (·.rule) = rules.map (·.id) :=
  h.ids.eq_of_length (by simp [h.finished hf])

/-- A pass that a rule has ended has reported one failure, that of this rule, at the end. -/
theorem Faithful.ending (h : p.Faithful rules content) {id : String}
    (ha : p.abortedBy = some id) :
    ∃ front, p.reports = front ++ [⟨id, .failed⟩] ∧ ∀ r ∈ front, r.outcome ≠ .failed := by
  obtain ⟨front, hfront⟩ := List.getLast?_eq_some_iff.mp ((h.abortedBy id).mp ha)
  refine ⟨front, hfront, fun r hr hfail => ?_⟩
  -- a failure in front of the last report would be the last one
  obtain ⟨k, hk⟩ := List.mem_iff_getElem?.mp hr
  have hlt : k < front.length := (List.getElem?_eq_some_iff.mp hk).1
  have hat : p.reports[k]? = some r := by rw [hfront, List.getElem?_append_left hlt, hk]
  have hlast := (h.failed k r hat hfail).1
  rw [hfront, List.length_append, List.length_singleton] at hlast
  omega

/-- A pass that reports no failure has come to its end. -/
theorem Faithful.finished_of_unfailed (h : p.Faithful rules content)
    (hf : ∀ r ∈ p.reports, r.outcome.isFailed = false) : p.abortedBy = none := by
  cases ha : p.abortedBy with
  | none => rfl
  | some id =>
      have hlast := hf _ (List.mem_of_getLast? ((h.abortedBy id).mp ha))
      cases hlast

/-- **The reports tell the quiet passes**: those in which no rule was applied and none failed. -/
theorem over_quiet_iff_reports (rules : List Rule) (content : String) :
    (Pass.over rules content).Quiet content ↔
      ∀ r ∈ (Pass.over rules content).reports,
        r.outcome.isApplied = false ∧ r.outcome.isFailed = false := by
  constructor
  · intro hq r hr
    exact ⟨hq.unapplied r hr, unfailed_of_finished hq.finished r hr⟩
  · intro h
    have hfinished := (over_faithful rules content).finished_of_unfailed fun r hr => (h r hr).2
    exact quiet_of_unapplied hfinished fun r hr => (h r hr).1

end Pass

/-- Where nothing has failed, every rule was applied or skipped. -/
theorem Session.applied_add_skipped {s : Session}
    (h : ∀ r ∈ s.reports, r.outcome.isFailed = false) :
    s.applied + s.skipped = s.reports.length := by
  have hskipped : ∀ r ∈ s.reports,
      r.outcome.isSkipped = true ↔ (decide ¬ r.outcome.isApplied = true) = true := by
    intro r hr
    have hf := h r hr
    cases ho : r.outcome <;> simp_all [Outcome.isSkipped, Outcome.isApplied, Outcome.isFailed]
  rw [applied, skipped, List.countP_congr hskipped, ← List.length_eq_countP_add_countP]

/--
**The reports of a pass are faithful.** They name the rules in order and say what became of each
of them on the text that those before it left; only the last one can report a failure, and then
it names the rule that has ended the pass. So a session that comes to its end has reported on
every rule, as applied or as skipped, and one that a required rule has ended reports one failure,
at the end.
-/
theorem RuleSet.pass_faithful (set : RuleSet) (content : String) :
    (set.pass content).Faithful set.rules content
      ∧ ∀ (e : Editor) (write : Bool) (t : FileTree) (identity : Path),
        match (e.session write t identity set).result with
        | .ok s => s.reports.map (·.rule) = set.ids ∧ s.applied + s.skipped = set.rules.length
        | .error (.drifted _ id reports) =>
          ∃ front, reports = front ++ [⟨id, .failed⟩] ∧ ∀ r ∈ front, r.outcome ≠ .failed
        | .error _ => True := by
  refine ⟨Pass.over_faithful set.rules content, fun e write t identity => ?_⟩
  rcases Editor.session_cases e t identity set with ⟨err, h⟩ | ⟨d, rule, h⟩ | ⟨d, l, mode, h⟩
  · have ho := (h write).opened
    rw [(h write).result]
    cases err with
    | drifted path id reports => exact absurd ho Editor.openDocument_ne_drifted
    | workspace err => trivial
    | io path fault => trivial
  · rw [(h write).result]
    exact (Pass.over_faithful set.rules d.initial).ending (h write).aborted
  · have hfaithful := Pass.over_faithful set.rules d.initial
    have hfinished := (h write).finished
    rw [(h write).result]
    refine ⟨hfaithful.complete hfinished, ?_⟩
    rw [Session.applied_add_skipped (Pass.unfailed_of_finished hfinished)]
    exact hfaithful.finished hfinished

/--
**Nothing is applied exactly where every rule by itself is inert.** A pass that no rule ends, and
in which none is applied, is one of rules that are inert at the text it was given; it gives that
text back, with every rule skipped. So it is with a second pass: it reports nothing applied and
nothing failed exactly if every rule is inert at the text that the first one has left.
-/
theorem RuleSet.unapplied_iff_inert (set : RuleSet) (content : String) :
    ((set.pass content).abortedBy = none
        ∧ (∀ r ∈ (set.pass content).reports, r.outcome.isApplied = false) ↔
      ∀ rule ∈ set.rules, rule.Inert content)
    ∧ ((∀ rule ∈ set.rules, rule.Inert content) ↔
      set.pass content =
        ⟨content, set.rules.map fun rule => ⟨rule.id, rule.inertOutcome content⟩, none⟩)
    ∧ ((∀ r ∈ (set.pass (set.pass content).content).reports,
          r.outcome.isApplied = false ∧ r.outcome.isFailed = false) ↔
      ∀ rule ∈ set.rules, rule.Inert (set.pass content).content) := by
  refine ⟨⟨fun h => Pass.inert_of_unapplied h.1 h.2, fun h => ?_⟩, ⟨Pass.over_of_inert, ?_⟩, ?_⟩
  · have hquiet := Pass.over_quiet_iff.mpr h
    exact ⟨hquiet.finished, hquiet.unapplied⟩
  · intro h
    refine Pass.over_quiet_iff.mp ?_
    rw [← pass, h]
    exact Pass.quiet_skipped set.rules content
  · exact (Pass.over_quiet_iff_reports ..).symm.trans Pass.over_quiet_iff

end Emend

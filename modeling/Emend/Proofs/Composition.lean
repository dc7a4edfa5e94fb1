import Emend.Proofs.Passes

/-!
# Passes one after another

A pass through some rules and then through others is a pass through all of them. `Pass.andThen`
says how two passes become one: the second one is made over the text that the first has left, and
its reports come behind those of the first, unless a rule has ended the first one. Then there is
no second.

* `andThen_assoc`: it does not matter in which order passes are put together.
* `over_cons`: a pass is that of its first rule, and then that of the others.
* `over_append`: so a pass can be cut between any two rules, and put together again.
* `pass_split`: the same of the passes of sets.
-/

namespace Emend

namespace Pass

variable {p : Pass} {next : String → Pass} {rule : Rule}

/-- A pass that goes on with another one where it has come to its end. -/
def andThen (p : Pass) (next : String → Pass) : Pass :=
  match p.abortedBy with
  | some _ => p
  | none => { next p.content with reports := p.reports ++ (next p.content).reports }

theorem andThen_of_ended {id : String} (h : p.abortedBy = some id) : p.andThen next = p := by
  rw [andThen, h]

theorem andThen_of_finished (h : p.abortedBy = none) :
    p.andThen next = { next p.content with reports := p.reports ++ (next p.content).reports } := by
  rw [andThen, h]

/-- Two passes come to their end together if each of them does. -/
theorem andThen_finished_iff : (p.andThen next).abortedBy = none ↔
    p.abortedBy = none ∧ (next p.content).abortedBy = none := by
  cases h : p.abortedBy with
  | none => rw [andThen_of_finished h, eq_self, true_and]
  | some id => simp [andThen_of_ended h, h]

theorem andThen_assoc (p : Pass) (next last : String → Pass) :
    (p.andThen next).andThen last = p.andThen fun content => (next content).andThen last := by
  cases h : p.abortedBy with
  | some id =>
      have hfirst : p.andThen next = p := andThen_of_ended h
      rw [hfirst, andThen_of_ended h, andThen_of_ended h]
  | none =>
      rw [andThen_of_finished h, andThen_of_finished h]
      cases hnext : (next p.content).abortedBy with
      | some id =>
          rw [andThen_of_ended hnext]
          exact andThen_of_ended hnext
      | none =>
          rw [andThen_of_finished hnext, andThen, hnext]
          simp only [List.append_assoc]

/-- A pass through no rules leaves everything to the next one. -/
theorem over_nil_andThen (content : String) : (Pass.over [] content).andThen next = next content :=
  rfl

/-- **A pass is that of its first rule, and then that of the others.** -/
theorem over_cons (rule : Rule) (rest : List Rule) (content : String) :
    Pass.over (rule :: rest) content = (Pass.over [rule] content).andThen (Pass.over rest) := by
  cases hf : (rule.apply content).2.isFailed with
  | true =>
      have hended : (Pass.over [rule] content).abortedBy = some rule.id := by
        rw [Pass.over]
        simp only [hf, if_true]
      rw [andThen_of_ended hended, Pass.over, Pass.over]
      simp only [hf, if_true]
  | false =>
      rw [over_cons_of_not_failed rest hf, over_cons_of_not_failed [] hf]
      rfl

/-- **A pass can be cut between any two rules**, whether it comes as far or not. -/
theorem over_append (first second : List Rule) (content : String) :
    Pass.over (first ++ second) content = (Pass.over first content).andThen (Pass.over second) := by
  induction first generalizing content with
  | nil => exact (over_nil_andThen content).symm
  | cons rule rest ih =>
      have hrest : Pass.over (rest ++ second) =
          fun content => (Pass.over rest content).andThen (Pass.over second) := funext ih
      rw [List.cons_append, over_cons, over_cons rule rest, andThen_assoc, hrest]

end Pass

namespace RuleSet

/--
**A set that is split into two is passed in two goes.** If a rule ends the pass of the first part,
that pass is the pass of the whole set. Otherwise the second part goes on with the text that the
first one has left: the whole pass has its text and its end, and its reports come behind those of
the first part.
-/
theorem pass_split (set first second : RuleSet) (content : String)
    (hrules : set.rules = first.rules ++ second.rules) :
    (∀ id, (first.pass content).abortedBy = some id → set.pass content = first.pass content)
      ∧ ((first.pass content).abortedBy = none →
        set.pass content =
          { content := (second.pass (first.pass content).content).content
            reports := (first.pass content).reports
              ++ (second.pass (first.pass content).content).reports
            abortedBy := (second.pass (first.pass content).content).abortedBy }) := by
  have hwhole : set.pass content = (first.pass content).andThen second.pass := by
    rw [pass, hrules]
    exact Pass.over_append first.rules second.rules content
  rw [hwhole]
  exact ⟨fun id h => Pass.andThen_of_ended h, Pass.andThen_of_finished⟩

/-- The beginning of a set whose last rule finds what its first one inserts. -/
def halfway : RuleSet where
  rules := [guardedBy "first" "a" "b", { guardedBy "second" "z" "y" with required := true }]

/-- The rest of it. -/
def remaining : RuleSet where
  rules := [guardedBy "third" "b" "c"]

theorem pass_split_halfway :
    (RuleSet.mk "" (halfway.rules ++ remaining.rules)).rules = halfway.rules ++ remaining.rules
      ∧ (RuleSet.mk "" (halfway.rules ++ remaining.rules)).pass "aa" =
        ⟨"ba", [⟨"first", .applied 1⟩, ⟨"second", .failed⟩], some "second"⟩
      ∧ (RuleSet.mk "" (halfway.rules ++ remaining.rules)).pass "az" =
        ⟨"cy", [⟨"first", .applied 1⟩, ⟨"second", .applied 1⟩, ⟨"third", .applied 1⟩], none⟩ := by
  refine ⟨rfl, ?_, ?_⟩
  · -- the pass ends within the first part
    have hended : halfway.pass "aa" =
        ⟨"ba", [⟨"first", .applied 1⟩, ⟨"second", .failed⟩], some "second"⟩ := by decide
    rw [(pass_split _ halfway remaining "aa" rfl).1 "second" (by rw [hended]), hended]
  · have hfirst : halfway.pass "az" =
        ⟨"by", [⟨"first", .applied 1⟩, ⟨"second", .applied 1⟩], none⟩ := by decide
    have hsecond : remaining.pass "by" = ⟨"cy", [⟨"third", .applied 1⟩], none⟩ := by decide
    rw [(pass_split _ halfway remaining "az" rfl).2 (by rw [hfirst]), hfirst, hsecond]
    rfl

end RuleSet

end Emend

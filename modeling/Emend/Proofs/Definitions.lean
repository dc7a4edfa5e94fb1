import Emend.FileTree.Fault
import Emend.Proofs.Building
import Emend.Proofs.Flaws

/-!
# Definitions and their rules

A definition says in words of its own what its rule is to do, and may say it wrongly. This module
relates the two: what is to be checked for a definition to make a rule, and what the rule is like
if there is one.

* `sound_of_issues`: a definition without issues makes a rule, and its id is new.
* `describes_of_toRule`: the rule of a definition says what the definition says, and it is one that
  can be built (`built_of_toRule`).
* `toRule_of_describes`: a well-formed rule that a definition describes is the one that it makes.
-/

namespace Emend

/-- Does a matcher, as it is written, look for a literal text? -/
def MatcherSpec.isLiteral : MatcherSpec → Bool
  | literal _ => true
  | regex _ _ => false

/-! ## What a definition has to fulfil -/

namespace Definition

variable {d : Definition} {seen : List String} {rule : Rule}

/-- A definition that can be planned behind those whose ids have been seen. -/
structure Sound (d : Definition) (seen : List String) : Prop where
  /-- It has an id. -/
  given : d.givenId = some d.id
  /-- No definition before it has that id. -/
  fresh : d.id ∉ seen
  /-- It is guarded if it is required. -/
  guarded : d.required = true → d.guard.isSome = true
  /-- It makes a rule. -/
  rule : ∃ rule, d.toRule = .ok rule

/-- **A definition without issues is sound.** -/
theorem sound_of_issues (h : d.issues seen = []) : d.Sound seen := by
  obtain ⟨hc, hrule⟩ := issues_eq_nil_iff.mp h
  exact ⟨givenId_eq_some_iff.mpr ⟨hc.id, rfl⟩, hc.fresh, hc.guarded, hrule⟩

/-! ## What its rule says -/

/-- Is the replacement a template? If nothing is said, that of a pattern is one. -/
def expands (d : Definition) : Bool := d.expand.getD (!d.find.isLiteral)

/-- A rule that says what a definition says. -/
structure Describes (d : Definition) (rule : Rule) : Prop where
  id : rule.id = d.id
  matcher : d.find.toMatcher d.id = .ok rule.matcher
  replacement : rule.replacement = if d.expands then .template d.replace else .literal d.replace
  scope : rule.scope = d.scope
  required : rule.required = d.required
  /-- It is guarded if and only if the definition is, and by that guard. -/
  guard : match d.guard with
    | none => rule.guard = none
    | some spec => ∃ guard, spec.toMatcher d.id = .ok guard ∧ rule.guard = some guard

theorem Describes.isSome_guard (h : d.Describes rule) : rule.guard.isSome = d.guard.isSome := by
  have hg := h.guard
  split at hg
  · rename_i hd
    rw [hg, hd]
    rfl
  · rename_i spec hd
    obtain ⟨guard, -, hr⟩ := hg
    rw [hr, hd]
    rfl

/-- The matcher of a literal is literal, and that of a pattern is not. -/
theorem isLiteral_of_toMatcher {spec : MatcherSpec} {id : String} {m : Matcher}
    (h : spec.toMatcher id = .ok m) : m.isLiteral = spec.isLiteral := by
  cases spec with
  | literal text =>
      cases h
      rfl
  | regex source flags =>
      simp only [MatcherSpec.toMatcher, Rule.compileFor, Matcher.ofSource] at h
      cases hp : Pattern.ofSource source flags with
      | error err => simp [hp, Except.map] at h
      | ok p =>
          simp only [hp, Except.map, mapError_ok] at h
          cases h
          rfl

theorem replacementFor_eq {m : Matcher} (h : d.find.toMatcher d.id = .ok m) :
    d.replacementFor m = if d.expands then .template d.replace else .literal d.replace := by
  rw [replacementFor, isLiteral_of_toMatcher h, expands]

theorem addGuard_eq_ok {base : Rule} (h : d.addGuard base = .ok rule) :
    ∃ guard, rule = { base with guard } ∧ match d.guard with
      | none => guard = base.guard
      | some spec => ∃ m, spec.toMatcher d.id = .ok m ∧ guard = some m := by
  unfold addGuard at h
  cases hg : d.guard with
  | none =>
      rw [hg] at h
      cases h
      exact ⟨_, rfl, rfl⟩
  | some spec =>
      rw [hg] at h
      obtain ⟨m, hm, h⟩ := bind_eq_ok_iff.mp h
      exact ⟨some m, Rule.withGuard_eq_ok h, m, hm, rfl⟩

/-- The steps in which a definition's rule is made. -/
theorem toRule_eq_ok_iff : d.toRule = .ok rule ↔ ∃ m made placed,
    d.find.toMatcher d.id = .ok m ∧ Rule.make d.id m (d.replacementFor m) = .ok made
      ∧ made.withScope d.scope = .ok placed
      ∧ d.addGuard (placed.withRequired d.required) = .ok rule := by
  simp only [toRule, bind_eq_ok_iff, exists_and_left]

/-- **The rule of a definition says what the definition says.** -/
theorem describes_of_toRule (h : d.toRule = .ok rule) : d.Describes rule := by
  obtain ⟨m, made, placed, hm, hmake, hscope, hadd⟩ := toRule_eq_ok_iff.mp h
  obtain ⟨guard, rfl, hguard⟩ := addGuard_eq_ok hadd
  obtain rfl := Rule.withScope_eq_ok hscope
  obtain rfl := Rule.make_eq_ok hmake
  exact ⟨rfl, hm, replacementFor_eq hm, rfl, rfl, hguard⟩

/-- The rule of a definition is one that can be built. -/
theorem built_of_toRule (h : d.toRule = .ok rule) : rule.Built := by
  obtain ⟨m, made, placed, -, hmake, hscope, hadd⟩ := toRule_eq_ok_iff.mp h
  have hbuilt : (placed.withRequired d.required).Built :=
    ((Rule.Built.make hmake).withScope hscope).withRequired d.required
  unfold addGuard at hadd
  split at hadd
  · obtain ⟨guard, -, hguard⟩ := bind_eq_ok_iff.mp hadd
    exact hbuilt.withGuard hguard
  · cases hadd
    exact hbuilt

theorem addGuard_of_describes (h : d.Describes rule) (hw : rule.WellFormed) :
    d.addGuard { rule with guard := none } = .ok rule := by
  obtain ⟨id, m, r, scope, guard, required⟩ := rule
  have hguard := h.guard
  unfold addGuard
  split at hguard
  · rename_i hg
    obtain rfl : guard = none := hguard
    rw [hg]
  · rename_i spec hg
    obtain ⟨m', hm', hguard⟩ := hguard
    obtain rfl : guard = some m' := hguard
    rw [hg]
    exact bind_eq_ok_iff.mpr ⟨m', hm', Rule.withGuard_of_wellFormed hw⟩

/-- **A definition makes the rule that it describes**, if that rule is well-formed. -/
theorem toRule_of_describes (h : d.Describes rule) (hw : rule.WellFormed) :
    d.toRule = .ok rule := by
  let made : Rule := { id := rule.id, matcher := rule.matcher, replacement := rule.replacement }
  have hmade : Rule.make d.id rule.matcher (d.replacementFor rule.matcher) = .ok made := by
    rw [replacementFor_eq h.matcher, ← h.replacement, ← h.id]
    exact Rule.make_of_wellFormed hw.made
  have hplaced : made.withScope d.scope = .ok { made with scope := rule.scope } := by
    rw [← h.scope]
    exact Rule.withScope_of_wellFormed hw.placed
  refine toRule_eq_ok_iff.mpr ⟨_, _, _, h.matcher, hmade, hplaced, ?_⟩
  rw [← h.required]
  exact addGuard_of_describes h hw

end Definition

end Emend

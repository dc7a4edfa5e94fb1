import Emend.Rule.Basic

/-!
# How rules are built

A rule is made of a matcher and a replacement, and then taken through steps that give it a guard
or a scope, or say that it is required. Each of them may refuse what it is given, and a rule that
no step has refused is a rule that can be built.

* `make_eq_ok`, `withScope_eq_ok`, `withGuard_eq_ok`: what a step leaves if it does not refuse.
* `WellFormed`: what all of them together see to. Each one leaves a well-formed rule, and does not
  refuse to if it can.
* `Built`: what making a rule and any number of steps, in any order, can leave.
* `Built.wellFormed`: such a rule is well-formed.
-/

namespace Emend

/-! ## Matchers that look for the same -/

namespace Matcher

/--
Matchers that look for the same expression: the same text, the same source with the same flags, or
a text and a source that is this text and has no flags.
-/
inductive Same : Matcher → Matcher → Prop
  | literal (text : String) : Same (.literal text) (.literal text)
  | pattern {p q : Pattern} (hs : p.source = q.source) (hf : p.flags = q.flags) :
      Same (.pattern p) (.pattern q)
  | literalPattern {text : String} {p : Pattern} (hs : p.source = text) (hf : p.flags = {}) :
      Same (.literal text) (.pattern p)
  | patternLiteral {text : String} {p : Pattern} (hs : p.source = text) (hf : p.flags = {}) :
      Same (.pattern p) (.literal text)

theorem sameExpression_iff {a b : Matcher} : a.sameExpression b = true ↔ a.Same b := by
  constructor
  · intro h
    match a, b, h with
    | .literal text, .literal text', h =>
        obtain rfl : text = text' := by simpa [sameExpression] using h
        exact .literal text
    | .pattern p, .pattern q, h =>
        obtain rfl : p = q := by simpa [sameExpression] using h
        exact .pattern rfl rfl
    | .literal text, .pattern p, h =>
        obtain ⟨hf, hs⟩ : p.flags = {} ∧ p.source = text := by simpa [sameExpression] using h
        exact .literalPattern hs hf
    | .pattern p, .literal text, h =>
        obtain ⟨hf, hs⟩ : p.flags = {} ∧ p.source = text := by simpa [sameExpression] using h
        exact .patternLiteral hs hf
  · intro h
    cases h with
    | literal text => simp [sameExpression]
    | pattern hs hf => simp [sameExpression, Pattern.ext_source hs hf]
    | literalPattern hs hf => simp [sameExpression, hs, hf]
    | patternLiteral hs hf => simp [sameExpression, hs, hf]

theorem isEmptyLiteral_iff {m : Matcher} : m.isEmptyLiteral = true ↔ m = .literal "" := by
  cases m <;> simp [isEmptyLiteral]

end Matcher

namespace Rule

variable {rule built : Rule}

/-! ## Steps that do not refuse -/

theorem make_eq_ok {id : String} {m : Matcher} {r : Replacement}
    (h : make id m r = .ok built) : built = { id, matcher := m, replacement := r } := by
  unfold make at h
  split at h
  · cases h
  · split at h
    · cases h
    · exact (Except.ok.inj h).symm

theorem withScope_eq_ok {scope : Scope} (h : rule.withScope scope = .ok built) :
    built = { rule with scope } := by
  unfold withScope at h
  split at h
  · cases h
  · exact (Except.ok.inj h).symm

theorem withGuard_eq_ok {guard : Matcher} (h : rule.withGuard guard = .ok built) :
    built = { rule with guard := some guard } := by
  unfold withGuard at h
  split at h
  · cases h
  · split at h
    · cases h
    · exact (Except.ok.inj h).symm

/-! ## Well-formed rules -/

/-- A rule whose parts go together. -/
structure WellFormed (rule : Rule) : Prop where
  /-- It looks for something. -/
  matcher : rule.matcher ≠ .literal ""
  /-- If it is guarded, then by something else than what it looks for. -/
  guard : ∀ guard, rule.guard = some guard → guard ≠ .literal "" ∧ ¬ guard.Same rule.matcher
  /-- If it looks for a text, then it puts in one text for the first one. -/
  literal : ∀ text, rule.matcher = .literal text →
    (∃ r, rule.replacement = .literal r) ∧ rule.scope = .first

theorem wellFormed_of_make {id : String} {m : Matcher} {r : Replacement}
    (h : make id m r = .ok built) : built.WellFormed := by
  obtain rfl := make_eq_ok h
  unfold make at h
  split at h
  · cases h
  · rename_i hempty
    split at h
    · cases h
    · rename_i htemplate
      refine ⟨fun hm => hempty (Matcher.isEmptyLiteral_iff.mpr hm), nofun,
        fun text hm => ⟨?_, rfl⟩⟩
      obtain rfl : m = .literal text := hm
      cases r with
      | literal r => exact ⟨r, rfl⟩
      | template r => exact absurd rfl htemplate

theorem make_of_wellFormed {id : String} {m : Matcher} {r : Replacement}
    (h : WellFormed { id, matcher := m, replacement := r }) :
    make id m r = .ok { id, matcher := m, replacement := r } := by
  have hempty : ¬ m.isEmptyLiteral = true := fun hm => h.matcher (Matcher.isEmptyLiteral_iff.mp hm)
  have htemplate : ¬ (m.isLiteral && r.isTemplate) = true := by
    cases m with
    | pattern p => exact Bool.false_ne_true
    | literal text =>
        obtain ⟨⟨r', hr⟩, -⟩ := h.literal text rfl
        obtain rfl : r = .literal r' := hr
        exact Bool.false_ne_true
  rw [make, if_neg hempty, if_neg htemplate]

theorem wellFormed_of_withGuard {guard : Matcher} (hr : rule.WellFormed)
    (h : rule.withGuard guard = .ok built) : built.WellFormed := by
  obtain rfl := withGuard_eq_ok h
  unfold withGuard at h
  split at h
  · cases h
  · rename_i hempty
    split at h
    · cases h
    · rename_i hsame
      refine ⟨hr.matcher, fun g hg => ?_, hr.literal⟩
      obtain rfl : guard = g := Option.some.inj hg
      exact ⟨fun hm => hempty (Matcher.isEmptyLiteral_iff.mpr hm),
        fun hs => hsame (Matcher.sameExpression_iff.mpr hs)⟩

theorem withGuard_of_wellFormed {guard : Matcher}
    (h : WellFormed { rule with guard := some guard }) :
    rule.withGuard guard = .ok { rule with guard := some guard } := by
  obtain ⟨hempty, hsame⟩ := h.guard guard rfl
  rw [withGuard, if_neg fun hm => hempty (Matcher.isEmptyLiteral_iff.mp hm),
    if_neg fun hs => hsame (Matcher.sameExpression_iff.mp hs)]

theorem wellFormed_of_withScope {scope : Scope} (hr : rule.WellFormed)
    (h : rule.withScope scope = .ok built) : built.WellFormed := by
  obtain rfl := withScope_eq_ok h
  refine ⟨hr.matcher, hr.guard, fun text hm => ⟨(hr.literal text hm).1, ?_⟩⟩
  cases scope with
  | first => rfl
  | all =>
      have hliteral : rule.matcher.isLiteral = true := by
        rw [show rule.matcher = .literal text from hm]
        rfl
      simp [withScope, hliteral] at h

theorem withScope_of_wellFormed {scope : Scope} (h : WellFormed { rule with scope }) :
    rule.withScope scope = .ok { rule with scope } := by
  refine if_neg ?_
  rintro ⟨rfl, hliteral⟩
  cases hm : rule.matcher with
  | pattern p =>
      rw [hm] at hliteral
      cases hliteral
  | literal text => cases (h.literal text hm).2

theorem wellFormed_withRequired_iff {required : Bool} :
    (rule.withRequired required).WellFormed ↔ rule.WellFormed :=
  ⟨fun h => ⟨h.matcher, h.guard, h.literal⟩, fun h => ⟨h.matcher, h.guard, h.literal⟩⟩

/-- What a well-formed rule has been made of is well-formed. -/
theorem WellFormed.made (h : rule.WellFormed) :
    WellFormed { id := rule.id, matcher := rule.matcher, replacement := rule.replacement } :=
  ⟨h.matcher, nofun, fun text hm => ⟨(h.literal text hm).1, rfl⟩⟩

theorem WellFormed.placed (h : rule.WellFormed) :
    WellFormed {
      id := rule.id, matcher := rule.matcher, replacement := rule.replacement
      scope := rule.scope } :=
  ⟨h.matcher, nofun, h.literal⟩

/-! ## Rules that can be built -/

/-- What making a rule and any steps after that can leave. -/
inductive Built : Rule → Prop
  | make {id : String} {m : Matcher} {r : Replacement} {rule : Rule}
      (h : Rule.make id m r = .ok rule) : Built rule
  | withGuard {guard : Matcher} {rule built : Rule} (hr : Built rule)
      (h : rule.withGuard guard = .ok built) : Built built
  | withScope {scope : Scope} {rule built : Rule} (hr : Built rule)
      (h : rule.withScope scope = .ok built) : Built built
  | withRequired {rule : Rule} (hr : Built rule) (required : Bool) :
      Built (rule.withRequired required)

/-- **Every rule that can be built is well-formed**, whatever steps it has been taken through. -/
theorem Built.wellFormed (h : Built rule) : rule.WellFormed := by
  induction h with
  | make h => exact wellFormed_of_make h
  | withGuard _ h ih => exact wellFormed_of_withGuard ih h
  | withScope _ h ih => exact wellFormed_of_withScope ih h
  | withRequired _ required ih => exact wellFormed_withRequired_iff.mpr ih

/-- No rule that can be built looks for the empty text. -/
theorem Built.nonempty (h : Built rule) : rule.matcher.isEmptyLiteral = false :=
  Bool.eq_false_iff.mpr fun hm => h.wellFormed.matcher (Matcher.isEmptyLiteral_iff.mp hm)

end Rule

end Emend

import Emend.Proofs.Definitions
import Emend.Proofs.Passes
import Mathlib.Data.List.Forall2

/-!
# Escaped texts

A text can be written as a template: if every dollar sign in it is doubled, the template stands
for the text, whatever was matched. So a rule for a pattern can have a literal replacement or such
a template, and a definition can say that its replacement is not to be expanded or escape it; it
makes no difference to any text.

* `pieces_escaped`: an escaped text names no groups.
* `insertion_escaped`: so it inserts what the text itself does.
* `Rule.alike_of_insertion`: two replacements that insert the same make no difference to a rule.
* `Pass.over_alike`: and so none to a pass.
* `toRule_withReplacement`: what a definition for a pattern inserts is a part of its rule, and
  nothing for which it is refused.
* `escaped_alike`: so neither the rules nor their definitions can be told apart.
-/

namespace Emend

namespace Template

/-! ## Escaping -/

/-- A character of a text as a template has it. -/
def escapedChar (c : Char) : List Char := if c = '$' then ['$', '$'] else [c]

/-- The template that stands for a text: every dollar sign is doubled. -/
def escaped (text : String) : String := String.ofList (text.toList.flatMap escapedChar)

/-- An escaped character is read as the character, and the reader goes on behind it. -/
theorem piecesFrom_escapedChar (c : Char) (rest : List Char) :
    piecesFrom .text (escapedChar c ++ rest) = .char c :: piecesFrom .text rest := by
  by_cases hc : c = '$'
  · subst hc
    simp [escapedChar, piecesFrom]
  · simp [escapedChar, piecesFrom, hc]

/-- **An escaped text names no groups**: it is read as the characters of the text. -/
theorem pieces_escaped (text : String) : pieces (escaped text) = text.toList.map .char := by
  rw [pieces, escaped, String.toList_ofList]
  induction text.toList with
  | nil => rfl
  | cons c cs ih => rw [List.flatMap_cons, piecesFrom_escapedChar, ih, List.map_cons]

example : pieces (escaped "$1$$n$") = "$1$$n$".toList.map .char := by decide

/-- **An escaped text stands for the text**, whatever was matched. -/
theorem expand_escaped (index? : String → Option Nat) (m : Match) (text : String) :
    expand index? m (escaped text) = text.toList := by
  rw [expand, pieces_escaped, List.flatMap_map]
  exact List.flatMap_singleton' text.toList

end Template

open Template (escaped)

namespace Replacement

/-- A text as the replacement of a pattern: a template, unless it is said that it is none. -/
def ofText (expand : Option Bool) (text : String) : Replacement :=
  if expand.getD true then .template text else .literal text

theorem ofText_of_expanded {expand : Option Bool} (h : expand ≠ some false) (text : String) :
    ofText expand text = .template text := by
  cases expand with
  | none => rfl
  | some e =>
      cases e with
      | false => exact absurd rfl h
      | true => rfl

theorem insertion_escaped (p : Pattern) (m : Match) (text : String) :
    (template (escaped text)).insertion p m = (literal text).insertion p m :=
  Template.expand_escaped p.groupIndex? m text

end Replacement

namespace Rule

variable {rule : Rule} {p : Pattern}

/-! ## Rules -/

/-- Rules that can be told apart only by how their replacements are written. -/
structure Alike (a b : Rule) : Prop where
  written : b = { a with replacement := b.replacement }
  apply : ∀ content, b.apply content = a.apply content

/-- **Only what a replacement inserts counts**, if the rule looks for a pattern. -/
theorem alike_of_insertion (hm : rule.matcher = .pattern p) {r : Replacement}
    (h : ∀ m, r.insertion p m = rule.replacement.insertion p m) :
    rule.Alike { rule with replacement := r } where
  written := rfl
  apply := by
    intro content
    have hedit : { rule with replacement := r }.edit? content = rule.edit? content := by
      cases hs : rule.scope <;> simp only [edit?, hm, hs, h]
    rw [apply, apply, hedit]
    rfl

theorem Alike.id_eq {a b : Rule} (h : a.Alike b) : b.id = a.id := by rw [h.written]

/-- A rule refuses a guard, or not, whatever it inserts. -/
theorem withGuard_withReplacement (rule : Rule) (r : Replacement) (guard : Matcher) :
    { rule with replacement := r }.withGuard guard =
      (rule.withGuard guard).map fun rule => { rule with replacement := r } := by
  unfold withGuard
  by_cases hempty : guard.isEmptyLiteral = true
  · simp only [if_pos hempty, Except.map]
  · by_cases hsame : guard.sameExpression rule.matcher = true
    · simp only [if_neg hempty, if_pos hsame, Except.map]
    · simp only [if_neg hempty, if_neg hsame, Except.map]

end Rule

/-- **A pass does not tell rules apart that are alike.** -/
theorem Pass.over_alike {rules rules' : List Rule} (h : List.Forall₂ Rule.Alike rules rules')
    (content : String) : Pass.over rules' content = Pass.over rules content := by
  induction h generalizing content with
  | nil => rfl
  | cons ha _ ih =>
      rw [Pass.over, Pass.over, ha.apply, ha.id_eq]
      simp only [ih]

namespace Definition

variable {d : Definition} {source : String} {flags : PatternFlags}

/-! ## Definitions -/

/-- Definitions that are refused for the same reason, or make rules that are alike. -/
def Alike (d e : Definition) : Prop :=
  match d.toRule, e.toRule with
  | .ok a, .ok b => a.Alike b
  | .error err, .error err' => err = err'
  | _, _ => False

theorem addGuard_withReplacement (d : Definition) (rule : Rule) (r : Replacement) :
    d.addGuard { rule with replacement := r } =
      (d.addGuard rule).map fun rule => { rule with replacement := r } := by
  unfold addGuard
  cases hg : d.guard with
  | none => rfl
  | some spec =>
      cases hm : spec.toMatcher d.id with
      | error err => simp only [hm, bind, Except.bind, Except.map]
      | ok guard =>
          simp only [hm, bind, Except.bind]
          exact Rule.withGuard_withReplacement rule r guard

/-- The rule that a definition for a pattern makes: only its matcher and guard can be refused. -/
theorem toRule_of_regex (h : d.find = .regex source flags) :
    d.toRule = d.find.toMatcher d.id >>= fun matcher =>
      d.addGuard ⟨d.id, matcher, .ofText d.expand d.replace, d.scope, none, d.required⟩ := by
  unfold toRule
  cases hm : d.find.toMatcher d.id with
  | error err => rfl
  | ok matcher =>
      have hpattern : matcher.isLiteral = false := by
        rw [isLiteral_of_toMatcher hm, h]
        rfl
      have hempty : matcher.isEmptyLiteral = false := by
        cases matcher with
        | literal text => cases hpattern
        | pattern p => rfl
      have hreplacement : d.replacementFor matcher = .ofText d.expand d.replace := by
        rw [replacementFor, hpattern]
        rfl
      simp [bind, Except.bind, Rule.make, Rule.withScope, Rule.withRequired, hempty, hpattern,
        hreplacement]

/-- **What a definition for a pattern inserts is never a reason to refuse it**, and changes
nothing else about its rule. -/
theorem toRule_withReplacement (h : d.find = .regex source flags) (text : String)
    (expand : Option Bool) :
    { d with replace := text, expand }.toRule = d.toRule.map fun rule =>
      { rule with replacement := .ofText expand text } := by
  have h' : { d with replace := text, expand }.find = .regex source flags := h
  rw [toRule_of_regex h, toRule_of_regex h']
  cases d.find.toMatcher d.id with
  | error err => rfl
  | ok matcher =>
      let rule : Rule := ⟨d.id, matcher, .ofText d.expand d.replace, d.scope, none, d.required⟩
      exact addGuard_withReplacement d rule (.ofText expand text)

/-- The rule of a definition for a pattern looks for a pattern. -/
theorem exists_pattern (h : d.find = .regex source flags) {rule : Rule}
    (hr : d.toRule = .ok rule) : ∃ p, rule.matcher = .pattern p := by
  have hliteral : rule.matcher.isLiteral = false := by
    rw [isLiteral_of_toMatcher (describes_of_toRule hr).matcher, h]
    rfl
  cases hm : rule.matcher with
  | literal text =>
      rw [hm] at hliteral
      cases hliteral
  | pattern p => exact ⟨p, rfl⟩

/-- Definitions for a pattern are alike if they insert the same for every match. -/
theorem alike_of_ofText (h : d.find = .regex source flags) {text text' : String}
    {expand expand' : Option Bool} (hi : ∀ p m,
      (Replacement.ofText expand' text').insertion p m =
        (Replacement.ofText expand text).insertion p m) :
    Alike { d with replace := text, expand } { d with replace := text', expand := expand' } := by
  unfold Alike
  rw [toRule_withReplacement h text expand, toRule_withReplacement h text' expand']
  cases hr : d.toRule with
  | error err => rfl
  | ok rule =>
      obtain ⟨p, hm⟩ := exists_pattern h hr
      let plain : Rule := { rule with replacement := .ofText expand text }
      have hplain : plain.matcher = .pattern p := hm
      exact Rule.alike_of_insertion hplain (hi p)

/--
**A literal replacement and an escaped template cannot be told apart.** Rules for a pattern that
have the one or the other do the same with every text, and so do the rules of two definitions for
a pattern of which one says that its replacement is not to be expanded, and the other one, which
does not say so, escapes it. If one of them is refused, the other one is, for the same reason.
-/
theorem escaped_alike (text : String) :
    (∀ (id : String) (p : Pattern) (scope : Scope) (guard : Option Matcher) (required : Bool),
        Rule.Alike ⟨id, .pattern p, .literal text, scope, guard, required⟩
          ⟨id, .pattern p, .template (escaped text), scope, guard, required⟩)
      ∧ ∀ (d : Definition) (source : String) (flags : PatternFlags) (expand : Option Bool),
        expand ≠ some false →
        Alike { d with find := .regex source flags, replace := text, expand := some false }
          { d with find := .regex source flags, replace := escaped text, expand } := by
  have hescaped : ∀ p m, (Replacement.template (escaped text)).insertion p m =
      (Replacement.literal text).insertion p m :=
    fun p m => Replacement.insertion_escaped p m text
  constructor
  · intro id p scope guard required
    let plain : Rule := ⟨id, .pattern p, .literal text, scope, guard, required⟩
    have hm : plain.matcher = .pattern p := rfl
    exact Rule.alike_of_insertion hm (hescaped p)
  · intro d source flags expand hexpand
    let pattern : Definition := { d with find := .regex source flags }
    have hfind : pattern.find = .regex source flags := rfl
    refine alike_of_ofText hfind fun p m => ?_
    rw [Replacement.ofText_of_expanded hexpand]
    exact hescaped p m

/-- A definition whose text would name a group if it were expanded. -/
def priced : Definition where
  id := "price"
  file := "a.txt"
  find := .regex "([0-9]) EUR" {}
  replace := "$1"
  scope := .all
  expand := some false

theorem escaped_alike_priced :
    ∃ plain templated, priced.toRule = .ok plain
      ∧ { priced with replace := "$$1", expand := none }.toRule = .ok templated
      ∧ plain.apply "1 EUR, 2 EUR" = ("$1, $1", .applied 2)
      ∧ templated.apply "1 EUR, 2 EUR" = ("$1, $1", .applied 2) := by
  have halike : Alike priced { priced with replace := escaped "$1", expand := none } :=
    (escaped_alike "$1").2 priced "([0-9]) EUR" {} none (by decide)
  have heval : priced.toRule.map (fun rule => rule.apply "1 EUR, 2 EUR")
      = .ok ("$1, $1", .applied 2) := by decide +kernel
  rw [show escaped "$1" = "$$1" by decide, Alike] at halike
  cases hp : priced.toRule with
  | error err => simp [hp, Except.map] at heval
  | ok plain =>
      simp only [hp, Except.map, Except.ok.injEq] at heval
      rw [hp] at halike
      cases ht : { priced with replace := "$$1", expand := none }.toRule with
      | error err => simp [ht] at halike
      | ok templated =>
          simp only [ht] at halike
          exact ⟨plain, templated, rfl, rfl, heval, by rw [halike.apply, heval]⟩

end Definition

end Emend

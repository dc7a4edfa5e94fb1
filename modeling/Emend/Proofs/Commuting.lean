import Emend.Proofs.Building
import Emend.Proofs.Composition
import Emend.Proofs.Seams
import Mathlib.Data.List.Nodup

/-!
# Rules that commute

Two neighbours in a set can change places if they have no character in common: neither touches
what the other one looks for, inserts or is guarded by. Both the text that one replaces and the
text that it inserts are seams for the words of the other, and since neither is empty, no word
of the other one comes up or goes away where they change places.

* `replaceFirst_comm`: two words without a common character can be replaced in either order.
* `isMatch_apply`: what has no character in common with a rule is found as before.
* `outcome_apply`, `content_apply`: so two such rules have the same outcomes in either order, and
  leave the same text.
* `swap_pass`: hence a pass through a set does not depend on the order of such neighbours.
-/

namespace Emend

namespace Text

variable {needle old new old' new' text : List Char}

/-! ## Replacing the first occurrence -/

/-- A text with the first occurrence of a word replaced, if there is one. -/
def replaceFirst (old new text : List Char) : List Char :=
  match cut? old text with
  | some (before, after) => before ++ new ++ after
  | none => text

theorem replaceFirst_of_some {before after : List Char} (h : cut? old text = some (before, after)) :
    replaceFirst old new text = before ++ new ++ after := by
  rw [replaceFirst, h]

theorem replaceFirst_of_none (h : cut? old text = none) : replaceFirst old new text = text := by
  rw [replaceFirst, h]

/-- A word that takes no notice of a replacement: one seam takes the place of another. -/
structure Ignores (needle old new : List Char) : Prop where
  old : IsSeam needle old
  new : IsSeam needle new

/-- **A word that takes no notice of a replacement occurs as before.** -/
theorem occurs_replaceFirst (h : Ignores needle old new) (text : List Char) :
    occurs needle (replaceFirst old new text) = occurs needle text := by
  cases hc : cut? old text with
  | none => rw [replaceFirst_of_none hc]
  | some parts =>
      obtain ⟨before, after⟩ := parts
      rw [replaceFirst_of_some hc, cut?_eq_some hc]
      exact occurs_seam h.new h.old before after

theorem replaceFirst_of_ignored (h : Ignores needle old new) (hc : cut? needle text = none)
    (inserted : List Char) :
    replaceFirst needle inserted (replaceFirst old new text) = replaceFirst old new text := by
  refine replaceFirst_of_none ?_
  have hoccurs := occurs_replaceFirst h text
  rw [occurs, occurs, hc] at hoccurs
  simpa using hoccurs

/-- If one word is found in front of the other, both are replaced where they stand. -/
theorem replaceFirst_before {before after : List Char} (hold : old ≠ [])
    (h : Ignores old old' new') (hc : cut? old text = some (before, after))
    (hb : (cut? old' before).isSome = true) :
    replaceFirst old' new' (replaceFirst old new text) =
      replaceFirst old new (replaceFirst old' new' text) := by
  obtain ⟨⟨front, middle⟩, hc'⟩ := Option.isSome_iff_exists.mp hb
  have hbefore : before = front ++ old' ++ middle := cut?_eq_some hc'
  have htext : text = front ++ old' ++ (middle ++ old ++ after) := by
    rw [cut?_eq_some hc, hbefore]
    simp
  have habsent : cut? old front = none := by
    have hnone := cut?_eq_none_iff.mp (cut?_before hold hc)
    rw [cut?_eq_none_iff]
    intro hin
    exact hnone (hin.trans ⟨[], old' ++ middle, by simp [hbefore]⟩)
  -- the search for `old` passes the front with either of the two seams behind it
  have hrest : cut? old (middle ++ old ++ after) = some (middle, after) := by
    rw [htext, (passed_of_absent habsent h.old).cut?_eq_some_iff, hbefore] at hc
    obtain ⟨middle', hrest, he⟩ := hc
    rw [hrest, List.append_cancel_left he]
  have hlast : cut? old (front ++ new' ++ (middle ++ old ++ after))
      = some (front ++ new' ++ middle, after) :=
    (passed_of_absent habsent h.new).cut?_eq_some_iff.mpr ⟨middle, hrest, rfl⟩
  -- and the search for `old'` ends in front of what stands behind it
  have hone := cut?_append_of_some hc' (new ++ after)
  rw [← List.append_assoc] at hone
  have hother := cut?_append_of_some hc' (old ++ after)
  rw [← List.append_assoc, ← cut?_eq_some hc] at hother
  have hswapped : replaceFirst old' new' text = front ++ new' ++ (middle ++ old ++ after) := by
    rw [replaceFirst_of_some hother]
    simp
  rw [replaceFirst_of_some hc, replaceFirst_of_some hone, hswapped, replaceFirst_of_some hlast]
  simp

/-- **Two words can be replaced in either order if each ignores what happens to the other.** -/
theorem replaceFirst_comm (h : Ignores old old' new') (h' : Ignores old' old new)
    (text : List Char) :
    replaceFirst old' new' (replaceFirst old new text) =
      replaceFirst old new (replaceFirst old' new' text) := by
  cases hc : cut? old text with
  | none => rw [replaceFirst_of_none hc, replaceFirst_of_ignored h hc]
  | some parts =>
      obtain ⟨before, after⟩ := parts
      cases hc' : cut? old' text with
      | none => rw [replaceFirst_of_none hc', replaceFirst_of_ignored h' hc']
      | some parts' =>
          obtain ⟨before', after'⟩ := parts'
          -- one of the two stands in front of the other
          cases hf : cut? old' before with
          | some sides => exact replaceFirst_before h'.old.nonempty h hc (by simp [hf])
          | none =>
              have hlater := hc'
              rw [cut?_eq_some hc, (passed_of_absent hf h'.old).cut?_eq_some_iff] at hlater
              obtain ⟨middle, -, hbefore'⟩ := hlater
              have hin : occurs old before' = true := by
                rw [occurs_iff, hbefore']
                exact ⟨before, middle, rfl⟩
              exact (replaceFirst_before h.old.nonempty h' hc' hin).symm

end Text

open Text (IsSeam Ignores replaceFirst replaceFirst_comm occurs_replaceFirst cut?)

/-! ## Rules without a common character -/

namespace Matcher

/-- What a matcher looks for, as it was written. -/
def written : Matcher → String
  | literal text => text
  | pattern p => p.source

theorem isMatch_of_isLiteral {m : Matcher} (h : m.isLiteral = true) (content : String) :
    m.isMatch content = Text.occurs m.written.toList content.toList := by
  cases m with
  | literal text => rfl
  | pattern p => cases h

theorem written_ne_nil {m : Matcher} (h : m.isLiteral = true) (hne : m.isEmptyLiteral = false) :
    m.written.toList ≠ [] := by
  cases m with
  | pattern p => cases h
  | literal text =>
      intro hnil
      replace hnil : text.toList = [] := hnil
      rw [isEmptyLiteral, String.toList_eq_nil_iff.mp hnil] at hne
      cases hne

end Matcher

namespace Rule

variable {rule a b : Rule} {m : Matcher} {content : String}

/-- A rule that can be built, and that puts a text which is not empty in the place of a literal
one. If it has a guard, the guard is literal. -/
structure Rewrites (rule : Rule) : Prop where
  built : rule.Built
  matcher : rule.matcher.isLiteral = true
  inserted : rule.replacement.text ≠ ""
  guard : ∀ guard ∈ rule.guard, guard.isLiteral = true

/-- The characters of what a rule looks for, of what it inserts and of its guard. -/
def letters (rule : Rule) : List Char :=
  rule.matcher.written.toList ++ rule.replacement.text.toList
    ++ (rule.guard.elim [] fun guard => guard.written.toList)

theorem letters_matcher {c : Char} (h : c ∈ rule.matcher.written.toList) : c ∈ rule.letters := by
  simp [letters, h]

theorem letters_inserted {c : Char} (h : c ∈ rule.replacement.text.toList) : c ∈ rule.letters := by
  simp [letters, h]

theorem letters_guard {guard : Matcher} (hg : guard ∈ rule.guard) {c : Char}
    (h : c ∈ guard.written.toList) : c ∈ rule.letters := by
  rw [Option.mem_def] at hg
  simp [letters, hg, h]

/-- A word without a character of a rule takes no notice of what the rule does. -/
theorem Rewrites.ignores (h : rule.Rewrites) {needle : List Char}
    (hd : ∀ c ∈ rule.letters, c ∉ needle) :
    Ignores needle rule.matcher.written.toList rule.replacement.text.toList where
  old := ⟨fun c hc => hd c (letters_matcher hc), Matcher.written_ne_nil h.matcher h.built.nonempty⟩
  new := ⟨fun c hc => hd c (letters_inserted hc),
    fun hnil => h.inserted (String.toList_eq_nil_iff.mp hnil)⟩

/-! ### One rule -/

/-- The edit of a rule that looks for a literal text. -/
theorem edit?_of_isLiteral (h : rule.matcher.isLiteral = true) (content : String) :
    rule.edit? content =
      (cut? rule.matcher.written.toList content.toList).map fun (before, after) =>
        (String.ofList (before ++ rule.replacement.text.toList ++ after), 1) := by
  cases hm : rule.matcher with
  | literal text =>
      simp only [edit?, hm]
      rfl
  | pattern p =>
      rw [hm] at h
      cases h

/-- What a rewriting rule does is decided by its guard and its matcher. -/
theorem Rewrites.apply_eq (h : rule.Rewrites) (content : String) :
    rule.apply content =
      if rule.guardSatisfied content then (content, .alreadyApplied)
      else (String.ofList (replaceFirst rule.matcher.written.toList
          rule.replacement.text.toList content.toList),
        if rule.matcher.isMatch content then .applied 1 else rule.absentOutcome) := by
  by_cases hg : rule.guardSatisfied content = true
  · rw [apply_of_guard hg, if_pos hg]
  · have hedit := edit?_of_isLiteral h.matcher content
    have hmatch := Matcher.isMatch_of_isLiteral h.matcher content
    rw [apply, if_neg hg, if_neg hg, hedit, hmatch, Text.occurs]
    cases hc : cut? rule.matcher.written.toList content.toList with
    | none => simp [Text.replaceFirst_of_none hc]
    | some parts => simp [Text.replaceFirst_of_some hc]

theorem Rewrites.content_eq (h : rule.Rewrites) (content : String) :
    (rule.apply content).1 =
      if rule.guardSatisfied content then content
      else String.ofList (replaceFirst rule.matcher.written.toList
        rule.replacement.text.toList content.toList) := by
  rw [h.apply_eq]
  split <;> rfl

theorem Rewrites.outcome_eq (h : rule.Rewrites) (content : String) :
    (rule.apply content).2 =
      if rule.guardSatisfied content then .alreadyApplied
      else if rule.matcher.isMatch content then .applied 1
      else rule.absentOutcome := by
  rw [h.apply_eq]
  split <;> rfl

/-- **What has no character in common with a rule is found as before.** -/
theorem isMatch_apply (h : rule.Rewrites) (hm : m.isLiteral = true)
    (hd : ∀ c ∈ rule.letters, c ∉ m.written.toList) (content : String) :
    m.isMatch (rule.apply content).1 = m.isMatch content := by
  rw [h.content_eq]
  split
  · rfl
  · rw [Matcher.isMatch_of_isLiteral hm, Matcher.isMatch_of_isLiteral hm, String.toList_ofList]
    exact occurs_replaceFirst (h.ignores hd) content.toList

/-! ### Two rules -/

section

variable (ha : a.Rewrites) (hb : b.Rewrites) (hd : a.letters.Disjoint b.letters)
include ha hb hd

theorem guardSatisfied_apply (content : String) :
    b.guardSatisfied (a.apply content).1 = b.guardSatisfied content := by
  unfold guardSatisfied
  cases hg : b.guard with
  | none => rfl
  | some guard =>
      have hforeign : ∀ c ∈ a.letters, c ∉ guard.written.toList :=
        fun c hc hin => hd hc (letters_guard hg hin)
      exact isMatch_apply ha (hb.guard guard hg) hforeign content

/-- **A rule has the same outcome behind another one as in front of it.** -/
theorem outcome_apply (content : String) :
    (b.apply (a.apply content).1).2 = (b.apply content).2 := by
  have hforeign : ∀ c ∈ a.letters, c ∉ b.matcher.written.toList :=
    fun c hc hin => hd hc (letters_matcher hin)
  rw [hb.outcome_eq, hb.outcome_eq, guardSatisfied_apply ha hb hd,
    isMatch_apply ha hb.matcher hforeign]

/-- **Two rules leave the same text in either order.** -/
theorem content_apply (content : String) :
    (b.apply (a.apply content).1).1 = (a.apply (b.apply content).1).1 := by
  have hga := guardSatisfied_apply hb ha (List.disjoint_symm hd) content
  have hgb := guardSatisfied_apply ha hb hd content
  rw [hb.content_eq (a.apply content).1, ha.content_eq (b.apply content).1, hga, hgb,
    ha.content_eq content, hb.content_eq content]
  by_cases ha' : a.guardSatisfied content = true
  · rw [if_pos ha', if_pos ha']
  · by_cases hb' : b.guardSatisfied content = true
    · rw [if_pos hb', if_pos hb']
    · -- both guards leave the rules to it
      rw [if_neg ha', if_neg hb', if_neg ha', if_neg hb', String.toList_ofList,
        String.toList_ofList]
      have hword : ∀ c ∈ b.letters, c ∉ a.matcher.written.toList :=
        fun c hc hin => hd (letters_matcher hin) hc
      have hword' : ∀ c ∈ a.letters, c ∉ b.matcher.written.toList :=
        fun c hc hin => hd hc (letters_matcher hin)
      rw [replaceFirst_comm (hb.ignores hword) (ha.ignores hword')]

end

end Rule

namespace Pass

variable {a b : Rule} {content : String}

/-! ## Passes -/

/-- What a pass reports of the rule with an id. -/
def outcome? (p : Pass) (id : String) : Option Outcome :=
  (p.reports.find? (·.rule = id)).map (·.outcome)

/-- A pass through two rules that no rule ends. -/
theorem over_pair (h : (Pass.over [a, b] content).abortedBy = none) :
    Pass.over [a, b] content =
      ⟨(b.apply (a.apply content).1).1,
        [⟨a.id, (a.apply content).2⟩, ⟨b.id, (b.apply (a.apply content).1).2⟩], none⟩
      ∧ (a.apply content).2.isFailed = false
      ∧ (b.apply (a.apply content).1).2.isFailed = false := by
  obtain ⟨ha, hrest⟩ := over_cons_finished h
  obtain ⟨hb, -⟩ := over_cons_finished hrest
  refine ⟨?_, ha, hb⟩
  rw [over_cons_of_not_failed [b] ha, over_cons_of_not_failed [] hb]
  rfl

/-- **Two rules without a common character can change places**, and so do their reports. -/
theorem over_swap (ha : a.Rewrites) (hb : b.Rewrites) (hd : a.letters.Disjoint b.letters)
    (h : (Pass.over [a, b] content).abortedBy = none) :
    Pass.over [b, a] content =
      ⟨(Pass.over [a, b] content).content, (Pass.over [a, b] content).reports.reverse, none⟩ := by
  obtain ⟨hpair, hfa, hfb⟩ := over_pair h
  have houtcome := Rule.outcome_apply ha hb hd content
  have houtcome' := Rule.outcome_apply hb ha (List.disjoint_symm hd) content
  rw [houtcome] at hfb
  have hfa' : (a.apply (b.apply content).1).2.isFailed = false := by rw [houtcome', hfa]
  rw [hpair, over_cons_of_not_failed [a] hfb, over_cons_of_not_failed [] hfa', houtcome, houtcome',
    Rule.content_apply ha hb hd]
  rfl

/-- A pass through two rules between others. -/
theorem over_around (front rest : List Rule) (a b : Rule) (content : String) :
    Pass.over (front ++ a :: b :: rest) content =
      (Pass.over front content).andThen fun content =>
        (Pass.over [a, b] content).andThen (Pass.over rest) := by
  have htail : Pass.over (a :: b :: rest) =
      fun content => (Pass.over [a, b] content).andThen (Pass.over rest) :=
    funext fun content => over_append [a, b] rest content
  rw [over_append, htail]

/-- Two reports in a row can change places without a reader noticing, if their rules differ. -/
theorem find?_swap {i j : String} (h : i ≠ j) (x y : Outcome) (id : String)
    (front back : List Report) :
    List.find? (·.rule = id) (front ++ ([Report.mk j y, Report.mk i x] ++ back)) =
      List.find? (·.rule = id) (front ++ ([Report.mk i x, Report.mk j y] ++ back)) := by
  have hpair : List.find? (·.rule = id) [Report.mk j y, Report.mk i x] =
      List.find? (·.rule = id) [Report.mk i x, Report.mk j y] := by
    by_cases hi : i = id
    · have hj : j ≠ id := fun hj => h (hi.trans hj.symm)
      simp [hi, hj]
    · by_cases hj : j = id
      · simp [hi, hj]
      · simp [hi, hj]
  rw [List.find?_append, List.find?_append, List.find?_append, List.find?_append, hpair]

end Pass

namespace RuleSet

/--
**The order of two neighbours without a common character does not matter.** If no rule ends the
pass of a set, then none ends the pass of the set in which the two have changed places. Both
leave the same text, and what is reported of a rule is the same in both.
-/
theorem swap_pass (set swapped : RuleSet) (front rest : List Rule) (a b : Rule)
    (hset : set.rules = front ++ a :: b :: rest)
    (hswapped : swapped.rules = front ++ b :: a :: rest) (hids : set.ids.Nodup)
    (ha : a.Rewrites) (hb : b.Rewrites) (hd : a.letters.Disjoint b.letters) (content : String)
    (hf : (set.pass content).abortedBy = none) :
    (swapped.pass content).abortedBy = none
      ∧ (swapped.pass content).content = (set.pass content).content
      ∧ (swapped.pass content).reports.Perm (set.pass content).reports
      ∧ ∀ id, (swapped.pass content).outcome? id = (set.pass content).outcome? id := by
  rw [pass, hset, Pass.over_around] at hf
  obtain ⟨hfront, hrest⟩ := Pass.andThen_finished_iff.mp hf
  obtain ⟨hpair, hback⟩ := Pass.andThen_finished_iff.mp hrest
  have hswap := Pass.over_swap ha hb hd hpair
  have hpair' : (Pass.over [b, a] (Pass.over front content).content).abortedBy = none := by
    rw [hswap]
  rw [pass, pass, hset, hswapped, Pass.over_around, Pass.over_around,
    Pass.andThen_of_finished hfront, Pass.andThen_of_finished hfront,
    Pass.andThen_of_finished hpair, Pass.andThen_of_finished hpair', hswap]
  refine ⟨hback, rfl, ?_, fun id => ?_⟩
  · exact ((List.reverse_perm _).append_right _).append_left _
  · have hne : a.id ≠ b.id := by
      rw [ids, hset, List.map_append, List.map_cons, List.map_cons] at hids
      have hnot := (List.nodup_cons.mp hids.of_append_right).1
      exact fun he => hnot (he ▸ List.mem_cons_self ..)
    -- what is reported of the other rules stands around the reports of these two
    have hreports := (Pass.over_pair hpair).1
    simp only [Pass.outcome?, hreports, List.reverse_cons, List.reverse_nil, List.nil_append,
      List.cons_append]
    exact congrArg (Option.map (·.outcome)) (Pass.find?_swap hne _ _ id _ _)

/-- A rule that takes two letters apart by what it is guarded by. -/
def parting : Rule := { guardedBy "parting" "aa" "ava" with guard := some (.literal "va") }

/-- A required rule that shares no letter with it. -/
def joining : Rule := { guardedBy "joining" "bcb" "bb" with guard := none, required := true }

theorem rewrites_parting : parting.Rewrites where
  built := by
    have hmade : Rule.make "parting" (.literal "aa") (.literal "ava") =
        .ok ⟨"parting", .literal "aa", .literal "ava", .first, none, false⟩ := rfl
    have hguarded : Rule.withGuard ⟨"parting", .literal "aa", .literal "ava", .first, none, false⟩
        (.literal "va") = .ok parting := rfl
    exact .withGuard (.make hmade) hguarded
  matcher := rfl
  inserted := by decide
  guard := by simp [parting, Matcher.isLiteral]

theorem rewrites_joining : joining.Rewrites where
  built := by
    have hmade : Rule.make "joining" (.literal "bcb") (.literal "bb") =
        .ok ⟨"joining", .literal "bcb", .literal "bb", .first, none, false⟩ := rfl
    exact .withRequired (.make hmade) true
  matcher := rfl
  inserted := by decide
  guard := by simp [joining]

/-- A set with these two between others that see what both of them leave. -/
def between : RuleSet where
  rules := [guardedBy "head" "x" "aaabcb", parting, joining, guardedBy "last" "vaabb" "z"]

/-- The same with the two in the other order. -/
def betweenSwapped : RuleSet where
  rules := [guardedBy "head" "x" "aaabcb", joining, parting, guardedBy "last" "vaabb" "z"]

theorem swap_pass_between :
    parting.Rewrites ∧ joining.Rewrites ∧ parting.letters.Disjoint joining.letters
      ∧ between.ids.Nodup
      ∧ between.pass "x" = ⟨"az", [⟨"head", .applied 1⟩, ⟨"parting", .applied 1⟩,
          ⟨"joining", .applied 1⟩, ⟨"last", .applied 1⟩], none⟩
      ∧ (betweenSwapped.pass "x").abortedBy = none
      ∧ (betweenSwapped.pass "x").content = "az"
      ∧ (betweenSwapped.pass "x").outcome? "joining" = some (.applied 1) := by
  have hd : parting.letters.Disjoint joining.letters := by
    simp [parting, joining, guardedBy, Rule.letters, Matcher.written, Replacement.text]
  have hids : between.ids.Nodup := by decide
  have hpass : between.pass "x" = ⟨"az", [⟨"head", .applied 1⟩, ⟨"parting", .applied 1⟩,
      ⟨"joining", .applied 1⟩, ⟨"last", .applied 1⟩], none⟩ := by decide +kernel
  obtain ⟨hfinished, hcontent, -, hreport⟩ :=
    swap_pass between betweenSwapped [guardedBy "head" "x" "aaabcb"]
      [guardedBy "last" "vaabb" "z"] parting joining rfl rfl hids rewrites_parting
      rewrites_joining hd "x" (by rw [hpass])
  rw [hpass] at hcontent hreport
  exact ⟨rewrites_parting, rewrites_joining, hd, hids, hpass, hfinished, hcontent,
    hreport "joining"⟩

end RuleSet

end Emend

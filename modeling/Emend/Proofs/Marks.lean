import Emend.Proofs.Passes
import Emend.Proofs.Seams
import Emend.Proofs.Searching
import Mathlib.Data.List.Forall2
import Mathlib.Data.Set.Operations

/-!
# Rules that leave marks

Some characters are set aside for marks. A rule *marks* a text if it looks for words
without such characters, inserts a text of nothing else, and is guarded by a part of
what it inserts. No matter how many such rules a set has, and whatever marks a text
already contains, a second pass finds its work done.

Two things are carried from edit to edit (`Marked`):

* what consists of mark characters is still there: the stretch that was replaced has
  none, so it cannot have been part of one;
* what has no mark character was there before: an inserted mark stands between what
  comes before and after it, so no such word arises across it.

The first keeps every guard satisfied, the second keeps absent matchers absent.
-/

namespace Emend

variable {A : Set Char}

namespace Text

/-! ## Marking a text -/

/-- A text of mark characters only. -/
def Within (A : Set Char) (text : List Char) : Prop := ∀ c ∈ text, c ∈ A

/-- A text without mark characters. -/
def FreeOf (A : Set Char) (text : List Char) : Prop := ∀ c ∈ text, c ∉ A

/-- Marks may have been added, but none has been removed, and nothing else has come up. -/
structure Marked (A : Set Char) (before after : List Char) : Prop where
  /-- What consists of mark characters is still there. -/
  kept : ∀ w, Within A w → w <:+: before → w <:+: after
  /-- What has no mark character was there before. -/
  known : ∀ w, FreeOf A w → w <:+: after → w <:+: before

theorem Marked.refl (text : List Char) : Marked A text text :=
  ⟨fun _ _ h => h, fun _ _ h => h⟩

theorem Marked.trans {before between after : List Char} (h : Marked A before between)
    (h' : Marked A between after) : Marked A before after :=
  ⟨fun w hw hb => h'.kept w hw (h.kept w hw hb), fun w hw ha => h.known w hw (h'.known w hw ha)⟩

/-- **A mark takes the place of a stretch without mark characters.** -/
theorem Marked.replace {gap old new rest rest' : List Char} (h : Marked A rest rest')
    (ho : FreeOf A old) (hg : gap = [] ∨ old ≠ []) (hn : Within A new) (hne : new ≠ []) :
    Marked A (gap ++ old ++ rest) (gap ++ new ++ rest') := by
  constructor
  · intro w hw hin
    rcases infix_of_append_append (fun c hc hcw => ho c hc (hw c hcw)) hg hin with hin | hin
    · exact hin.trans ⟨[], new ++ rest', by simp⟩
    · exact (h.kept w hw hin).trans (List.suffix_append _ _).isInfix
  · intro w hw hin
    rcases infix_of_append_append (fun c hc hcw => hw c hcw (hn c hc)) (.inr hne) hin with hin | hin
    · exact hin.trans ⟨[], old ++ rest, by simp⟩
    · exact (h.known w hw hin).trans (List.suffix_append _ _).isInfix

/-- A mark in the place of the first occurrence of a text. -/
theorem marked_cut {needle text before after new : List Char}
    (hcut : cut? needle text = some (before, after)) (hn : FreeOf A needle) (hnew : Within A new)
    (hne : new ≠ []) : Marked A text (before ++ new ++ after) := by
  have hgap : before = [] ∨ needle ≠ [] := by
    by_cases hempty : needle = []
    · rw [hempty, cut?_nil] at hcut
      cases hcut
      exact .inl rfl
    · exact .inr hempty
  rw [cut?_eq_some hcut]
  exact (Marked.refl after).replace hn hgap hnew hne

theorem InOrder.initial {hi lo : Nat} {spans more : List (Nat × Nat)}
    (h : InOrder hi lo more) (hp : spans <+: more) : InOrder hi lo spans := by
  induction spans generalizing lo more with
  | nil => trivial
  | cons span rest ih =>
      obtain ⟨behind, rfl⟩ := hp
      exact ⟨h.1, h.2.1, h.2.2.1, ih h.2.2.2 ⟨behind, rfl⟩⟩

/-- What is left of a text falls into a gap, a stretch and what comes behind that. -/
theorem drop_eq_append_slice {text : List Char} {place start stop : Nat} (hp : place ≤ start)
    (hs : start ≤ stop) :
    text.drop place =
      (text.take start).drop place ++ Match.slice text start stop ++ text.drop stop := by
  have hgap : (text.take start).drop place ++ text.drop start = text.drop place := by
    have hstart : text.drop start = (text.drop place).drop (start - place) := by
      rw [List.drop_drop, Nat.add_sub_cancel' hp]
    rw [List.drop_take, hstart, List.take_append_drop]
  have hslice : Match.slice text start stop ++ text.drop stop = text.drop start := by
    have hstop : text.drop stop = (text.drop start).drop (stop - start) := by
      rw [List.drop_drop, Nat.add_sub_cancel' hs]
    rw [Match.slice, hstop, List.take_append_drop]
  rw [List.append_assoc, hslice, hgap]

/-- Marks in the place of several stretches. -/
theorem marked_weaveFrom {text : List Char} (place : Nat)
    {places : List ((Nat × Nat) × List Char)}
    (ho : InOrder text.length place (places.map Prod.fst))
    (hold : ∀ q ∈ places, Match.slice text q.1.1 q.1.2 ≠ []
      ∧ FreeOf A (Match.slice text q.1.1 q.1.2))
    (hnew : ∀ q ∈ places, q.2 ≠ [] ∧ Within A q.2) :
    Marked A (text.drop place) (weaveFrom text place places) := by
  induction places generalizing place with
  | nil => exact .refl _
  | cons first rest ih =>
      obtain ⟨⟨start, stop⟩, new⟩ := first
      obtain ⟨hp, hs, -, hrest⟩ := ho
      obtain ⟨hne, hfree⟩ := hold _ (List.mem_cons_self ..)
      obtain ⟨hnew', hwithin⟩ := hnew _ (List.mem_cons_self ..)
      rw [weaveFrom, drop_eq_append_slice hp hs]
      exact (ih stop hrest (fun q hq => hold q (List.mem_cons_of_mem _ hq))
        fun q hq => hnew q (List.mem_cons_of_mem _ hq)).replace hfree (.inr hne) hwithin hnew'

end Text

open Text (Within FreeOf Marked)

/-! ## Rules that mark -/

/-- A matcher that finds nothing but words without mark characters. -/
inductive Matcher.Avoids (A : Set Char) : Matcher → Prop
  | literal {text : String} (ht : FreeOf A text.toList) : Avoids A (.literal text)
  | pattern {p : Pattern} {words : Set (List Char)} (hp : p.LooksFor words)
      (hw : ∀ w ∈ words, w ≠ [] ∧ FreeOf A w) : Avoids A (.pattern p)

/-- Marks in the place of the first ones of all matches. -/
theorem Pattern.LooksFor.marked_weave {p : Pattern} {words : Set (List Char)}
    (hp : p.LooksFor words) (hw : ∀ w ∈ words, w ≠ [] ∧ FreeOf A w) {content : String}
    {found : List Match} (hf : found <+: p.findAll content) {new : List Char}
    (hnew : Within A new) (hne : new ≠ []) :
    Marked A content.toList
      (Text.weave content.toList (found.map fun m => ((m.start, m.stop), new))) := by
  refine Text.marked_weaveFrom 0 ?_ ?_ ?_
  · rw [List.map_map]
    exact (p.findAll_inOrder content).initial (hf.map _)
  · intro q hq
    obtain ⟨m, hm, rfl⟩ := List.mem_map.mp hq
    exact hw _ (hp.found content m (hf.subset hm))
  · intro q hq
    obtain ⟨m, hm, rfl⟩ := List.mem_map.mp hq
    exact ⟨hne, hnew⟩

/-- A matcher that avoids the marks does not begin to match when a text is marked. -/
theorem Matcher.Avoids.absent {matcher : Matcher} (h : matcher.Avoids A) {before after : String}
    (hm : Marked A before.toList after.toList) (ha : matcher.isMatch before = false) :
    matcher.isMatch after = false := by
  rw [← Bool.not_eq_true] at ha ⊢
  intro hafter
  apply ha
  cases h with
  | literal ht =>
      simp only [isMatch, Text.occurs_iff] at hafter ⊢
      exact hm.known _ ht hafter
  | pattern hp hw =>
      obtain ⟨w, hword, hin⟩ := (hp.isMatch_iff after).mp hafter
      exact (hp.isMatch_iff before).mpr ⟨w, hword, hm.known w (hw w hword).2 hin⟩

namespace Rule

/-- A rule that looks for words without mark characters, inserts marks and is guarded by
a part of what it inserts. -/
structure Marks (A : Set Char) (rule : Rule) (guard inserted : String) : Prop where
  guarded : rule.guard = some (.literal guard)
  inserts : rule.replacement = .literal inserted
  contained : guard.toList <:+: inserted.toList
  within : Within A inserted.toList
  avoids : rule.matcher.Avoids A

variable {rule : Rule} {guard inserted : String} {content : String}

/-- The guard of a rule stays satisfied when the text is marked. -/
theorem Marks.guard_kept (h : rule.Marks A guard inserted) {before after : String}
    (hm : Marked A before.toList after.toList) (hg : rule.guardSatisfied before = true) :
    rule.guardSatisfied after = true := by
  rw [guardSatisfied_iff h.guarded] at hg ⊢
  exact hm.kept _ (fun c hc => h.within c (h.contained.subset hc)) hg

/-- The targets of an edit are the first ones of all matches. -/
theorem targets_initial (p : Pattern) (scope : Scope) (content : String) :
    targets p scope content <+: p.findAll content := by
  cases scope with
  | all => exact List.prefix_rfl
  | first =>
      rw [targets_first]
      exact List.take_prefix 1 _

/-- A rule that has something to do inserts something. -/
theorem Marks.inserted_ne_nil (h : rule.Marks A guard inserted)
    (hg : rule.guardSatisfied content = false) : inserted.toList ≠ [] := by
  -- the guard would be empty as well, and is then satisfied everywhere
  intro hnil
  have hempty : guard.toList = [] := List.infix_nil.mp (hnil ▸ h.contained)
  have hsat : rule.guardSatisfied content = true :=
    (guardSatisfied_iff h.guarded).mpr (hempty ▸ List.nil_infix)
  rw [hg] at hsat
  cases hsat

/-- **An edit of a marking rule marks the text.** -/
theorem Marks.edit_marked (h : rule.Marks A guard inserted)
    (hg : rule.guardSatisfied content = false) {new : String} {n : Nat}
    (he : rule.edit? content = some (new, n)) : Marked A content.toList new.toList := by
  have hne := h.inserted_ne_nil hg
  have havoids := h.avoids
  cases hm : rule.matcher with
  | literal text =>
      rw [hm] at havoids
      simp only [edit?, hm, h.inserts, Option.map_eq_some_iff] at he
      obtain ⟨⟨before, after⟩, hcut, hnew⟩ := he
      rw [← (Prod.mk.inj hnew).1, String.toList_ofList]
      cases havoids with
      | literal ht => exact Text.marked_cut hcut ht h.within hne
  | pattern p =>
      rw [hm] at havoids
      rw [edit?_of_pattern hm, h.inserts] at he
      have htargets := targets_initial p rule.scope content
      split at he
      · cases he
      · rename_i m ms hms
        rw [← (Prod.mk.inj (Option.some.inj he)).1, String.toList_ofList]
        rw [hms] at htargets
        cases havoids with
        | pattern hp hw => exact hp.marked_weave hw htargets h.within hne

theorem Marks.apply_marked (h : rule.Marks A guard inserted) (content : String) :
    Marked A content.toList (rule.apply content).1.toList := by
  rcases apply_cases rule content with hg | ⟨hg, new, n, he⟩ | ⟨hg, hm⟩
  · rw [apply_of_guard hg]
    exact .refl _
  · rw [apply_of_edit hg he]
    exact h.edit_marked hg he
  · rw [apply_of_absent hg hm]
    exact .refl _

/-- What a first pass leaves behind of a rule: the rule is at rest, and by its guard unless
it has found nothing. -/
structure Settled (rule : Rule) (outcome : Outcome) (content : String) : Prop where
  inert : rule.Inert content
  guard : outcome ≠ .absent → rule.guardSatisfied content = true

/-- **A marking rule is settled after its own step**, unless it fails. -/
theorem Marks.apply_settled (h : rule.Marks A guard inserted)
    (hf : (rule.apply content).2.isFailed = false) :
    rule.Settled (rule.apply content).2 (rule.apply content).1 := by
  have hself := selfGuarding_of_infix h.guarded h.inserts h.contained
  refine ⟨hself.inert hf, ?_⟩
  intro ho
  rcases apply_cases rule content with hg | ⟨hg, new, n, he⟩ | ⟨hg, hm⟩
  · rw [apply_of_guard hg]
    exact hg
  · have ha := apply_of_edit hg he
    rw [ha]
    exact hself.satisfied content new n ha
  · rw [apply_of_absent hg hm, absentOutcome] at hf ho
    split at hf
    · cases hf
    · rename_i hr
      exact absurd (if_neg hr) ho

/-- **A settled rule stays settled** when the text is marked by others. -/
theorem Settled.marked {outcome : Outcome} (hs : rule.Settled outcome content)
    (h : rule.Marks A guard inserted) {after : String} (hm : Marked A content.toList after.toList) :
    rule.Settled outcome after := by
  refine ⟨?_, fun ho => h.guard_kept hm (hs.guard ho)⟩
  rcases hs.inert with hg | ⟨habsent, hr⟩
  · exact .inl (h.guard_kept hm hg)
  · exact .inr ⟨h.avoids.absent hm habsent, hr⟩

end Rule

namespace Pass

/-- A set of marking rules. -/
def AllMark (A : Set Char) (rules : List Rule) : Prop :=
  ∀ rule ∈ rules, ∃ guard inserted, rule.Marks A guard inserted

/-- A pass of marking rules marks the text, whether it is finished or not. -/
theorem over_marked {rules : List Rule} (h : AllMark A rules) (content : String) :
    Marked A content.toList (Pass.over rules content).content.toList := by
  induction rules generalizing content with
  | nil => exact .refl _
  | cons rule rest ih =>
      obtain ⟨guard, inserted, hrule⟩ := h rule (List.mem_cons_self ..)
      have hstep := hrule.apply_marked content
      cases hf : (rule.apply content).2.isFailed with
      | true =>
          rw [Pass.over]
          simpa [hf] using hstep
      | false =>
          rw [over_cons_of_not_failed _ hf]
          exact hstep.trans (ih (fun r hr => h r (List.mem_cons_of_mem _ hr)) _)

/-- **A finished pass of marking rules leaves each of them settled.** -/
theorem over_settled {rules : List Rule} (h : AllMark A rules) {content : String}
    (hf : (Pass.over rules content).abortedBy = none) :
    List.Forall₂ (fun rule report => report.rule = rule.id
        ∧ rule.Settled report.outcome (Pass.over rules content).content)
      rules (Pass.over rules content).reports := by
  induction rules generalizing content with
  | nil => exact .nil
  | cons rule rest ih =>
      obtain ⟨guard, inserted, hrule⟩ := h rule (List.mem_cons_self ..)
      have hmore : AllMark A rest := fun r hr => h r (List.mem_cons_of_mem _ hr)
      obtain ⟨hfirst, hrest⟩ := over_cons_finished hf
      rw [over_cons_of_not_failed _ hfirst]
      -- the rule is settled by its own step, and the rules behind it only add marks
      have hsettled := (hrule.apply_settled hfirst).marked hrule (over_marked hmore _)
      exact .cons ⟨rfl, hsettled⟩ (ih hmore hrest)

theorem inert_of_settled {rules : List Rule} {reports : List Report} {content : String}
    (h : List.Forall₂ (fun rule report => report.rule = rule.id
      ∧ rule.Settled report.outcome content) rules reports) :
    ∀ rule ∈ rules, rule.Inert content := by
  induction h with
  | nil => exact fun rule hr => absurd hr List.not_mem_nil
  | cons hfirst _ ih =>
      intro rule hr
      rcases List.mem_cons.mp hr with rfl | hr
      · exact hfirst.2.inert
      · exact ih rule hr

end Pass

/-- What becomes of a rule when a pass is repeated: the rule is skipped, and by its guard
if the first pass has found its work to do or done. -/
structure Report.Repeated (was is : Report) : Prop where
  rule : is.rule = was.rule
  skipped : is.outcome.isSkipped = true
  guarded : was.outcome.isApplied = true ∨ was.outcome = .alreadyApplied →
    is.outcome = .alreadyApplied

theorem Rule.Settled.repeated {rule : Rule} {was : Report} {content : String}
    (hid : was.rule = rule.id) (h : rule.Settled was.outcome content) :
    was.Repeated ⟨rule.id, rule.inertOutcome content⟩ := by
  refine ⟨hid.symm, ?_, ?_⟩
  · have hskipped := Rule.inert_iff.mp h.inert
    rw [h.inert.apply] at hskipped
    exact hskipped
  · intro hdone
    have hg : rule.guardSatisfied content = true := by
      apply h.guard
      intro habsent
      rw [habsent] at hdone
      rcases hdone with hdone | hdone <;> cases hdone
    exact if_pos hg

namespace RuleSet

/-! ## The second pass -/

/--
**A second pass of marking rules finds everything done.** Each rule that was applied or
had been applied before is skipped by its guard, every other one is skipped too, and
the text stays as it is.
-/
theorem marked_pass_again (set : RuleSet) (content : String) (hm : Pass.AllMark A set.rules)
    (hf : (set.pass content).abortedBy = none) :
    (set.pass (set.pass content).content).abortedBy = none
      ∧ (set.pass (set.pass content).content).content = (set.pass content).content
      ∧ (set.pass content).reports.map (·.rule) = set.ids
      ∧ List.Forall₂ Report.Repeated (set.pass content).reports
          (set.pass (set.pass content).content).reports := by
  have hsettled := Pass.over_settled hm hf
  have hagain : set.pass (set.pass content).content = _ :=
    Pass.over_of_inert (Pass.inert_of_settled hsettled)
  rw [hagain]
  refine ⟨rfl, rfl, ?_, ?_⟩
  · rw [ids, ← List.forall₂_eq_eq_eq, List.forall₂_map_left_iff, List.forall₂_map_right_iff]
    exact .flip (hsettled.imp fun rule report h => h.1)
  · rw [List.forall₂_map_right_iff]
    exact .flip (hsettled.imp fun rule report h => h.2.repeated h.1)

/-- The pattern `b`. -/
def letterB : Pattern where
  source := "b"
  flags := {}
  compiled := { program := .ofSet ⟨[(98, 98)]⟩, names := [] }
  built := by decide +kernel

/-- A rule for the first `a` and a rule for every `b`. -/
def tagging : RuleSet where
  rules := [guardedBy "first" "a" "<1>",
    { id := "second", matcher := .pattern letterB, replacement := .literal "<2>", scope := .all,
      guard := some (.literal "<2>") }]

/-- The characters of the two tags. -/
def tagChars : Set Char := {c | c ∈ ['<', '1', '2', '>']}

theorem letterB_avoids_tagChars : Matcher.Avoids tagChars (.pattern letterB) := by
  refine .pattern (Pattern.looksFor_ofSet rfl) ?_
  rintro w ⟨c, hc, rfl⟩
  refine ⟨List.cons_ne_nil c [], ?_⟩
  intro d hd htag
  rw [List.mem_singleton.mp hd] at htag
  have hnone : ∀ c ∈ ['<', '1', '2', '>'],
      (⟨[(98, 98)]⟩ : Unicode.CharSet).contains c = false := by
    simp [Unicode.CharSet.contains, Unicode.CharSet.containsPoint, Unicode.CharSet.memRanges]
  rw [hnone c htag] at hc
  cases hc

theorem tagging_marks : Pass.AllMark tagChars tagging.rules := by
  intro rule hr
  simp only [tagging, List.mem_cons, List.not_mem_nil, or_false] at hr
  rcases hr with rfl | rfl
  · have htag : Within tagChars "<1>".toList := by simp [Within, tagChars]
    have hfind : FreeOf tagChars "a".toList := by simp [FreeOf, tagChars]
    exact ⟨"<1>", "<1>", rfl, rfl, List.infix_rfl, htag, .literal hfind⟩
  · have htag : Within tagChars "<2>".toList := by simp [Within, tagChars]
    exact ⟨"<2>", "<2>", rfl, rfl, List.infix_rfl, htag, letterB_avoids_tagChars⟩

theorem marked_pass_again_tagging :
    Pass.AllMark tagChars tagging.rules ∧ (tagging.pass "ab<2b").abortedBy = none
      ∧ (tagging.pass "ab<2b").content = "<1><2><2<2>"
      ∧ (tagging.pass "<1><2><2<2>").content = "<1><2><2<2>" := by
  have hf : (tagging.pass "ab<2b").abortedBy = none := by decide +kernel
  have hc : (tagging.pass "ab<2b").content = "<1><2><2<2>" := by decide +kernel
  have hagain := (marked_pass_again tagging "ab<2b" tagging_marks hf).2.1
  rw [hc] at hagain
  exact ⟨tagging_marks, hf, hc, hagain⟩

end RuleSet

end Emend

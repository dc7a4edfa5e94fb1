import Emend.Proofs.Building
import Emend.Proofs.Literals
import Emend.Proofs.Seams
import Mathlib.Data.List.Nodup

/-!
# Passes that use a literal text up

A rule without guard that replaces a literal text replaces one occurrence in each pass, the first
one. If it inserts a text that has no character of the other, then what it inserts is a seam: the
next pass goes on behind it, and finds what a single walk through the text would have found next.

* `Scan` is such a walk: the gaps that are left between the occurrences of a word, if each of them
  is the first one behind the one before it.
* `exists_scan`: every text can be walked through.
* `Drains` says of a number of passes that each of them replaces one occurrence, and that those
  after them find nothing.
* `drains_of_scan`: the passes follow the walk, with a text in front that the search passes.
* `passes_drain`: so as many passes as there are occurrences replace them all.
-/

namespace Emend

namespace Text

variable {needle text : String} {gaps : List String}

/-! ## Walking through a text -/

/-- The gaps that the occurrences of a word leave in a text, one in front of each and one behind
the last. They are looked for from left to right, each of them behind the one before it. -/
inductive Scan (needle : String) : (text : String) → (gaps : List String) → Prop
  | last {text : String} (h : ¬ needle.toList <:+: text.toList) : Scan needle text [text]
  | next {text before after : String} {gaps : List String}
      (h : FirstCut needle text before after) (hs : Scan needle after gaps) :
      Scan needle text (before :: gaps)

theorem Scan.ne_nil (h : Scan needle text gaps) : gaps ≠ [] := by
  cases h <;> exact List.cons_ne_nil _ _

/-- The gaps make up the text, with the word between them. -/
theorem Scan.eq_intercalate (h : Scan needle text gaps) : text = needle.intercalate gaps := by
  induction h with
  | last h => exact String.intercalate_singleton.symm
  | next h hs ih => rw [String.intercalate_cons_of_ne_nil hs.ne_nil, ← ih, h.parts]

/-- **Every text can be walked through**, unless the word is empty. -/
theorem exists_scan (hne : needle ≠ "") (text : String) : ∃ gaps, Scan needle text gaps := by
  induction hl : text.length using Nat.strongRecOn generalizing text with
  | ind l ih =>
      rcases cut?_cases needle text with ⟨hnone, -⟩ | ⟨before, after, -, h⟩
      · exact ⟨[text], .last (cut?_eq_none_iff.mp hnone)⟩
      · -- what is behind the first occurrence is shorter, since the word is not empty
        have hpos : needle.length ≠ 0 := fun h0 => hne (String.length_eq_zero_iff.mp h0)
        have hlt : after.length < l := by
          rw [← hl, h.parts, String.length_append, String.length_append]
          omega
        obtain ⟨gaps, hs⟩ := ih after.length hlt after rfl
        exact ⟨before :: gaps, .next h hs⟩

end Text

open Text (Scan IsSeam Passed FirstCut cut? cut?_before cut?_eq_none_iff passed_of_absent)

/-! ## One pass -/

namespace Rule

variable {rule : Rule} {find new content before after : String}

/-- A rule that can be built, and that puts one literal text in the place of another. It has no
guard and is not required. -/
structure Plain (rule : Rule) (find new : String) : Prop where
  built : rule.Built
  matcher : rule.matcher = .literal find
  inserted : rule.replacement.text = new
  unguarded : rule.guard = none
  optional : rule.required = false

theorem Plain.find_ne_empty (h : rule.Plain find new) : find ≠ "" := by
  have hne := h.built.nonempty
  rw [h.matcher] at hne
  rintro rfl
  cases hne

theorem Plain.guardSatisfied (h : rule.Plain find new) (content : String) :
    rule.guardSatisfied content = false := by
  rw [Rule.guardSatisfied, h.unguarded]
  rfl

/-- The rule replaces the first occurrence. -/
theorem Plain.apply_of_cut (h : rule.Plain find new)
    (hc : cut? find.toList content.toList = some (before.toList, after.toList)) :
    rule.apply content = (before ++ new ++ after, .applied 1) := by
  rw [apply_of_edit (h.guardSatisfied content) (edit?_of_cut h.matcher hc), h.inserted]

/-- If there is none, it leaves the text as it is. -/
theorem Plain.apply_of_absent (h : rule.Plain find new)
    (hc : cut? find.toList content.toList = none) : rule.apply content = (content, .absent) := by
  have hm : rule.matcher.isMatch content = false := by
    rw [h.matcher, Matcher.isMatch, Text.occurs, hc]
    rfl
  rw [Rule.apply_of_absent (h.guardSatisfied content) hm, absentOutcome, h.optional]
  rfl

end Rule

/-! ## Many passes -/

namespace RuleSet

variable {set : RuleSet} {rule : Rule} {find new : String}

/-- The text after some passes, each of which is made over what the one before it has left. -/
def afterPasses (set : RuleSet) : Nat → String → String
  | 0, text => text
  | k + 1, text => set.afterPasses k (set.pass text).content

/-- A number of passes after which a rule, the only one of its set, has nothing left to do. -/
structure Drains (set : RuleSet) (rule : Rule) (text : String) (n : Nat) (drained : String) :
    Prop where
  /-- Each of them replaces one occurrence. -/
  applied : ∀ k < n, set.pass (set.afterPasses k text) =
    ⟨set.afterPasses (k + 1) text, [⟨rule.id, .applied 1⟩], none⟩
  content : set.afterPasses n text = drained
  /-- Those after them find nothing. -/
  absent : ∀ k ≥ n, set.pass (set.afterPasses k text) = ⟨drained, [⟨rule.id, .absent⟩], none⟩

theorem pass_of_single (hset : set.rules = [rule]) {content new : String} {outcome : Outcome}
    (h : rule.apply content = (new, outcome)) (hf : outcome.isFailed = false) :
    set.pass content = ⟨new, [⟨rule.id, outcome⟩], none⟩ := by
  have hf' : (rule.apply content).2.isFailed = false := by rw [h, hf]
  rw [pass, hset, Pass.over_cons_of_not_failed [] hf', h]
  rfl

/-- A text in which nothing is found stays as it is, pass after pass. -/
theorem Drains.zero {text : String} (h : set.pass text = ⟨text, [⟨rule.id, .absent⟩], none⟩) :
    set.Drains rule text 0 text := by
  have hstill : ∀ k, set.afterPasses k text = text := by
    intro k
    induction k with
    | zero => rfl
    | succ k ih => rw [afterPasses, h, ih]
  refine ⟨fun k hk => absurd hk (Nat.not_lt_zero k), rfl, ?_⟩
  intro k _
  rw [hstill, h]

/-- A pass that replaces one occurrence comes before those that replace the others. -/
theorem Drains.succ {text next drained : String} {n : Nat}
    (h : set.pass text = ⟨next, [⟨rule.id, .applied 1⟩], none⟩)
    (hd : set.Drains rule next n drained) : set.Drains rule text (n + 1) drained := by
  have hnext : ∀ k, set.afterPasses (k + 1) text = set.afterPasses k next := by
    intro k
    rw [afterPasses, h]
  refine ⟨?_, ?_, ?_⟩
  · intro k hk
    cases k with
    | zero => rw [hnext, afterPasses, afterPasses, h]
    | succ k =>
        rw [hnext, hnext]
        exact hd.applied k (Nat.lt_of_succ_lt_succ hk)
  · rw [hnext, hd.content]
  · intro k hk
    cases k with
    | zero => exact absurd hk (Nat.not_succ_le_zero n)
    | succ k =>
        rw [hnext]
        exact hd.absent k (Nat.le_of_succ_le_succ hk)

/--
**The passes follow the walk through the text.** What has been dealt with stands in front, and
the search passes it; each pass adds a gap to it, and the text that closes the gap.
-/
theorem drains_of_scan (hset : set.rules = [rule]) (h : rule.Plain find new)
    (hseam : IsSeam find.toList new.toList) {rest : String} {gaps : List String}
    (hs : Scan find rest gaps) (front : String) (hfront : Passed find.toList front.toList)
    (n : Nat) (hn : gaps.length = n + 1) :
    set.Drains rule (front ++ rest) n (front ++ new.intercalate gaps) := by
  induction hs generalizing front n with
  | @last text habsent =>
      obtain rfl : 0 = n := Nat.succ.inj hn
      rw [String.intercalate_singleton]
      have hcut : cut? find.toList (front ++ text).toList = none := by
        rw [String.toList_append, hfront, cut?_eq_none_iff.mpr habsent]
        rfl
      exact .zero (pass_of_single hset (h.apply_of_absent hcut) rfl)
  | @next text before after gaps hfirst hs ih =>
      have hcut : cut? find.toList (front ++ text).toList
          = some ((front ++ before).toList, after.toList) := by
        rw [String.toList_append, hfront.cut?_eq_some_iff]
        exact ⟨before.toList, hfirst.cut?_eq, String.toList_append⟩
      have hpass := pass_of_single hset (h.apply_of_cut hcut) rfl
      -- nothing is found in front of the text that has been inserted
      have hfind : find.toList ≠ [] := fun hnil =>
        h.find_ne_empty (String.toList_eq_nil_iff.mp hnil)
      have hpassed : Passed find.toList (front ++ before ++ new).toList := by
        rw [String.toList_append, String.toList_append, List.append_assoc]
        exact hfront.append (passed_of_absent (cut?_before hfind hfirst.cut?_eq) hseam)
      obtain ⟨gap, more, rfl⟩ := List.exists_cons_of_ne_nil hs.ne_nil
      obtain rfl : more.length + 1 = n := Nat.succ.inj hn
      have hrest := ih (front ++ before ++ new) hpassed more.length rfl
      rw [String.intercalate_cons_of_ne_nil (List.cons_ne_nil gap more)]
      simp only [String.append_assoc] at hpass hrest ⊢
      exact .succ hpass hrest

/--
**Passes through a single rule use its literal up.** Let a rule without guard replace a word by a
text that is not empty and shares no character with it. If a walk through a text finds the word
`n` times, each of the first `n` passes replaces one occurrence, and leaves the text with all of
them replaced; every pass after that finds nothing.
-/
theorem passes_drain (hset : set.rules = [rule]) (h : rule.Plain find new) (hne : new ≠ "")
    (hd : find.toList.Disjoint new.toList) (content : String) :
    (∃ gaps n, Scan find content gaps ∧ gaps.length = n + 1)
      ∧ ∀ gaps n, Scan find content gaps → gaps.length = n + 1 →
        content = find.intercalate gaps
          ∧ set.Drains rule content n (new.intercalate gaps) := by
  constructor
  · obtain ⟨gaps, hs⟩ := Text.exists_scan h.find_ne_empty content
    obtain ⟨gap, more, rfl⟩ := List.exists_cons_of_ne_nil hs.ne_nil
    exact ⟨gap :: more, more.length, hs, rfl⟩
  · intro gaps n hs hn
    have hseam : IsSeam find.toList new.toList :=
      ⟨fun c hc hin => hd hin hc, fun hnil => hne (String.toList_eq_nil_iff.mp hnil)⟩
    have hdrains := drains_of_scan hset h hseam hs "" Passed.nil n hn
    rw [String.empty_append, String.empty_append] at hdrains
    exact ⟨hs.eq_intercalate, hdrains⟩

/-- A rule whose word can overlap itself. -/
def overlapping : Rule where
  id := "overlapping"
  matcher := .literal "aba"
  replacement := .literal "c"

theorem plain_overlapping : overlapping.Plain "aba" "c" where
  built := by
    have hmade : Rule.make "overlapping" (.literal "aba") (.literal "c") = .ok overlapping := rfl
    exact .make hmade
  matcher := rfl
  inserted := rfl
  unguarded := rfl
  optional := rfl

/-- The word stands in the text three times, but two of its places overlap. -/
theorem scan_overlapping : Scan "aba" "ababaxaba" ["", "bax", ""] := by
  have hfirst : FirstCut "aba" "ababaxaba" "" "baxaba" := Text.firstCut_of_cut? (by decide)
  have hsecond : FirstCut "aba" "baxaba" "bax" "" := Text.firstCut_of_cut? (by decide)
  exact .next hfirst (.next hsecond (.last (by decide)))

theorem passes_drain_overlapping :
    overlapping.Plain "aba" "c" ∧ "aba".toList.Disjoint "c".toList
      ∧ Scan "aba" "ababaxaba" ["", "bax", ""]
      ∧ (RuleSet.mk "" [overlapping]).Drains overlapping "ababaxaba" 2 "cbaxc" := by
  have hd : "aba".toList.Disjoint "c".toList := by simp
  have hset : (RuleSet.mk "" [overlapping]).rules = [overlapping] := rfl
  have hdrains := ((passes_drain hset plain_overlapping (by decide) hd "ababaxaba").2
    ["", "bax", ""] 2 scan_overlapping rfl).2
  have htext : "c".intercalate ["", "bax", ""] = "cbaxc" := by decide
  rw [htext] at hdrains
  exact ⟨plain_overlapping, hd, scan_overlapping, hdrains⟩

end RuleSet

end Emend

import Emend.Text.Cut

/-!
# Seams

A stretch of a text is a seam for a word if it has none of the word's characters. The word may
stand in front of a seam or behind it, but never reaches into it or across, so it does not matter
which seam it is: what is found in a text stays found, and nothing new is found, when one seam
takes the place of another. An empty stretch is no seam, since a word can stand across it.

* `infix_seam_iff`: a word stands on one side of a seam.
* `cut?_append_of_some`: what is found in a text is found there whatever follows.
* `Passed`: a text in which the search for a word finds no start, whatever follows.
* `passed_of_absent`: a text without the word, closed by a seam, is passed.
* `occurs_seam`: so whether a word occurs does not depend on the seam.
-/

namespace Emend.Text

variable {needle : List Char}

/-! ## Words and the stretches they cannot reach across -/

/-- A word that lacks a character stands on one side of it. -/
theorem infix_of_append_cons {w before after : List Char} {c : Char} (hc : c ∉ w)
    (h : w <:+: before ++ c :: after) : w <:+: before ∨ w <:+: after := by
  obtain ⟨left, right, he⟩ := h
  rw [List.append_assoc, List.append_eq_append_iff] at he
  rcases he with ⟨mid, rfl, hr⟩ | ⟨mid, rfl, hr⟩
  · rw [List.append_eq_append_iff] at hr
    rcases hr with ⟨mid', rfl, -⟩ | ⟨mid', rfl, hr⟩
    · exact .inl ⟨left, mid', by rw [List.append_assoc]⟩
    · cases mid' with
      | nil => exact .inl ⟨left, [], by simp⟩
      | cons d ds =>
          cases hr
          exact absurd (by simp) hc
  · cases mid with
    | nil =>
        cases w with
        | nil => exact .inl List.nil_infix
        | cons d ds =>
            cases hr
            exact absurd (List.mem_cons_self ..) hc
    | cons d ds =>
        rw [List.cons_append] at hr
        obtain ⟨rfl, rfl⟩ := List.cons.inj hr
        exact .inr ⟨ds, right, by rw [List.append_assoc]⟩

/-- Nor does it reach into a stretch of such characters. -/
theorem infix_of_append_foreign {w between after : List Char} (hb : ∀ c ∈ between, c ∉ w)
    (h : w <:+: between ++ after) : w <:+: after := by
  induction between with
  | nil => exact h
  | cons c cs ih =>
      replace h : w <:+: [] ++ c :: (cs ++ after) := h
      rcases infix_of_append_cons (hb c (List.mem_cons_self ..)) h with h | h
      · rw [List.infix_nil.mp h]
        exact List.nil_infix
      · exact ih (fun d hd => hb d (List.mem_cons_of_mem _ hd)) h

/-- Nor across one, unless it is empty. -/
theorem infix_of_append_append {w before between after : List Char}
    (hb : ∀ c ∈ between, c ∉ w) (hne : before = [] ∨ between ≠ [])
    (h : w <:+: before ++ between ++ after) : w <:+: before ∨ w <:+: after := by
  cases between with
  | nil =>
      rcases hne with rfl | hne
      · exact .inr h
      · exact absurd rfl hne
  | cons c cs =>
      rw [List.append_assoc] at h
      rcases infix_of_append_cons (hb c (List.mem_cons_self ..)) h with h | h
      · exact .inl h
      · exact .inr (infix_of_append_foreign (fun d hd => hb d (List.mem_cons_of_mem _ hd)) h)

/-- A word at the start of a text ends before a character that it lacks. -/
theorem prefix_of_append_cons {w before after : List Char} {c : Char} (hc : c ∉ w)
    (h : w <+: before ++ c :: after) : w <+: before := by
  rcases List.prefix_or_prefix_of_prefix h (List.prefix_append before (c :: after)) with hp | hp
  · exact hp
  · obtain ⟨more, rfl⟩ := hp
    cases more with
    | nil => simp
    | cons d ds =>
        -- the word goes on behind `before`, so it has the character that stands there
        have hrest : d :: ds <+: c :: after := (List.prefix_append_right_inj before).mp h
        obtain ⟨rfl, -⟩ := List.cons_prefix_cons.mp hrest
        exact absurd (List.mem_append_right before (List.mem_cons_self ..)) hc

/-- A stretch that a word cannot reach across: it is not empty, and has none of its characters. -/
structure IsSeam (needle seam : List Char) : Prop where
  foreign : ∀ c ∈ seam, c ∉ needle
  nonempty : seam ≠ []

/-- A word next to a seam stands on one side of it. -/
theorem infix_seam_iff {before seam after : List Char} (h : IsSeam needle seam) :
    needle <:+: before ++ seam ++ after ↔ needle <:+: before ∨ needle <:+: after := by
  constructor
  · exact infix_of_append_append h.foreign (.inr h.nonempty)
  · rintro (hin | hin)
    · exact hin.trans ⟨[], seam ++ after, by simp⟩
    · exact hin.trans (List.suffix_append _ _).isInfix

/-! ## The search, one character after another -/

/-- Put a text in front of the part before an occurrence. -/
def inFront (front : List Char) (parts : List Char × List Char) : List Char × List Char :=
  (front ++ parts.1, parts.2)

theorem inFront_nil (parts : List Char × List Char) : inFront [] parts = parts := rfl

theorem inFront_append (a b : List Char) (parts : List Char × List Char) :
    inFront (a ++ b) parts = inFront a (inFront b parts) := by
  rw [inFront, inFront, inFront, List.append_assoc]

/-- The characters that have been passed only stand in front of what is found. -/
theorem cutFrom_eq (needle passed text : List Char) :
    cutFrom needle passed text = (cut? needle text).map (inFront passed.reverse) := by
  induction text generalizing passed with
  | nil =>
      unfold cut? cutFrom
      split
      · simp [inFront]
      · rfl
  | cons c cs ih =>
      unfold cut?
      rw [cutFrom, cutFrom]
      split
      · simp [inFront]
      · rw [ih (c :: passed), ih [c], Option.map_map]
        congr 1
        funext parts
        simp [inFront]

/-- The search stops at a needle that stands at the front, or passes one character. -/
theorem cut?_cons (needle : List Char) (c : Char) (cs : List Char) :
    cut? needle (c :: cs) =
      if needle <+: c :: cs then some ([], (c :: cs).drop needle.length)
      else (cut? needle cs).map (inFront [c]) := by
  rw [cut?, cutFrom, cutFrom_eq]
  simp only [List.isPrefixOf_iff_prefix, List.reverse_nil, List.reverse_cons, List.nil_append]

theorem cut?_eq_none_iff {text : List Char} : cut? needle text = none ↔ ¬ needle <:+: text := by
  rw [← occurs_iff, occurs]
  simp

/-- **What is found in a text is found there whatever follows.** -/
theorem cut?_append_of_some {text before after : List Char}
    (h : cut? needle text = some (before, after)) (rest : List Char) :
    cut? needle (text ++ rest) = some (before, after ++ rest) := by
  induction text generalizing before with
  | nil =>
      -- only the empty needle is found in the empty text
      cases needle with
      | nil =>
          rw [cut?_nil] at h ⊢
          cases h
          rfl
      | cons d ds => cases h
  | cons c cs ih =>
      rw [List.cons_append, cut?_cons]
      rw [cut?_cons] at h
      by_cases hp : needle <+: c :: cs
      · rw [if_pos hp] at h
        have hlong : needle <+: c :: (cs ++ rest) := hp.trans ⟨rest, rfl⟩
        rw [if_pos hlong, ← List.cons_append, List.drop_append_of_le_length hp.length_le]
        cases h
        rfl
      · rw [if_neg hp, Option.map_eq_some_iff] at h
        obtain ⟨⟨before', after'⟩, hrest, he⟩ := h
        cases he
        -- the needle does not begin here in the longer text either: it would reach across
        -- the place where it is found
        have hnot : ¬ needle <+: c :: (cs ++ rest) := by
          intro hlong
          have hlen : needle.length ≤ (c :: cs).length := by
            rw [cut?_eq_some hrest, List.length_cons, List.length_append, List.length_append]
            omega
          exact hp (List.prefix_of_prefix_length_le hlong ⟨rest, rfl⟩ hlen)
        rw [if_neg hnot, ih hrest]
        rfl

/-- Nothing is found in front of the first occurrence. -/
theorem cut?_before {text before after : List Char} (hne : needle ≠ [])
    (h : cut? needle text = some (before, after)) : cut? needle before = none := by
  cases hb : cut? needle before with
  | none => rfl
  | some parts =>
      obtain ⟨u, v⟩ := parts
      have hfirst := cut?_append_of_some hb (needle ++ after)
      have htext := cut?_eq_some h
      rw [List.append_assoc] at htext
      rw [← htext, h] at hfirst
      obtain ⟨rfl, -⟩ := Prod.mk.inj (Option.some.inj hfirst)
      -- so the needle has no room in `before`, behind all of it
      have hparts := cut?_eq_some hb
      rw [List.append_assoc, List.self_eq_append_right, List.append_eq_nil_iff] at hparts
      exact absurd hparts.1 hne

/-! ## What the search passes -/

/-- The search for a needle passes a text, whatever follows: the needle begins nowhere in it. -/
def Passed (needle front : List Char) : Prop :=
  ∀ rest, cut? needle (front ++ rest) = (cut? needle rest).map (inFront front)

theorem Passed.nil : Passed needle [] := by
  intro rest
  rw [show inFront [] = id from funext inFront_nil, Option.map_id]
  rfl

theorem Passed.append {front more : List Char} (h : Passed needle front)
    (h' : Passed needle more) : Passed needle (front ++ more) := by
  intro rest
  rw [List.append_assoc, h, h', Option.map_map]
  congr 1
  funext parts
  exact (inFront_append front more parts).symm

/-- What is found behind a text that is passed is found behind it alone. -/
theorem Passed.cut?_eq_some_iff {front rest before after : List Char} (h : Passed needle front) :
    cut? needle (front ++ rest) = some (before, after) ↔
      ∃ middle, cut? needle rest = some (middle, after) ∧ before = front ++ middle := by
  rw [h rest, Option.map_eq_some_iff]
  constructor
  · rintro ⟨⟨middle, last⟩, hrest, he⟩
    obtain ⟨rfl, rfl⟩ := Prod.mk.inj he
    exact ⟨middle, hrest, rfl⟩
  · rintro ⟨middle, hrest, rfl⟩
    exact ⟨(middle, after), hrest, rfl⟩

/-- The needle begins in front of such a text only where it stands at the start. -/
theorem Passed.cons {c : Char} {front : List Char} (h : Passed needle front)
    (hnot : ∀ rest, ¬ needle <+: c :: (front ++ rest)) : Passed needle (c :: front) := by
  intro rest
  rw [List.cons_append, cut?_cons, if_neg (hnot rest), h, Option.map_map]
  rfl

/-- A stretch without the characters of the needle is passed. -/
theorem passed_of_foreign {seam : List Char} (hn : needle ≠ []) (hs : ∀ c ∈ seam, c ∉ needle) :
    Passed needle seam := by
  induction seam with
  | nil => exact .nil
  | cons c cs ih =>
      refine (ih fun d hd => hs d (List.mem_cons_of_mem _ hd)).cons ?_
      intro rest hp
      have hc : c ∉ needle := hs c (List.mem_cons_self ..)
      replace hp : needle <+: [] ++ c :: (cs ++ rest) := hp
      exact hn (List.prefix_nil.mp (prefix_of_append_cons hc hp))

/-- **A text without the needle is passed if a seam closes it.** -/
theorem passed_of_absent {front seam : List Char} (ha : cut? needle front = none)
    (hs : IsSeam needle seam) : Passed needle (front ++ seam) := by
  have habsent : ¬ needle <:+: front := cut?_eq_none_iff.mp ha
  induction front with
  | nil =>
      have hn : needle ≠ [] := fun h => habsent (h ▸ List.nil_infix)
      exact passed_of_foreign hn hs.foreign
  | cons c cs ih =>
      have hcs : ¬ needle <:+: cs := fun h => habsent (h.trans (List.suffix_cons c cs).isInfix)
      refine (ih (cut?_eq_none_iff.mpr hcs) hcs).cons ?_
      intro rest hp
      -- a needle that began here would end in front of the seam
      obtain ⟨d, ds, rfl⟩ := List.exists_cons_of_ne_nil hs.nonempty
      have hd : d ∉ needle := hs.foreign d (List.mem_cons_self ..)
      have hlong : needle <+: (c :: cs) ++ d :: (ds ++ rest) := by simpa using hp
      exact habsent (prefix_of_append_cons hd hlong).isInfix

/-- **Whether a word occurs does not depend on the seam.** -/
theorem occurs_seam {seam seam' : List Char} (h : IsSeam needle seam) (h' : IsSeam needle seam')
    (before after : List Char) :
    occurs needle (before ++ seam ++ after) = occurs needle (before ++ seam' ++ after) := by
  rw [Bool.eq_iff_iff, occurs_iff, occurs_iff, infix_seam_iff h, infix_seam_iff h']

end Emend.Text

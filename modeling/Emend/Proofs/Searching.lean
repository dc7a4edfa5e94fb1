import Emend.Pattern
import Mathlib.Data.List.Infix
import Mathlib.Data.Set.Defs

/-!
# Where a search finds something

The search follows many threads at once, and what it reports is the ends of one of
them. Every thread keeps the place where it began, so the ends of a match lie where
they should, whatever the program is.

* `findFrom_within`: a match begins no earlier than the search and ends inside the text.
* `allFrom_inOrder`: each further match begins no earlier than the one before it ended.
* `mem_allFrom`: all of them are first matches in some rest of the text.

A pattern *looks for* some words if it matches exactly where one of them stands, and
every match is one of them. The program of a single set of characters finds the first
character of the set (`run_ofSet`), so its pattern looks for the set's characters.
-/

namespace Emend

namespace Text

/-- Stretches from left to right without overlap, from `lo` up to `hi`. -/
def InOrder (hi : Nat) : (lo : Nat) → List (Nat × Nat) → Prop
  | _, [] => True
  | lo, (start, stop) :: rest => lo ≤ start ∧ start ≤ stop ∧ stop ≤ hi ∧ InOrder hi stop rest

theorem InOrder.mono {hi lo lo' : Nat} {spans : List (Nat × Nat)} (h : InOrder hi lo spans)
    (hl : lo' ≤ lo) : InOrder hi lo' spans := by
  cases spans with
  | nil => trivial
  | cons span rest => exact ⟨Nat.le_trans hl h.1, h.2⟩

end Text

namespace Regex

open Unicode (CharSet)

/-- Where the match stands. -/
def Found.span (m : Found) : Nat × Nat := (m.start, m.stop)

/-- A match between two places, with its ends in order. -/
structure Found.Within (m : Found) (lo hi : Nat) : Prop where
  above : lo ≤ m.start
  ordered : m.start ≤ m.stop
  below : m.stop ≤ hi

theorem Found.Within.mono {m : Found} {lo hi hi' : Nat} (h : m.Within lo hi) (hh : hi ≤ hi') :
    m.Within lo hi' :=
  ⟨h.above, h.ordered, Nat.le_trans h.below hh⟩

/-- All threads began between two places. -/
def BeganIn (lo hi : Nat) (threads : List Thread) : Prop :=
  ∀ t ∈ threads, lo ≤ t.start ∧ t.start ≤ hi

theorem BeganIn.nil {lo hi : Nat} : BeganIn lo hi [] :=
  fun _ h => absurd h List.not_mem_nil

theorem BeganIn.cons {lo hi : Nat} {t : Thread} {ts : List Thread}
    (ht : lo ≤ t.start ∧ t.start ≤ hi) (h : BeganIn lo hi ts) : BeganIn lo hi (t :: ts) := by
  intro u hu
  rcases List.mem_cons.mp hu with rfl | hu
  · exact ht
  · exact h u hu

theorem BeganIn.head {lo hi : Nat} {t : Thread} {ts : List Thread}
    (h : BeganIn lo hi (t :: ts)) : lo ≤ t.start ∧ t.start ≤ hi :=
  h t (List.mem_cons_self ..)

theorem BeganIn.tail {lo hi : Nat} {t : Thread} {ts : List Thread}
    (h : BeganIn lo hi (t :: ts)) : BeganIn lo hi ts :=
  fun u hu => h u (List.mem_cons_of_mem _ hu)

theorem BeganIn.mono {lo hi hi' : Nat} {ts : List Thread} (h : BeganIn lo hi ts)
    (hh : hi ≤ hi') : BeganIn lo hi' ts :=
  fun t ht => ⟨(h t ht).1, Nat.le_trans (h t ht).2 hh⟩

namespace Program

variable {p : Program} {before after : Option Char} {place lo hi : Nat}

/-! ## One place -/

/-- Following the threads through what takes no character starts none. -/
theorem closeOver_beganIn (p : Program) (before after : Option Char) (place fuel : Nat)
    {stack out : List Thread} (seen : Array Nat) (hs : BeganIn lo hi stack)
    (ho : BeganIn lo hi out) :
    BeganIn lo hi (p.closeOver before after place fuel stack seen out).2 := by
  fun_induction closeOver p before after place fuel stack seen out with
  | case1 => exact ho
  | case2 => exact ho
  | case3 seen out fuel t stack _ ih => exact ih hs.tail ho
  | case4 seen out fuel t stack _ _ _ ih => exact ih hs.tail ho
  | case5 seen out fuel t stack _ _ a b _ ih =>
      exact ih (.cons hs.head (.cons hs.head hs.tail)) ho
  | case6 seen out fuel t stack _ _ l next _ stack' ih =>
      refine ih ?_ ho
      unfold stack'
      split
      · exact .cons hs.head hs.tail
      · exact hs.tail
  | case7 seen out fuel t stack _ _ slot next _ t' ih =>
      exact ih (.cons hs.head hs.tail) ho
  | case8 seen out fuel t stack _ _ set next _ ih =>
      exact ih hs.tail (.cons hs.head ho)
  | case9 seen out fuel t stack _ _ _ ih =>
      exact ih hs.tail (.cons hs.head ho)

/-- Taking a character starts no thread, and a match ends where it is found. -/
theorem advance_beganIn (p : Program) (after : Option Char) (place : Nat) {ts : List Thread}
    (h : BeganIn lo hi ts) :
    BeganIn lo hi (p.advance after place ts).1
      ∧ ∀ m ∈ (p.advance after place ts).2, lo ≤ m.start ∧ m.start ≤ hi ∧ m.stop = place := by
  fun_induction advance p after place ts with
  | case1 => exact ⟨h, by simp⟩
  | case2 t ts _ =>
      refine ⟨fun u hu => absurd hu List.not_mem_nil, ?_⟩
      intro m hm
      cases hm
      exact ⟨h.head.1, h.head.2, rfl⟩
  | case3 t ts set next _ _ rest found hr ih =>
      rw [hr] at ih
      exact ⟨.cons h.head (ih h.tail).1, (ih h.tail).2⟩
  | case4 t ts set next _ _ ih => exact ih h.tail
  | case5 t ts _ _ ih => exact ih h.tail

/-- The threads at a place, with the one that begins there as long as nothing has been found. -/
def joined (p : Program) (place : Nat) (threads : List Thread) (best : Option Found) :
    List Thread :=
  if best.isNone then threads ++ [p.fresh place] else threads

theorem joined_beganIn {threads : List Thread} {best : Option Found} (hlo : lo ≤ place)
    (h : BeganIn lo place threads) : BeganIn lo place (p.joined place threads best) := by
  unfold joined
  split
  · intro t hm
    rcases List.mem_append.mp hm with hm | hm
    · exact h t hm
    · rw [List.mem_singleton.mp hm]
      exact ⟨hlo, Nat.le_refl _⟩
  · exact h

/-- What one place of a search leaves behind. -/
structure Halt where
  threads : List Thread
  best : Option Found
  seen : Array Nat

/-- One place of a search. -/
def halt (p : Program) (before after : Option Char) (place : Nat) (threads : List Thread)
    (best : Option Found) (seen : Array Nat) : Halt :=
  let threads := p.joined place threads best
  let fuel := threads.length + 2 * p.code.size + 1
  let (seen, closed) := p.closeOver before after place fuel threads seen []
  let (threads, found) := p.advance after place closed.reverse
  ⟨threads, found <|> best, seen⟩

theorem run_nil {threads : List Thread} {best : Option Found} {seen : Array Nat} :
    p.run [] before place threads best seen = (p.halt before none place threads best seen).best :=
  rfl

theorem run_cons {c : Char} {cs : List Char} {threads : List Thread} {best : Option Found}
    {seen : Array Nat} :
    p.run (c :: cs) before place threads best seen =
      let h := p.halt before (some c) place threads best seen
      if h.threads.isEmpty && h.best.isSome then h.best
      else p.run cs (some c) (place + 1) h.threads h.best h.seen :=
  rfl

/-- What holds of the threads and of the match so far, from place to place. -/
theorem halt_within (before after : Option Char) {threads : List Thread} {best : Option Found}
    (seen : Array Nat) (hlo : lo ≤ place) (ht : BeganIn lo place threads)
    (hb : ∀ m ∈ best, m.Within lo place) :
    BeganIn lo place (p.halt before after place threads best seen).threads
      ∧ ∀ m ∈ (p.halt before after place threads best seen).best, m.Within lo place := by
  have hjoined : BeganIn lo place (p.joined place threads best) := joined_beganIn hlo ht
  have hclosed := closeOver_beganIn p before after place
    ((p.joined place threads best).length + 2 * p.code.size + 1) seen hjoined .nil
  obtain ⟨hthreads, hfound⟩ :=
    advance_beganIn p after place fun t hm => hclosed t (List.mem_reverse.mp hm)
  refine ⟨hthreads, ?_⟩
  intro m hm
  rcases Option.or_eq_some_iff.mp ((Option.orElse_eq_or ..).symm.trans hm) with h | ⟨-, h⟩
  · obtain ⟨hl, hh, hstop⟩ := hfound m h
    exact ⟨hl, by omega, by omega⟩
  · exact hb m h

/-! ## A whole search -/

/-- **A match lies between the place where the first thread began and the end of the text.** -/
theorem run_within {rest : List Char} {threads : List Thread} {best : Option Found}
    {seen : Array Nat} (hlo : lo ≤ place) (ht : BeganIn lo place threads)
    (hb : ∀ m ∈ best, m.Within lo place) :
    ∀ m ∈ p.run rest before place threads best seen, m.Within lo (place + rest.length) := by
  induction rest generalizing before place threads best seen with
  | nil =>
      rw [run_nil]
      exact (halt_within before none seen hlo ht hb).2
  | cons c cs ih =>
      obtain ⟨ht', hb'⟩ := halt_within (p := p) before (some c) seen hlo ht hb
      intro m hm
      rw [run_cons] at hm
      dsimp only at hm
      split at hm
      · exact (hb' m hm).mono (by omega)
      · have := ih (by omega) (ht'.mono (by omega)) (fun m h => (hb' m h).mono (by omega)) m hm
        exact this.mono (by simp only [List.length_cons]; omega)

theorem findFrom_within {rest : List Char} {m : Found}
    (h : p.findFrom before place rest = some m) : m.Within place (place + rest.length) :=
  run_within (Nat.le_refl _) .nil (by simp) m h

/-- **The matches in a text stand from left to right without overlap.** -/
theorem allFrom_inOrder (p : Program) (fuel : Nat) (before : Option Char) (place : Nat)
    (rest : List Char) (lastStop : Option Nat) :
    Text.InOrder (place + rest.length) place
      ((p.allFrom fuel before place rest lastStop).map Found.span) := by
  fun_induction allFrom p fuel before place rest lastStop with
  | case1 => trivial
  | case2 => trivial
  | case3 => trivial
  | case4 fuel before place lastStop m _ c cs hm ih =>
      rw [List.length_cons, Nat.add_comm cs.length, ← Nat.add_assoc]
      exact ih.mono (by omega)
  | case5 fuel before place rest lastStop m hm _ taken before' ih =>
      obtain ⟨hl, ho, hh⟩ := findFrom_within hm
      refine ⟨hl, ho, hh, ?_⟩
      have hrest : m.stop + (rest.drop taken).length = place + rest.length := by
        rw [List.length_drop]
        omega
      rw [hrest] at ih
      exact ih

/-- Each match in a text is the first one in some rest of it. -/
theorem mem_allFrom {fuel : Nat} {rest : List Char} {lastStop : Option Nat} {m : Found}
    (h : m ∈ p.allFrom fuel before place rest lastStop) :
    ∃ (k : Nat) (before' : Option Char), p.findFrom before' (place + k) (rest.drop k) = some m := by
  fun_induction allFrom p fuel before place rest lastStop with
  | case1 => cases h
  | case2 => cases h
  | case3 => cases h
  | case4 fuel before place lastStop m' _ c cs hm ih =>
      obtain ⟨k, before', hk⟩ := ih h
      exact ⟨k + 1, before', by rw [List.drop_succ_cons, ← hk]; congr 1; omega⟩
  | case5 fuel before place rest lastStop m' hm _ taken before' ih =>
      rcases List.mem_cons.mp h with rfl | h
      · exact ⟨0, before, hm⟩
      · obtain ⟨k, before'', hk⟩ := ih h
        have hplace : m'.stop = place + taken := by
          obtain ⟨hl, ho, hh⟩ := findFrom_within hm
          omega
        refine ⟨taken + k, before'', ?_⟩
        rw [← List.drop_drop, ← hk, hplace, Nat.add_assoc]

/-! ## A single set of characters -/

/-- The program that takes one character of a set. -/
def ofSet (set : CharSet) : Program := ⟨#[.accept, .char set 0], 1, 2⟩

/-- No instruction has been passed behind a place. -/
def PassedBy (place : Nat) (seen : Array Nat) : Prop := ∀ i : Nat, seen[i]?.getD 0 ≤ place

theorem PassedBy.set {seen : Array Nat} {i : Nat} (h : PassedBy place seen) :
    PassedBy (place + 1) (seen.setIfInBounds i (place + 1)) := by
  intro j
  by_cases hi : i = j
  · rw [hi, Array.getD_getElem?_setIfInBounds]
    split
    · exact Nat.le_refl _
    · exact Nat.zero_le _
  · rw [Array.getElem?_setIfInBounds_ne hi]
    exact Nat.le_succ_of_le (h j)

variable {set : CharSet} {seen : Array Nat}

/-- Before anything is taken: the thread that begins here goes on with a character of the set. -/
theorem halt_ofSet_fresh (h : PassedBy place seen) :
    (ofSet set).halt before after place [] none seen =
      ⟨if after.any set.contains then [⟨0, place, [none, none]⟩] else [], none,
        seen.setIfInBounds 1 (place + 1)⟩ := by
  have h1 : seen[1]?.getD 0 ≠ place + 1 := by
    have := h 1
    omega
  cases after with
  | none => simp [halt, joined, fresh, ofSet, closeOver, h1, advance]
  | some c =>
      by_cases hc : set.contains c = true
      · simp [halt, joined, fresh, ofSet, closeOver, h1, advance, hc]
      · simp [halt, joined, fresh, ofSet, closeOver, h1, advance, hc]

/-- After a character has been taken: that is the match, and nothing goes on. -/
theorem halt_ofSet_taken (before after : Option Char) (start : Nat) (slots : List (Option Nat))
    (h : PassedBy place seen) :
    ((ofSet set).halt before after place [⟨0, start, slots⟩] none seen).threads = []
      ∧ ((ofSet set).halt before after place [⟨0, start, slots⟩] none seen).best
        = some ⟨start, place, slots⟩ := by
  have h0 : seen[0]?.getD 0 ≠ place + 1 := by
    have := h 0
    omega
  have h1 : seen[1]?.getD 0 ≠ place + 1 := by
    have := h 1
    omega
  simp [halt, joined, fresh, ofSet, closeOver, h0, h1, advance]

/-- **The program of a set finds the first character of the set.** -/
theorem run_ofSet {rest : List Char} (h : PassedBy place seen) :
    (ofSet set).run rest before place [] none seen =
      (rest.findIdx? set.contains).map fun i => ⟨place + i, place + i + 1, [none, none]⟩ := by
  induction rest generalizing before place seen with
  | nil =>
      rw [run_nil, halt_ofSet_fresh h]
      rfl
  | cons c cs ih =>
      rw [run_cons, halt_ofSet_fresh h, List.findIdx?_cons]
      have hnext : PassedBy (place + 1) (seen.setIfInBounds 1 (place + 1)) := h.set
      by_cases hc : set.contains c = true
      · simp only [Option.any_some, hc, if_true, List.isEmpty_cons, Bool.false_and,
          Bool.false_eq_true, if_false, Option.map_some, Nat.add_zero]
        obtain ⟨ht, hb⟩ := halt_ofSet_taken (some c) cs.head? place [none, none] hnext
        cases cs with
        | nil =>
            rw [run_nil]
            exact hb
        | cons d ds =>
            rw [run_cons]
            simp only [List.head?_cons] at ht hb
            simp [ht, hb]
      · simp only [Option.any_some, hc, if_false, Bool.false_eq_true, Option.isSome_none,
          Bool.and_false, Option.map_map]
        rw [ih hnext]
        congr 1
        funext i
        simp only [Function.comp, Found.mk.injEq, and_true]
        omega

theorem findFrom_ofSet {rest : List Char} :
    (ofSet set).findFrom before place rest =
      (rest.findIdx? set.contains).map fun i => ⟨place + i, place + i + 1, [none, none]⟩ := by
  refine run_ofSet fun i => ?_
  rw [Array.getElem?_replicate]
  split <;> exact Nat.zero_le _

end Program

end Regex

namespace Pattern

/-- The matches of a pattern stand from left to right without overlap. -/
theorem findAll_inOrder (p : Pattern) (text : String) :
    Text.InOrder text.toList.length 0 ((p.findAll text).map fun m => (m.start, m.stop)) := by
  rw [findAll, List.map_map]
  have := p.compiled.program.allFrom_inOrder (2 * text.toList.length + 3) none 0 text.toList none
  rwa [Nat.zero_add] at this

/-- A pattern that matches where one of some words stands, and nothing but such a word. -/
structure LooksFor (p : Pattern) (words : Set (List Char)) : Prop where
  isMatch_iff : ∀ content : String, p.isMatch content ↔ ∃ w ∈ words, w <:+: content.toList
  found : ∀ content : String, ∀ m ∈ p.findAll content,
    Match.slice content.toList m.start m.stop ∈ words

/-- A pattern of a single set looks for the characters of the set. -/
theorem looksFor_ofSet {p : Pattern} {set : Unicode.CharSet}
    (h : p.compiled.program = .ofSet set) : p.LooksFor {w | ∃ c, set.contains c ∧ w = [c]} where
  isMatch_iff := by
    intro content
    rw [isMatch, find?, h, Regex.Program.find?, Regex.Program.findFrom_ofSet, Option.isSome_map,
      Option.isSome_map, List.findIdx?_isSome, List.any_eq_true]
    constructor
    · rintro ⟨c, hc, hs⟩
      exact ⟨[c], ⟨c, hs, rfl⟩, (List.singleton_infix_iff c _).mpr hc⟩
    · rintro ⟨w, ⟨c, hs, rfl⟩, hw⟩
      exact ⟨c, (List.singleton_infix_iff c _).mp hw, hs⟩
  found := by
    intro content m hm
    obtain ⟨f, hf, rfl⟩ := List.mem_map.mp hm
    rw [h] at hf
    obtain ⟨k, before, hk⟩ := Regex.Program.mem_allFrom hf
    rw [Regex.Program.findFrom_ofSet, Option.map_eq_some_iff] at hk
    obtain ⟨i, hi, rfl⟩ := hk
    obtain ⟨hlt, hset, -⟩ := List.findIdx?_eq_some_iff_getElem.mp hi
    refine ⟨_, hset, ?_⟩
    simp only [toMatch, Match.slice, Nat.zero_add, Nat.add_sub_cancel_left]
    rw [← List.drop_drop, List.drop_eq_getElem_cons hlt]
    rfl

end Pattern

end Emend

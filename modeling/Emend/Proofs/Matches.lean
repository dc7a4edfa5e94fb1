import Emend.Proofs.Literals
import Emend.Proofs.Marks

/-!
# Matches and the gaps between them

The matches of a pattern divide a text into what they match and the gaps before, between and
behind them. A rule that replaces all matches keeps every gap as it is and puts one text in the
place of each match; a rule that replaces the first one does the same with that match alone.

* `interleave_slices`: the gaps and what has been matched make up the text.
* `weaveFrom_eq_interleave`: the gaps and what takes the place of the matches make up the new text.
* `divide_findAll`: what is known of the matches of a pattern, whatever the pattern is.
* `edit?_of_targets`: the edit of a rule, in terms of the matches that its scope takes in.
* `pattern_exact`: so a pattern rule replaces the matches of its scope, and nothing else.
-/

namespace Emend

namespace Text

variable {text : List Char} {place : Nat} {spans : List (Nat × Nat)}

/-! ## Gaps -/

/-- What some stretches leave of a text from a place on: one gap before each, and one behind. -/
def gaps (text : List Char) : (place : Nat) → List (Nat × Nat) → List (List Char)
  | place, [] => [text.drop place]
  | place, (start, stop) :: rest => Match.slice text place start :: gaps text stop rest

/-- Gaps in turn with what stands between them. -/
def interleave : (gaps : List (List Char)) → (between : List (List Char)) → List Char
  | gap :: gaps, new :: more => gap ++ new ++ interleave gaps more
  | gaps, _ => gaps.flatten

@[simp] theorem length_gaps (text : List Char) (place : Nat) (spans : List (Nat × Nat)) :
    (gaps text place spans).length = spans.length + 1 := by
  induction spans generalizing place with
  | nil => rfl
  | cons span rest ih => rw [gaps, List.length_cons, ih, List.length_cons]

theorem slice_eq_drop_take (text : List Char) (start stop : Nat) :
    Match.slice text start stop = (text.take stop).drop start := by
  rw [Match.slice, List.drop_take]

/-- **The gaps and the stretches make up the text.** -/
theorem interleave_slices (ho : InOrder text.length place spans) :
    interleave (gaps text place spans) (spans.map fun s => Match.slice text s.1 s.2) =
      text.drop place := by
  induction spans generalizing place with
  | nil => simp [gaps, interleave]
  | cons span rest ih =>
      obtain ⟨start, stop⟩ := span
      obtain ⟨hplace, hstop, -, hrest⟩ := ho
      rw [gaps, List.map_cons, interleave, ih hrest, slice_eq_drop_take]
      exact (drop_eq_append_slice hplace hstop).symm

/-- **The gaps and the new texts make up what replacing leaves.** -/
theorem weaveFrom_eq_interleave (text : List Char) (place : Nat)
    (places : List ((Nat × Nat) × List Char)) :
    weaveFrom text place places =
      interleave (gaps text place (places.map Prod.fst)) (places.map Prod.snd) := by
  induction places generalizing place with
  | nil => simp [weaveFrom, gaps, interleave]
  | cons first rest ih =>
      obtain ⟨⟨start, stop⟩, new⟩ := first
      simp only [weaveFrom, List.map_cons, gaps, interleave, slice_eq_drop_take, ih]

/-- Every place among the characters of a text is a place between characters. -/
theorem isBoundary_byteOffset (text : String) (n : Nat) :
    IsBoundary text (byteOffset text.toList n) := by
  refine isBoundary_iff.mpr ⟨String.ofList (text.toList.take n),
    String.ofList (text.toList.drop n), ?_, ?_⟩
  · rw [← String.ofList_append, List.take_append_drop, String.ofList_toList]
  · rw [byteOffset, ← byteLength_toList, String.toList_ofList]

end Text

open Text

/-! ## The matches of a pattern -/

namespace Match

/-- Where a match stands. -/
def span (m : Match) : Nat × Nat := (m.start, m.stop)

/-- Matches that divide a text. -/
structure Divide (content : String) (found : List Match) : Prop where
  /-- They lie in the text from left to right, without overlap. -/
  inOrder : InOrder content.toList.length 0 (found.map span)
  /-- They begin and end between characters. -/
  boundaries : ∀ m ∈ found,
    IsBoundary content (m.byteStart content) ∧ IsBoundary content (m.byteStop content)
  /-- The first group of each is what it has matched. -/
  whole : ∀ m ∈ found,
    m.groups.head? = some (some (String.ofList (slice content.toList m.start m.stop)))
  /-- There is a gap before each, and one behind the last. -/
  count : (gaps content.toList 0 (found.map span)).length = found.length + 1
  /-- With the gaps between them they make up the text. -/
  parts : interleave (gaps content.toList 0 (found.map span))
    (found.map fun m => slice content.toList m.start m.stop) = content.toList

end Match

/-- **The matches of a pattern divide every text.** -/
theorem Pattern.divide_findAll (p : Pattern) (content : String) :
    Match.Divide content (p.findAll content) where
  inOrder := p.findAll_inOrder content
  boundaries := fun m _ =>
    ⟨isBoundary_byteOffset content m.start, isBoundary_byteOffset content m.stop⟩
  whole := by
    intro m hm
    obtain ⟨found, -, rfl⟩ := List.mem_map.mp hm
    rfl
  count := by rw [length_gaps, List.length_map]
  parts := by
    have hparts := interleave_slices (p.findAll_inOrder content)
    rw [List.map_map, List.drop_zero] at hparts
    exact hparts

/-! ## What a rule replaces -/

namespace Rule

variable {rule : Rule} {p : Pattern} {content : String} {m : Match} {rest : List Match}

/-- What a text becomes when some matches are replaced. -/
def rewritten (rule : Rule) (p : Pattern) (content : String) (found : List Match) : String :=
  String.ofList (interleave (gaps content.toList 0 (found.map Match.span))
    (found.map (rule.replacement.insertion p)))

/-- **The edit of a pattern rule**, if its scope takes in any match. -/
theorem edit?_of_targets (hm : rule.matcher = .pattern p)
    (ht : targets p rule.scope content = m :: rest) :
    rule.edit? content =
      some (rule.rewritten p content (m :: rest), (m :: rest).length) := by
  have hspans : ((m :: rest).map fun m =>
      ((m.start, m.stop), rule.replacement.insertion p m)).map Prod.fst =
        (m :: rest).map Match.span := by
    rw [List.map_map]
    rfl
  have hnew : ((m :: rest).map fun m =>
      ((m.start, m.stop), rule.replacement.insertion p m)).map Prod.snd =
        (m :: rest).map (rule.replacement.insertion p) := by
    rw [List.map_map]
    rfl
  simp only [edit?_of_pattern hm, ht]
  rw [weave, weaveFrom_eq_interleave, hspans, hnew]
  rfl

/-- If there is one match, every scope takes it in. -/
theorem targets_of_length_eq_one (h : (p.findAll content).length = 1) (scope : Scope) :
    targets p scope content = p.findAll content := by
  cases scope with
  | all => rfl
  | first => rw [targets_first, List.take_of_length_le (Nat.le_of_eq h)]

/--
**A pattern rule replaces exactly the matches of its scope**, if its guard is not satisfied. The
matches divide the text, and the first of all matches is the one that is found. If there is none,
the text stays as it is, and the rule fails if it is required. A rule for the first match replaces
that one alone; a rule for all matches keeps every gap and puts one text in the place of each
match, and it reports how many there are. That text is a literal as it is, or a template with the
groups of the match itself. If there is one match the scope does not matter.
-/
theorem pattern_exact (hm : rule.matcher = .pattern p)
    (hg : rule.guardSatisfied content = false) :
    Match.Divide content (p.findAll content)
      ∧ (p.findAll content).head? = p.find? content
      ∧ (p.findAll content = [] →
        rule.apply content = (content, if rule.required then .failed else .absent))
      ∧ (∀ m rest, p.findAll content = m :: rest → rule.scope = .first →
        rule.apply content =
          (String.ofList (content.toList.take m.start ++ rule.replacement.insertion p m
            ++ content.toList.drop m.stop), .applied 1))
      ∧ (p.findAll content ≠ [] → rule.scope = .all →
        rule.apply content =
          (String.ofList (interleave
            (gaps content.toList 0 ((p.findAll content).map Match.span))
            ((p.findAll content).map (rule.replacement.insertion p))),
            .applied (p.findAll content).length))
      ∧ (∀ text, rule.replacement = .literal text → ∀ m,
        rule.replacement.insertion p m = text.toList)
      ∧ (∀ template, rule.replacement = .template template → ∀ m,
        rule.replacement.insertion p m = Template.expand p.groupIndex? m template)
      ∧ ((p.findAll content).length = 1 →
        ∀ scope, { rule with scope }.apply content = rule.apply content) := by
  have hhead := p.head?_findAll content
  refine ⟨p.divide_findAll content, hhead, ?_, ?_, ?_, ?_, ?_, ?_⟩
  · -- the search for all matches and the search for one find nothing together
    intro hnone
    rw [hnone] at hhead
    refine apply_of_absent hg ?_
    rw [hm, Matcher.isMatch, Pattern.isMatch, ← hhead]
    rfl
  · intro m rest hfound hscope
    have hfirst : p.find? content = some m := by
      rw [← hhead, hfound]
      rfl
    refine apply_of_edit hg ?_
    simp only [edit?, hm, hscope, hfirst, Option.map_some]
  · intro hsome hscope
    obtain ⟨m, rest, hfound⟩ := List.exists_cons_of_ne_nil hsome
    have ht : targets p rule.scope content = m :: rest := by rw [hscope, targets, hfound]
    rw [apply_of_edit hg (edit?_of_targets hm ht), hfound]
    rfl
  · intro text hliteral m
    rw [hliteral]
    rfl
  · intro template htemplate m
    rw [htemplate]
    rfl
  · intro hone scope
    have hedit : { rule with scope }.edit? content = rule.edit? content := by
      have hscope := targets_of_length_eq_one hone scope
      have hown := targets_of_length_eq_one hone rule.scope
      have hm' : { rule with scope }.matcher = .pattern p := hm
      rw [edit?_of_pattern hm, edit?_of_pattern hm', hscope, hown]
    simp only [apply, hedit]
    rfl

/-- A rule for every `b`, with a `c` behind it or without. -/
def bracketing (p : Pattern) : Rule where
  id := "bracket"
  matcher := .pattern p
  replacement := .template "[$1$0]"
  scope := .all
  guard := some (.literal "done")

theorem pattern_exact_bracketing :
    ∃ p, Pattern.ofSource "b(c?)" {} = .ok p
      ∧ (bracketing p).guardSatisfied "äbcüb" = false
      ∧ (p.findAll "äbcüb").length = 2
      ∧ (bracketing p).apply "äbcüb" = ("ä[cbc]ü[b]", .applied 2) := by
  have heval : (Pattern.ofSource "b(c?)" {}).map (fun p => ((p.findAll "äbcüb").map Match.span,
      (p.findAll "äbcüb").map (Replacement.insertion (.template "[$1$0]") p))) =
        .ok ([(1, 3), (4, 5)], ["[cbc]".toList, "[b]".toList]) := by
    decide +kernel
  cases hp : Pattern.ofSource "b(c?)" {} with
  | error err => simp [hp, Except.map] at heval
  | ok p =>
      simp only [hp, Except.map, Except.ok.injEq, Prod.mk.injEq] at heval
      obtain ⟨hspans, hnew⟩ := heval
      have hg : (bracketing p).guardSatisfied "äbcüb" = false := by
        show (Matcher.literal "done").isMatch "äbcüb" = false
        decide
      have hlength : (p.findAll "äbcüb").length = 2 := by
        simpa using congrArg List.length hspans
      have hsome : p.findAll "äbcüb" ≠ [] := by
        intro hnone
        rw [hnone] at hlength
        cases hlength
      have hm : (bracketing p).matcher = .pattern p := rfl
      have happly := (pattern_exact hm hg).2.2.2.2.1 hsome rfl
      rw [hspans, show (bracketing p).replacement = .template "[$1$0]" from rfl, hnew,
        hlength] at happly
      exact ⟨p, rfl, hg, hlength, happly⟩

end Rule

end Emend

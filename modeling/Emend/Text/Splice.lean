/-!
# Putting new text between places

`weave text places` replaces stretches of a text. The stretches are given from
left to right by their ends, each with the text that takes its place; what lies
between them stays.
-/

namespace Emend.Text

/-- Replace stretches; everything before `place` has been dealt with. -/
def weaveFrom (text : List Char) : (place : Nat) → List ((Nat × Nat) × List Char) → List Char
  | place, [] => text.drop place
  | place, ((start, stop), new) :: rest =>
    (text.take start).drop place ++ new ++ weaveFrom text stop rest

/-- Replace stretches of a text. -/
def weave (text : List Char) (places : List ((Nat × Nat) × List Char)) : List Char :=
  weaveFrom text 0 places

/-- One stretch is replaced between what comes before and after it. -/
theorem weave_singleton (text : List Char) (start stop : Nat) (new : List Char) :
    weave text [((start, stop), new)] = text.take start ++ new ++ text.drop stop := by
  simp [weave, weaveFrom]

/-- Every new text is part of the outcome. -/
theorem infix_weaveFrom {text new : List Char} {span : Nat × Nat} {place : Nat}
    {places : List ((Nat × Nat) × List Char)} (h : (span, new) ∈ places) :
    new <:+: weaveFrom text place places := by
  induction places generalizing place with
  | nil => cases h
  | cons first rest ih =>
    obtain ⟨⟨start, stop⟩, inserted⟩ := first
    rw [weaveFrom]
    rcases List.mem_cons.mp h with he | hr
    · cases he
      exact ⟨_, _, rfl⟩
    · exact (ih hr).trans (List.suffix_append _ _).isInfix

end Emend.Text

/-!
# The first occurrence of a text

`cut? needle text` splits a text around the first occurrence of another one. The
search is over characters; an occurrence among the bytes of the two texts is
always one among their characters, since no character's bytes begin inside of
another's.

* `cut?_eq_some`: the two parts and the needle make up the text.
* `cut?_eq_none`: no split around the needle exists.
* `occurs_iff`: hence the needle occurs if and only if it is an infix of the text.
-/

namespace Emend.Text

/-- The search, with the characters that have been passed in reverse order. -/
def cutFrom (needle : List Char) : (passed : List Char) → List Char →
    Option (List Char × List Char)
  | passed, [] => if needle.isEmpty then some (passed.reverse, []) else none
  | passed, c :: cs =>
    if needle.isPrefixOf (c :: cs) then some (passed.reverse, (c :: cs).drop needle.length)
    else cutFrom needle (c :: passed) cs

/-- What stands before and after the first occurrence of the needle. -/
def cut? (needle text : List Char) : Option (List Char × List Char) := cutFrom needle [] text

theorem cutFrom_eq_some {needle passed text before after : List Char}
    (h : cutFrom needle passed text = some (before, after)) :
    passed.reverse ++ text = before ++ needle ++ after := by
  induction text generalizing passed with
  | nil =>
    cases needle with
    | nil => simp [cutFrom] at h; simp [← h.1, ← h.2]
    | cons => simp [cutFrom] at h
  | cons c cs ih =>
    rw [cutFrom] at h
    split at h
    · rename_i hp
      obtain ⟨rest, hr⟩ := List.isPrefixOf_iff_prefix.mp hp
      simp only [Option.some.injEq, Prod.mk.injEq] at h
      rw [← h.1, ← h.2, ← hr]
      simp
    · simpa using ih h

theorem cut?_eq_some {needle text before after : List Char}
    (h : cut? needle text = some (before, after)) : text = before ++ needle ++ after := by
  simpa using cutFrom_eq_some h

theorem cutFrom_eq_none {needle passed text : List Char}
    (h : cutFrom needle passed text = none) (before after : List Char) :
    text ≠ before ++ needle ++ after := by
  induction text generalizing passed before with
  | nil =>
    intro hs
    simp only [List.append_assoc, List.nil_eq, List.append_eq_nil_iff] at hs
    simp [cutFrom, hs.2.1] at h
  | cons c cs ih =>
    rw [cutFrom] at h
    split at h
    · simp at h
    · rename_i hp
      intro hs
      cases before with
      | nil =>
        apply hp
        rw [List.isPrefixOf_iff_prefix]
        exact ⟨after, by simpa using hs.symm⟩
      | cons b bs =>
        simp only [List.cons_append, List.cons.injEq] at hs
        exact ih h bs hs.2

theorem cut?_eq_none {needle text : List Char} (h : cut? needle text = none)
    (before after : List Char) : text ≠ before ++ needle ++ after :=
  cutFrom_eq_none h before after

/-- The empty text occurs at the very start. -/
theorem cut?_nil (text : List Char) : cut? [] text = some ([], text) := by
  cases text <;> simp [cut?, cutFrom]

/-- Does the needle occur in the text? -/
def occurs (needle text : List Char) : Bool := (cut? needle text).isSome

theorem occurs_iff {needle text : List Char} : occurs needle text ↔ needle <:+: text := by
  unfold occurs
  cases h : cut? needle text with
  | none =>
    simp only [Option.isSome_none, Bool.false_eq_true, false_iff]
    rintro ⟨before, after, hs⟩
    exact cut?_eq_none h before after hs.symm
  | some parts =>
    obtain ⟨before, after⟩ := parts
    simp only [Option.isSome_some, true_iff]
    exact ⟨before, after, (cut?_eq_some h).symm⟩

end Emend.Text

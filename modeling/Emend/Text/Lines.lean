/-!
# Lines

A text is cut into lines behind each line end. A line end is a line feed, a
carriage return, or a carriage return with a line feed, and it belongs to the
line that it ends; only the last line may lack one.

* `lines_flatten`: put together, the lines are the text, so that `lines_inj` holds: no other text
  has the same ones.
-/

namespace Emend.Text

/-- Put a character at the front of the first line, or on a line of its own. -/
def consFirst (c : Char) : List (List Char) → List (List Char)
  | [] => [[c]]
  | line :: rest => (c :: line) :: rest

/-- The lines of a text, each with its line end. -/
def charLines : List Char → List (List Char)
  | [] => []
  | '\r' :: '\n' :: cs => ['\r', '\n'] :: charLines cs
  | c :: cs =>
    if c = '\n' ∨ c = '\r' then [c] :: charLines cs else consFirst c (charLines cs)

/-- The lines of a text, each with its line end. -/
def lines (text : String) : List String := (charLines text.toList).map String.ofList

/-- Does a line have its line end? -/
def endsLine (line : String) : Bool :=
  match line.toList.getLast? with
  | some c => c = '\n' || c = '\r'
  | none => false

theorem flatten_consFirst (c : Char) (ls : List (List Char)) :
    (consFirst c ls).flatten = c :: ls.flatten := by
  cases ls <;> simp [consFirst]

theorem flatten_charLines (cs : List Char) : (charLines cs).flatten = cs := by
  fun_induction charLines cs with
  | case1 => rfl
  | case2 cs ih => simp [ih]
  | case3 c cs hn hc ih => simp [ih]
  | case4 c cs hn hc ih => simp [flatten_consFirst, ih]

theorem lines_flatten (text : String) :
    ((lines text).map String.toList).flatten = text.toList := by
  have h : (String.toList ∘ String.ofList) = id := by
    funext cs
    simp
  simp [lines, List.map_map, h, flatten_charLines]

theorem lines_inj {text other : String} (h : lines text = lines other) : text = other := by
  rw [← String.toList_inj, ← lines_flatten text, h, lines_flatten]

end Emend.Text

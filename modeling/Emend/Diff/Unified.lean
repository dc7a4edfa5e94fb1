import Emend.Diff.Block
import Emend.Diff.Settle.Sides
import Emend.Text.Lines

/-!
# Line differences of two texts

* `lineScript` is the settled script between the lines of two texts; that it is one
  is `oldSide_lineScript` and `newSide_lineScript`.
* `Tally` counts the lines that it adds and removes.
* `unified` shows it in the unified format, with three lines of context.
* `changedLines` lists what it adds and removes, without context.
-/

namespace Emend.Diff

/-- The script between the lines of two texts. -/
def lineScript (before after : String) : Script String :=
  settle (between (Text.lines before) (Text.lines after))

theorem oldSide_lineScript (before after : String) :
    oldSide (lineScript before after) = Text.lines before := by
  rw [lineScript, oldSide_settle, oldSide_between]

theorem newSide_lineScript (before after : String) :
    newSide (lineScript before after) = Text.lines after := by
  rw [lineScript, newSide_settle, newSide_between]

/-- How many lines a change adds and removes. -/
structure Tally where
  added : Nat := 0
  removed : Nat := 0
  deriving DecidableEq, Repr, Inhabited

/-- How many items a script has in the edits of a kind. -/
def countItems (kind : Kind) (s : Script String) : Nat :=
  ((s.filter (·.kind = kind)).flatMap (·.items)).length

/-- How many lines a script adds and removes. -/
def Tally.ofScript (s : Script String) : Tally :=
  { added := countItems .insert s, removed := countItems .delete s }

/-- How many lines the change from one text to another adds and removes; equal texts are not
compared line by line. -/
def Tally.between (before after : String) : Tally :=
  if before = after then {} else .ofScript (lineScript before after)

/-! ## The unified format -/

/-- What follows a line that lacks its line end. -/
def missingEnd : String := "\n\\ No newline at end of file\n"

/-- A line with the mark that says where it belongs. -/
def markedLine (mark line : String) : String :=
  mark ++ line ++ (if Text.endsLine line then "" else missingEnd)

/-- The lines of a block. -/
def Block.unified : Block String → List String
  | .same _ _ items => items.map (markedLine " ")
  | .change _ _ removed added =>
    removed.map (markedLine "-") ++ added.map (markedLine "+")

/-- A stretch of lines, counted from one; an empty stretch is named by the line before it. -/
def rangeText (start stop : Nat) : String :=
  let length := stop - start
  if length = 1 then toString (start + 1)
  else
    toString (if length = 0 then start else start + 1) ++ "," ++ toString length

/-- The line above a hunk. -/
def hunkHeader (first last : Block String) : String :=
  "@@ -" ++ rangeText first.oldStart last.oldStop ++
    " +" ++ rangeText first.newStart last.newStop ++ " @@\n"

/-- A hunk with its header. -/
def hunkText (hunk : List (Block String)) : String :=
  match hunk.head?, hunk.getLast? with
  | some first, some last => hunkHeader first last ++ String.join (hunk.flatMap Block.unified)
  | _, _ => ""

/-- The difference of two texts in the unified format; empty if there is none. -/
def unified (name before after : String) : String :=
  match hunks (blocks (lineScript before after)) with
  | [] => ""
  | hs => "--- " ++ name ++ "\n+++ " ++ name ++ "\n" ++ String.join (hs.map hunkText)

/-! ## Changes alone -/

/-- A line with a mark, always with a line end. -/
def endedLine (mark line : String) : String :=
  mark ++ line ++ (if Text.endsLine line then "" else "\n")

/-- The lines that a block removes and adds. -/
def Block.changedLines : Block String → List String
  | .same .. => []
  | .change _ _ removed added => removed.map (endedLine "-") ++ added.map (endedLine "+")

/-- The lines that the change from one text to another removes and adds. -/
def changedLines (before after : String) : String :=
  String.join ((blocks (lineScript before after)).flatMap Block.changedLines)

end Emend.Diff

import Emend.Text.Offset

/-!
# Matches

What a matcher has found in a text: where it stands, and what its groups hold.
Places are counted in characters.
-/

namespace Emend

/-- A match in a text; its first group is the whole of it. -/
structure Match where
  start : Nat
  stop : Nat
  groups : List (Option String)
  deriving DecidableEq, Repr

namespace Match

/-- The characters between two places. -/
def slice (text : List Char) (start stop : Nat) : List Char :=
  (text.drop start).take (stop - start)

/-- The text of a group, empty for one that is unknown or took no part. -/
def group (m : Match) (index : Nat) : String := (m.groups[index]?.getD none).getD ""

/-- Where the match starts, in bytes. -/
def byteStart (m : Match) (text : String) : Nat := Text.byteOffset text.toList m.start

/-- Where the match ends, in bytes. -/
def byteStop (m : Match) (text : String) : Nat := Text.byteOffset text.toList m.stop

end Match

end Emend

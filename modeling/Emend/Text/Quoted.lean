import Emend.Unicode.Newest

/-!
# Quoted text

A text in double quotes in which every character that cannot be seen on its own
is written as an escape: controls, unassigned and private characters, spaces
other than the common one, fillers and other characters that are not meant to be
displayed, and marks that would join the character before them.
-/

namespace Emend.Text

open Unicode

/-- The characters that print as themselves when nothing stands before them to be joined. -/
def printable : CharSet :=
  (CharSet.range 0x20 0x20).union
    (Newest.assigned.diff
      ((Category.sets
          [.control, .format, .privateUse, .lineSeparator, .paragraphSeparator,
            .spaceSeparator]).union
        (Property.tabled "defaultignorablecodepoint")))

/--
The marks that would join the character before them. The two halfwidth voicing
marks extend a grapheme as well, but they are letters and take a place of their own.
-/
def joining : CharSet := Newest.graphemeExtend.diff Category.modifierLetter.set

/-- A character inside of quotes. -/
def quotedChar (c : Char) : List Char :=
  match c with
  | '\"' => ['\\', '\"']
  | '\\' => ['\\', '\\']
  | '\n' => ['\\', 'n']
  | '\r' => ['\\', 'r']
  | '\t' => ['\\', 't']
  | '\x00' => ['\\', '0']
  | c =>
    if printable.contains c && !joining.contains c then [c]
    else "\\u\x7b".toList ++ Nat.toDigits 16 c.toNat ++ "\x7d".toList

/-- A text in quotes. -/
def quoted (s : String) : String :=
  String.ofList ('\"' :: s.toList.flatMap quotedChar ++ ['\"'])

end Emend.Text

/-!
# White space

The characters that Unicode calls white space, and texts that have no others.
-/

namespace Emend.Text

/-- Is the character white space? -/
def isBlankChar (c : Char) : Bool :=
  let n := c.toNat
  (9 ≤ n && n ≤ 13) || n = 0x20 || n = 0x85 || n = 0xA0 || n = 0x1680 ||
    (0x2000 ≤ n && n ≤ 0x200A) || n = 0x2028 || n = 0x2029 || n = 0x202F || n = 0x205F ||
    n = 0x3000

/-- Does the text consist of white space only? The empty text does. -/
def isBlank (s : String) : Bool := s.toList.all isBlankChar

end Emend.Text

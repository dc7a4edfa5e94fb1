/-!
# Places in bytes

Places in a text are counted in characters; reports count them in the bytes of
the text's UTF-8 form.
-/

namespace Emend.Text

/-- The length in bytes. -/
def byteLength : List Char → Nat
  | [] => 0
  | c :: cs => c.utf8Size + byteLength cs

/-- The number of bytes before the `n`th character. -/
def byteOffset (cs : List Char) (n : Nat) : Nat := byteLength (cs.take n)

end Emend.Text

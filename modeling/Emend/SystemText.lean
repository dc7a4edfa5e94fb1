/-!
# Texts of the system

The names of files and the words on a command line are strings of bytes. Mostly
the bytes are those of a text in UTF-8, but nothing sees to it.

* `SystemText.octets` is the view: two of them are the same if they have the same
  bytes, and they come in the order of their bytes.
* `SystemText.text?` gives the text, if there is one.
* `SystemText.display` is what a reader is shown. Each run of bytes that begins a
  character without ending it, and each byte that begins none, shows as one mark.
-/

namespace Emend

/-- The contents of files are compared byte by byte. -/
instance decidableEqContents : DecidableEq ByteArray := fun a b =>
  decidable_of_iff (a.data = b.data) ByteArray.ext_iff.symm

/-- What the system takes for a text: a text, or bytes that are none. -/
inductive SystemText
  | text (s : String)
  | raw (bytes : ByteArray) (h : ¬ bytes.IsValidUTF8)
  deriving DecidableEq

instance : Coe String SystemText := ⟨.text⟩

namespace SystemText

/-- The bytes. -/
def octets : SystemText → List UInt8
  | text s => s.toUTF8.data.toList
  | raw bytes _ => bytes.data.toList

/-- What has some bytes. -/
def ofOctets (octets : List UInt8) : SystemText :=
  let bytes : ByteArray := ⟨octets.toArray⟩
  if h : bytes.IsValidUTF8 then text (String.fromUTF8 bytes h) else raw bytes h

/-- The text, if it is one. -/
def text? : SystemText → Option String
  | text s => some s
  | raw _ _ => none

/-- Is nothing there at all? -/
def isEmpty : SystemText → Bool
  | text s => s.isEmpty
  | raw _ _ => false

@[simp] theorem isEmpty_iff {s : SystemText} : s.isEmpty = true ↔ s = text "" := by
  cases s <;> simp [isEmpty]

@[simp] theorem isEmpty_eq_false_iff {s : SystemText} : s.isEmpty = false ↔ s ≠ text "" := by
  rw [← Bool.not_eq_true, isEmpty_iff]

/-- The bytes behind the last dot, unless that dot comes first. -/
def ending? (s : SystemText) : Option (List UInt8) :=
  let back := s.octets.reverse
  let ending := back.takeWhile (· ≠ '.'.toUInt8)
  match back.drop ending.length with
  | _ :: _ :: _ => some ending.reverse
  | _ => none

/-! ## The order of names -/

/-- The bytes as numbers, which is what the order goes by. -/
def key (s : SystemText) : List Nat := s.octets.map UInt8.toNat

instance : LT SystemText := ⟨fun a b => a.key < b.key⟩

instance : DecidableLT SystemText := fun a b => inferInstanceAs (Decidable (a.key < b.key))

/-! ## What a reader is shown -/

/-- What a character under way still lacks: how many bytes, the bounds of the next one, and the
bits so far. -/
structure Lack where
  count : Nat
  least : Nat
  greatest : Nat
  bits : Nat

/-- The mark in the place of what is no character. -/
def mark : Char := '\uFFFD'

/-- What a byte begins: a character that is complete, one that lacks more, or none. -/
def begin (b : Nat) : List Char × Option Lack :=
  if b < 0x80 then ([Char.ofNat b], none)
  else if 0xC2 ≤ b ∧ b ≤ 0xDF then ([], some ⟨1, 0x80, 0xBF, b - 0xC0⟩)
  else if b = 0xE0 then ([], some ⟨2, 0xA0, 0xBF, 0⟩)
  else if b = 0xED then ([], some ⟨2, 0x80, 0x9F, 0xD⟩)
  else if 0xE1 ≤ b ∧ b ≤ 0xEF then ([], some ⟨2, 0x80, 0xBF, b - 0xE0⟩)
  else if b = 0xF0 then ([], some ⟨3, 0x90, 0xBF, 0⟩)
  else if 0xF1 ≤ b ∧ b ≤ 0xF3 then ([], some ⟨3, 0x80, 0xBF, b - 0xF0⟩)
  else if b = 0xF4 then ([], some ⟨3, 0x80, 0x8F, 4⟩)
  else ([mark], none)

/-- What is shown once another byte has been read, and what is lacking then. -/
def step : Option Lack → Nat → List Char × Option Lack
  | none, b => begin b
  | some l, b =>
    if l.least ≤ b ∧ b ≤ l.greatest then
      let bits := 64 * l.bits + (b - 0x80)
      if l.count = 1 then ([Char.ofNat bits], none)
      else ([], some ⟨l.count - 1, 0x80, 0xBF, bits⟩)
    else
      -- the character under way ends as a mark, and the byte is read afresh
      let (shown, lack) := begin b
      (mark :: shown, lack)

/-- What is shown of some bytes, when a character may be under way. -/
def shownFrom : Option Lack → List UInt8 → List Char
  | none, [] => []
  | some _, [] => [mark]
  | lack, b :: rest =>
    let (shown, lack) := step lack b.toNat
    shown ++ shownFrom lack rest

/-- What a reader is shown. -/
def display : SystemText → String
  | text s => s
  | raw bytes _ => String.ofList (shownFrom none bytes.data.toList)

example : shownFrom none [0x61, 0xE2, 0x82, 0xAC, 0xE2, 0x82, 0x62, 0xFF] =
    ['a', '€', mark, 'b', mark] := by
  decide

instance : Repr SystemText := ⟨fun s _ => repr s.display⟩

end SystemText

end Emend

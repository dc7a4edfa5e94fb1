/-!
# JSON values and their text

Values whose objects keep their fields in the order in which they were given,
and their two written forms.

* `Json.compact` writes a value without any space.
* `Json.pretty` writes every element of a list and every field of an object on
  its own line, two spaces deeper than what holds it.
* `Json.sorted` is the value with all fields in the order of their keys.
-/

namespace Emend

/-- A value; numbers are whole and not negative. -/
inductive Json
  | null
  | bool (b : Bool)
  | number (n : Nat)
  | text (s : String)
  | list (items : List Json)
  | object (fields : List (String × Json))

namespace Json

/-! ## Texts -/

/-- A control character that has no short escape. -/
def escapedControl (c : Char) : List Char :=
  let digits := Nat.toDigits 16 c.toNat
  '\\' :: 'u' :: List.replicate (4 - digits.length) '0' ++ digits

/-- A character inside of a text. -/
def escapedChar (c : Char) : List Char :=
  match c with
  | '\"' => ['\\', '\"']
  | '\\' => ['\\', '\\']
  | '\n' => ['\\', 'n']
  | '\r' => ['\\', 'r']
  | '\t' => ['\\', 't']
  | '\x08' => ['\\', 'b']
  | '\x0c' => ['\\', 'f']
  | c => if c.toNat < 0x20 then escapedControl c else [c]

/-- A text in quotes. -/
def quotedText (s : String) : String :=
  String.ofList ('\"' :: s.toList.flatMap escapedChar ++ ['\"'])

/-! ## Values -/

/-- The text of a value that holds no others. -/
def word : Bool → String
  | true => "true"
  | false => "false"

mutual

/-- The written form without spaces. -/
def compact : Json → String
  | null => "null"
  | bool b => word b
  | number n => toString n
  | text s => quotedText s
  | list items => "[" ++ String.intercalate "," (compactItems items) ++ "]"
  | object fields => "\x7b" ++ String.intercalate "," (compactFields fields) ++ "\x7d"

/-- The written forms of some values. -/
def compactItems : List Json → List String
  | [] => []
  | v :: rest => v.compact :: compactItems rest

/-- The written forms of some fields. -/
def compactFields : List (String × Json) → List String
  | [] => []
  | (k, v) :: rest => (quotedText k ++ ":" ++ v.compact) :: compactFields rest

end

/-- The start of a line at some depth. -/
def margin (depth : Nat) : String := String.ofList (List.replicate (2 * depth) ' ')

/-- Lines between brackets that stand at some depth; without lines the brackets touch. -/
def bracketed (opening closing : String) (depth : Nat) : List String → String
  | [] => opening ++ closing
  | lines =>
    opening ++ "\n" ++
      String.intercalate ",\n" (lines.map (margin (depth + 1) ++ ·)) ++
      "\n" ++ margin depth ++ closing

mutual

/-- The written form over several lines, of a value that stands at some depth. -/
def prettyAt (depth : Nat) : Json → String
  | null => "null"
  | bool b => word b
  | number n => toString n
  | text s => quotedText s
  | list items => bracketed "[" "]" depth (prettyItems (depth + 1) items)
  | object fields => bracketed "\x7b" "\x7d" depth (prettyFields (depth + 1) fields)

/-- The written forms of some values. -/
def prettyItems (depth : Nat) : List Json → List String
  | [] => []
  | v :: rest => v.prettyAt depth :: prettyItems depth rest

/-- The written forms of some fields. -/
def prettyFields (depth : Nat) : List (String × Json) → List String
  | [] => []
  | (k, v) :: rest => (quotedText k ++ ": " ++ v.prettyAt depth) :: prettyFields depth rest

end

/-- The written form over several lines. -/
def pretty (v : Json) : String := v.prettyAt 0

/-! ## Sorted fields -/

/-- Put a field where its key belongs among fields with increasing keys. -/
def insertField (k : String) (v : Json) : List (String × Json) → List (String × Json)
  | [] => [(k, v)]
  | (k', v') :: rest =>
    if k' < k then (k', v') :: insertField k v rest else (k, v) :: (k', v') :: rest

mutual

/-- The value with the fields of every object in the order of their keys. -/
def sorted : Json → Json
  | list items => list (sortedItems items)
  | object fields => object (sortedFields fields)
  | v => v

/-- Some values with their fields in order. -/
def sortedItems : List Json → List Json
  | [] => []
  | v :: rest => v.sorted :: sortedItems rest

/-- Some fields in order. -/
def sortedFields : List (String × Json) → List (String × Json)
  | [] => []
  | (k, v) :: rest => insertField k v.sorted (sortedFields rest)

end

end Json

end Emend

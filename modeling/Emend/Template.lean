import Emend.Match

/-!
# Templates

A template is a text in which `$1`, `$name` and `${name}` stand for the groups
of a match.

* `$$` is a dollar sign, and a dollar sign that begins none of the forms stands
  for itself.
* A name without braces is the longest run of ASCII letters, digits and `_`.
* A name that reads as a number is the index of a group.
* A group that is unknown or took no part stands for the empty text.
-/

namespace Emend.Template

/-- A part of a template. -/
inductive Piece
  | char (c : Char)
  | group (name : List Char)
  deriving DecidableEq, Repr

/-- May the character stand in a name without braces? -/
def isNameChar (c : Char) : Bool := c.isAlphanum || c = '_'

/-- Where the reader of a template stands. -/
inductive Mode
  | text
  | dollar
  | name (soFar : List Char)
  | braced (soFar : List Char)

/-- The parts of a template; `soFar` holds the name under way, its latest character first. -/
def piecesFrom : Mode → List Char → List Piece
  | .text, [] => []
  | .dollar, [] => [.char '$']
  | .name soFar, [] => [.group soFar.reverse]
  | .braced _, [] => []
  | .text, c :: cs => if c = '$' then piecesFrom .dollar cs else .char c :: piecesFrom .text cs
  | .dollar, c :: cs =>
    if c = '$' then .char '$' :: piecesFrom .text cs
    else if c = '\x7b' ∧ '\x7d' ∈ cs then piecesFrom (.braced []) cs
    else if isNameChar c then piecesFrom (.name [c]) cs
    else .char '$' :: .char c :: piecesFrom .text cs
  | .name soFar, c :: cs =>
    if isNameChar c then piecesFrom (.name (c :: soFar)) cs
    else if c = '$' then .group soFar.reverse :: piecesFrom .dollar cs
    else .group soFar.reverse :: .char c :: piecesFrom .text cs
  | .braced soFar, c :: cs =>
    if c = '\x7d' then .group soFar.reverse :: piecesFrom .text cs
    else piecesFrom (.braced (c :: soFar)) cs

/-- The parts of a template. -/
def pieces (template : String) : List Piece := piecesFrom .text template.toList

/-- The number that a name reads as: digits after an optional plus sign, below `2 ^ 64`. -/
def indexOf? (name : List Char) : Option Nat :=
  let digits := match name with
    | '+' :: rest => rest
    | rest => rest
  if digits.isEmpty || !digits.all Char.isDigit then none
  else
    let n := digits.foldl (fun n d => 10 * n + (d.toNat - 48)) 0
    if n < UInt64.size then some n else none

/-- What a part stands for in a match; `index?` knows the groups that have a name. -/
def Piece.expand (index? : String → Option Nat) (m : Match) : Piece → List Char
  | .char c => [c]
  | .group name =>
    match indexOf? name <|> index? (String.ofList name) with
    | some i => (m.group i).toList
    | none => []

/-- The text that a template stands for in a match. -/
def expand (index? : String → Option Nat) (m : Match) (template : String) : List Char :=
  (pieces template).flatMap (Piece.expand index? m)

end Emend.Template

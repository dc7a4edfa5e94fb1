import Emend.Toml.Scalar
import Emend.Toml.Tree

/-!
# Reading TOML documents

A document is a list of sections: the lines before the first header, and then
each header with the lines below it. `Reading.readDocument` reads the lines, and
`Value.ofText` puts the tables of the sections together.

Values are read by recursion on how deeply they may still be nested. What is
repeated at one depth consumes characters, so the length of the rest bounds it.
-/

namespace Emend.Toml

/-- Reading the rest of a document with the chance to refuse it. -/
abbrev Reading := StateT (List Char) (Except TomlError)

/-- A value with the dotted key that it is assigned to; the last part stands apart. -/
structure Assignment where
  path : List String
  key : String
  value : Value

namespace Reading

/-! ## Blanks, comments and line ends -/

/-- Is the character a space or a tab? -/
def isSpace (c : Char) : Bool := c = ' ' || c = '\t'

/-- May the character stand in a comment or a string as it is? -/
def isPlain (c : Char) : Bool := c = '\t' || (0x20 ≤ c.toNat && c.toNat ≠ 0x7F)

/-- The next character. -/
def peek? : Reading (Option Char) := return (← get).head?

/-- Pass some characters. -/
def skip (n : Nat) : Reading Unit := modify (·.drop n)

/-- Pass spaces and tabs. -/
def skipSpaces : Reading Unit := modify (·.dropWhile isSpace)

/-- Does the text come next? -/
def comes (text : String) : Reading Bool := return text.toList.isPrefixOf (← get)

/-- Pass a text if it comes next. -/
def skipText (text : String) : Reading Bool := do
  if ← comes text then
    skip text.length
    return true
  else return false

/-- Pass a line end if it comes next. -/
def skipLineEnd : Reading Bool := do
  if ← skipText "\n" then return true else skipText "\r\n"

/-- Pass a comment if it comes next; the end of its line remains. -/
def skipComment : Reading Unit := do
  if ← skipText "#" then
    modify (·.dropWhile isPlain)
    let rest ← get
    match rest with
    | [] => return
    | '\n' :: _ => return
    | '\r' :: '\n' :: _ => return
    | c :: _ => throw (.controlCharacter c)

/-- Pass spaces, comments and line ends. -/
def skipLines : (fuel : Nat) → Reading Unit
  | 0 => return
  | fuel + 1 => do
    skipSpaces
    skipComment
    if ← skipLineEnd then skipLines fuel

/-- Pass spaces, comments and line ends. -/
def skipBlanks : Reading Unit := do skipLines ((← get).length + 1)

/-! ## Strings -/

/-- The value of some hexadecimal digits, which have to come next. -/
def readHex (count : Nat) : Reading Char := do
  let rest ← get
  match (rest.take count).mapM (digit? 16) with
  | some ds =>
    skip count
    let n := ofDigits 16 ds
    if h : n.isValidChar ∧ ds.length = count then return Char.ofNatAux n h.1
    else throw (.unknownEscape 'u')
  | none => throw (.unknownEscape 'u')

/-- What a backslash stands for together with what follows it; the backslash has been passed. -/
def readEscape : Reading Char := do
  match ← peek? with
  | none => throw .unclosedString
  | some c =>
    skip 1
    match c with
    | 'b' => return '\x08'
    | 't' => return '\t'
    | 'n' => return '\n'
    | 'f' => return '\x0c'
    | 'r' => return '\r'
    | 'e' => return '\x1b'
    | '\"' => return '\"'
    | '\\' => return '\\'
    | 'x' => readHex 2
    | 'u' => readHex 4
    | 'U' => readHex 8
    | c => throw (.unknownEscape c)

/-- Drop spaces, tabs and line ends. -/
def dropBlanks : List Char → List Char
  | [] => []
  | '\r' :: '\n' :: cs => dropBlanks cs
  | c :: cs => if isSpace c ∨ c = '\n' then dropBlanks cs else c :: cs

/-- What follows if only blanks stand before the next line end, without all blanks that follow. -/
def afterBlankLine? (cs : List Char) : Option (List Char) :=
  match cs.dropWhile isSpace with
  | '\n' :: rest => some (dropBlanks rest)
  | '\r' :: '\n' :: rest => some (dropBlanks rest)
  | _ => none

/-- The text of characters that are given with the last one first. -/
def gathered (soFar : List Char) : String := String.ofList soFar.reverse

/--
The rest of a string over several lines that ends in three quotes. Up to two
quotes may stand before those and belong to the string.
-/
def readLong (quote : Char) (escapes : Bool) : (fuel : Nat) → (soFar : List Char) →
    Reading String
  | 0, _ => throw .unclosedString
  | fuel + 1, soFar => do
    let rest ← get
    match rest with
    | [] => throw .unclosedString
    | '\r' :: '\n' :: _ =>
      skip 2
      readLong quote escapes fuel ('\n' :: '\r' :: soFar)
    | c :: _ =>
      if c = quote then
        let run := (rest.takeWhile (· = quote)).length
        if 3 ≤ run then
          -- of five quotes the first two still belong to the string
          let inner := min (run - 3) 2
          skip (inner + 3)
          return gathered (List.replicate inner quote ++ soFar)
        else
          skip 1
          readLong quote escapes fuel (quote :: soFar)
      else if c = '\\' ∧ escapes then
        skip 1
        match afterBlankLine? (← get) with
        | some rest =>
          set rest
          readLong quote escapes fuel soFar
        | none => readLong quote escapes fuel ((← readEscape) :: soFar)
      else if isPlain c ∨ c = '\n' then
        skip 1
        readLong quote escapes fuel (c :: soFar)
      else throw (.controlCharacter c)

/-- The rest of a string on one line. -/
def readShort (quote : Char) (escapes : Bool) : (fuel : Nat) → (soFar : List Char) →
    Reading String
  | 0, _ => throw .unclosedString
  | fuel + 1, soFar => do
    match ← peek? with
    | none => throw .unclosedString
    | some c =>
      skip 1
      if c = quote then return gathered soFar
      else if c = '\\' ∧ escapes then
        readShort quote escapes fuel ((← readEscape) :: soFar)
      else if isPlain c then readShort quote escapes fuel (c :: soFar)
      else throw (.controlCharacter c)

/-- A string on one line that begins with a quote, which comes next. -/
def readQuoted (quote : Char) : Reading String := do
  skip 1
  readShort quote (quote = '\"') ((← get).length + 1) []

/-- A string of either kind that begins with a quote, which comes next. -/
def readString (quote : Char) : Reading String := do
  if ← skipText (String.ofList [quote, quote, quote]) then
    let _ ← skipLineEnd
    readLong quote (quote = '\"') ((← get).length + 1) []
  else readQuoted quote

/-! ## Keys -/

/-- May the character stand in a key without quotes? -/
def isKeyChar (c : Char) : Bool := c.isAlphanum || c = '_' || c = '-'

/-- One part of a dotted key. -/
def readKeyPart : Reading String := do
  match ← peek? with
  | some '\"' => readQuoted '\"'
  | some '\'' => readQuoted '\''
  | _ =>
    let name := (← get).takeWhile isKeyChar
    if name.isEmpty then throw .expectedKey
    skip name.length
    return String.ofList name

/-- The parts of a dotted key up to its last one, and the last one. -/
def readKey : (fuel : Nat) → Reading (List String × String)
  | 0 => throw .expectedKey
  | fuel + 1 => do
    skipSpaces
    let part ← readKeyPart
    skipSpaces
    if ← skipText "." then
      let (path, key) ← readKey fuel
      return (part :: path, key)
    else return ([], part)

/-- A dotted key with the spaces around it. -/
def readDottedKey : Reading (List String × String) := do readKey ((← get).length + 1)

/-! ## Values -/

/-- May the character stand in a scalar? -/
def isScalarChar (c : Char) : Bool :=
  !(isSpace c || c = '\n' || c = '\r' || c = ',' || c = '[' || c = ']' || c = '\x7b' ||
    c = '\x7d' || c = '#' || c = '=' || c = '\"' || c = '\'')

/-- A value without quotes or brackets; a space may stand between a date and a time. -/
def readScalar : Reading Value := do
  let rest ← get
  let front := rest.takeWhile isScalarChar
  let whole := match rest.drop front.length with
    | ' ' :: d :: more =>
      if isDate front && d.isDigit then front ++ ' ' :: (d :: more).takeWhile isScalarChar
      else front
    | _ => front
  if whole.isEmpty then throw .expectedValue
  skip whole.length
  match Value.ofScalar? whole with
  | some v => return v
  | none => throw (.invalidScalar (String.ofList whole))

/-- Items with commas between them up to a closing mark, which is passed too. -/
def readItems {α : Type} (close : String) (e : TomlError) (item : Reading α) :
    (fuel : Nat) → Reading (List α)
  | 0 => throw e
  | fuel + 1 => do
    skipBlanks
    if ← skipText close then return []
    let first ← item
    skipBlanks
    if ← skipText "," then
      return first :: (← readItems close e item fuel)
    else if ← skipText close then return [first]
    else throw e

/--
A key, an equals sign and a value. What may stand on either side of the equals
sign is passed over by `gap`: spaces in a line of a document, and line ends and
comments too between braces.
-/
def readAssignment (gap : Reading Unit) (value : Reading Value) : Reading Assignment := do
  let (path, key) ← readDottedKey
  gap
  if !(← skipText "=") then throw .expectedEquals
  gap
  return { path, key, value := ← value }

/-- Put assignments into a table one after another. -/
def assignAll : List Assignment → Entries → Except TomlError Entries
  | [], es => .ok es
  | a :: rest, es => do assignAll rest (← es.assign a.path a.key a.value)

/-- A value that may be nested some levels deep. -/
def readValue : (depth : Nat) → Reading Value
  | 0 => throw .nestedTooDeeply
  | depth + 1 => do
    match ← peek? with
    | some '\"' => return .string (← readString '\"')
    | some '\'' => return .string (← readString '\'')
    | some '[' =>
      skip 1
      return .array (← readItems "]" .unclosedArray (readValue depth) ((← get).length + 1))
    | some '\x7b' =>
      skip 1
      let assignments ← readItems "\x7d" .unclosedTable
        (readAssignment skipBlanks (readValue depth)) ((← get).length + 1)
      let entries ← assignAll assignments []
      return .table (Entries.freeze entries)
    | _ => readScalar

end Reading

/-! ## Documents -/

/-- How deeply values may be nested. -/
def nestLimit : Nat := 80

/-- What a header opens. -/
inductive Header
  | table (path : List String) (key : String)
  | element (path : List String) (key : String)
  deriving DecidableEq, Repr

/-- A line that says something. -/
inductive Line
  | header (h : Header)
  | assignment (a : Assignment)

namespace Reading

/-- A header, of which the first bracket comes next. -/
def readHeader : Reading Header := do
  if ← skipText "[[" then
    let (path, key) ← readDottedKey
    if ← skipText "]]" then return .element path key else throw .unclosedHeader
  else
    skip 1
    let (path, key) ← readDottedKey
    if ← skipText "]" then return .table path key else throw .unclosedHeader

/-- A header or an assignment. -/
def readLine : Reading Line := do
  match ← peek? with
  | some '[' => return .header (← readHeader)
  | _ => return .assignment (← readAssignment skipSpaces (readValue nestLimit))

/-- The lines that say something. -/
def readDocument : (fuel : Nat) → Reading (List Line)
  | 0 => return []
  | fuel + 1 => do
    skipBlanks
    if (← get).isEmpty then return []
    let line ← readLine
    skipSpaces
    skipComment
    if !(← get).isEmpty && !(← skipLineEnd) then throw .expectedLineEnd
    return line :: (← readDocument fuel)

end Reading

/-- The assignments before the next header, and the lines from that header on. -/
def takeAssignments : List Line → List Assignment × List Line
  | .assignment a :: rest =>
    let (as, rest) := takeAssignments rest
    (a :: as, rest)
  | rest => ([], rest)

/-- The lines of a section are no more than the lines of the document. -/
theorem length_takeAssignments (ls : List Line) :
    (takeAssignments ls).2.length ≤ ls.length := by
  fun_induction takeAssignments ls with
  | case1 a rest as rest' h ih => simp_all; omega
  | case2 => simp

/-- Put the tables of a document's sections together. -/
def assemble : List Line → Entries → Except TomlError Entries
  | [], es => .ok es
  | .assignment a :: rest, es => do assemble rest (← es.assign a.path a.key a.value)
  | .header h :: rest, es => do
    let fill := Reading.assignAll (takeAssignments rest).1
    let es ← match h with
      | .table path key => es.openTable path key fill
      | .element path key => es.addElement path key fill
    assemble (takeAssignments rest).2 es
termination_by ls => ls.length
decreasing_by
  · simp
  · have := length_takeAssignments rest
    simp only [List.length_cons]
    omega

/-- The mark that a document may begin with. -/
def byteOrderMark : Char := '\uFEFF'

/-- Read a document. -/
def Value.ofText (text : String) : Except TomlError Value := do
  let chars := match text.toList with
    | c :: cs => if c = byteOrderMark then cs else c :: cs
    | [] => []
  let (lines, _) ← (Reading.readDocument (chars.length + 1)).run chars
  return .table (Entries.freeze (← assemble lines []))

end Emend.Toml

import Emend.Regex.Error
import Emend.Regex.Surface
import Emend.Text.Blank
import Emend.Text.Cut
import Emend.Unicode.Newest

/-!
# Reading patterns

`Source.ofText` reads the source of a pattern. The reader is a state machine
over the characters that are left; a group or a nested class is read by a call
of the same function, and every call consumes a character, so the length of the
source bounds the depth of calls.

Under the flag `x` white space and comments are skipped between the parts of a
pattern. The flag holds to the end of the group that sets it.
-/

namespace Emend.Regex

open Unicode (Query)

/-- What the reader knows at a place of the source. -/
structure Cursor where
  /-- The characters that are left. -/
  rest : List Char
  /-- Is white space skipped? -/
  spaced : Bool := false
  /-- The capture groups opened so far. -/
  captures : Nat := 0
  /-- The names of capture groups, each with its index. -/
  names : List (String × Nat) := []

/-- Reading with the chance to refuse. -/
abbrev Reading := StateT Cursor (Except RegexError)

namespace Reading

/-- The next character. -/
def peek? : Reading (Option Char) := return (← get).rest.head?

/-- The character after the next one. -/
def peekSecond? : Reading (Option Char) := return (← get).rest[1]?

/-- Drop white space and comments; `inComment` is true up to the end of a line. -/
def dropSpace : (inComment : Bool) → List Char → List Char
  | _, [] => []
  | true, c :: cs => dropSpace (c ≠ '\n') cs
  | false, c :: cs =>
    if Text.isBlankChar c then dropSpace false cs
    else if c = '#' then dropSpace true cs
    else c :: cs

/-- Skip white space and comments where the flag asks for it. -/
def skipSpace : Reading Unit :=
  modify fun s => if s.spaced then { s with rest := dropSpace false s.rest } else s

/-- Pass one character. -/
def bump : Reading Unit := modify fun s => { s with rest := s.rest.tail }

/-- Pass one character and the space after it. -/
def bumpSpace : Reading Unit := do bump; skipSpace

/-- Pass a text if it comes next. -/
def bumpIf (text : String) : Reading Bool := do
  let s ← get
  if text.toList.isPrefixOf s.rest then
    set { s with rest := s.rest.drop text.length }
    return true
  else return false

/-- Pass one character and the space after it; something has to follow. -/
def bumpSpaceOr (e : RegexError) : Reading Char := do
  bumpSpace
  match ← peek? with
  | some c => return c
  | none => throw e

/--
The character that follows the next one once space is skipped. Of a comment only
its mark is passed over.
-/
def peekPastSpace? : Reading (Option Char) := do
  let s ← get
  if !s.spaced then peekSecond?
  else
    let after := s.rest.tail
    let found := match after.dropWhile Text.isBlankChar with
      | '#' :: cs => cs.dropWhile Text.isBlankChar
      | cs => cs
    return found.head? <|> after.head?

/-! ## Numbers and escapes -/

/-- Take characters while they satisfy `p`, with space skipped between them. -/
def takeSpaced (p : Char → Bool) : (fuel : Nat) → Reading (List Char)
  | 0 => return []
  | fuel + 1 => do
    match ← peek? with
    | some c =>
      if p c then
        bumpSpace
        return c :: (← takeSpaced p fuel)
      else return []
    | none => return []

/-- Take characters while they satisfy `p`. -/
def takeAll (p : Char → Bool) : Reading (List Char) := do
  takeSpaced p ((← get).rest.length)

/-- The value of decimal digits. -/
def decimal (ds : List Char) : Nat := ds.foldl (fun n d => 10 * n + (d.toNat - 48)) 0

/-- The value of hexadecimal digits. -/
def hexadecimal (ds : List Char) : Nat :=
  ds.foldl (fun n d => 16 * n + (Unicode.CharSet.hexDigit? d).getD 0) 0

/-- A count of a repetition; none if no digit comes. -/
def readCount : Reading (Option Nat) := do
  modify fun s => { s with rest := s.rest.dropWhile Text.isBlankChar }
  let ds ← takeAll Char.isDigit
  let _ ← takeAll Text.isBlankChar
  if ds.isEmpty then return none
  let n := decimal ds
  if n < UInt32.size then return some n else throw .countTooLarge

/-- The character with a code point. -/
def charOf (n : Nat) : Reading Char :=
  if h : n.isValidChar then return Char.ofNatAux n h else throw .invalidHexadecimal

/-- Is the character a hexadecimal digit? -/
def isHexDigit (c : Char) : Bool := (Unicode.CharSet.hexDigit? c).isSome

/-- A fixed number of hexadecimal digits. -/
def readHexDigits : (count : Nat) → Reading (List Char)
  | 0 => return []
  | count + 1 => do
    match ← peek? with
    | some c =>
      if isHexDigit c then
        bumpSpace
        return c :: (← readHexDigits count)
      else throw .invalidHexadecimal
    | none => throw .unfinishedEscape

/-- A code point in hexadecimal, after `x`, `u` or `U`. -/
def readHex (letter : Char) : Reading Literal := do
  let width := if letter = 'x' then 2 else if letter = 'u' then 4 else 8
  let c ← bumpSpaceOr .unfinishedEscape
  if c = '{' then
    bumpSpace
    let ds ← takeAll isHexDigit
    match ← peek? with
    | some '}' => bumpSpace
    | some _ => throw .invalidHexadecimal
    | none => throw .unfinishedEscape
    if ds.isEmpty then throw .invalidHexadecimal
    return { char := ← charOf (hexadecimal ds) }
  else
    let ds ← readHexDigits width
    return { char := ← charOf (hexadecimal ds), isByte := letter = 'x' }

/-- A property in braces: a name, or a name and a value. The flag tells of a `!=`. -/
def queryOf (cs : List Char) : Query × Bool :=
  let valued := fun (p : List Char × List Char) =>
    Query.valued (String.ofList p.1) (String.ofList p.2)
  match Text.cut? ['!', '='] cs with
  | some p => (valued p, true)
  | none =>
    match Text.cut? [':'] cs <|> Text.cut? ['='] cs with
    | some p => (valued p, false)
    | none => (.named (String.ofList cs), false)

/-- A property after `\p` or `\P`. -/
def readProperty (negated : Bool) : Reading (Query × Bool) := do
  let c ← bumpSpaceOr .unfinishedEscape
  if c = '{' then
    bumpSpace
    let cs ← takeAll (· ≠ '}')
    if (← peek?).isNone then throw .unfinishedEscape
    bump
    let (query, unequal) := queryOf cs
    return (query, negated != unequal)
  else if c = '\\' then throw .unknownProperty
  else
    bumpSpace
    return (.named (String.ofList [c]), negated)

/-- The kinds of boundary that have a name. -/
def boundaryOf? : List Char → Option Boundary
  | ['s', 't', 'a', 'r', 't'] => some .start
  | ['e', 'n', 'd'] => some .stop
  | ['s', 't', 'a', 'r', 't', '-', 'h', 'a', 'l', 'f'] => some .startHalf
  | ['e', 'n', 'd', '-', 'h', 'a', 'l', 'f'] => some .stopHalf
  | _ => none

/-- May the character stand in the name of a boundary? -/
def isBoundaryChar (c : Char) : Bool := c.isAlpha || c = '-'

/--
What follows `\b`: the name of a boundary in braces, or anything else. Braces
that do not begin like a name are left for a count.
-/
def readBoundary : Reading Boundary := do
  let before ← get
  if before.rest.head? ≠ some '{' then return .word
  let c ← bumpSpaceOr .unclosedBoundary
  if !isBoundaryChar c then
    -- a count such as `{2}` follows, and belongs to the assertion
    set before
    return .word
  let name ← takeAll isBoundaryChar
  if (← peek?) ≠ some '}' then throw .unclosedBoundary
  bump
  match boundaryOf? name with
  | some kind => return kind
  | none => throw .unknownBoundary

/-- May the character be escaped without a meaning of its own? -/
def isEscapable (c : Char) : Bool :=
  c.toNat < 0x80 && !c.isAlphanum && c ≠ '<' && c ≠ '>'

/-- An escape, from its backslash on. -/
def readEscape : Reading Surface := do
  bump
  let some c ← peek? | throw .unfinishedEscape
  if c.isDigit then throw .backreference
  if c = 'x' || c = 'u' || c = 'U' then return .literal (← readHex c)
  if c = 'p' || c = 'P' then
    let (query, negated) ← readProperty (c = 'P')
    return .property query negated
  bump
  let literal := fun c => Surface.literal { char := c }
  match c with
  | 'd' => return .shorthand .digit false
  | 'D' => return .shorthand .digit true
  | 's' => return .shorthand .space false
  | 'S' => return .shorthand .space true
  | 'w' => return .shorthand .word false
  | 'W' => return .shorthand .word true
  | 'a' => return literal '\x07'
  | 'f' => return literal '\x0c'
  | 't' => return literal '\t'
  | 'n' => return literal '\n'
  | 'r' => return literal '\r'
  | 'v' => return literal '\x0b'
  | 'A' => return .assertion .textStart
  | 'z' => return .assertion .textEnd
  | 'b' => return .assertion (.boundary (← readBoundary))
  | 'B' => return .assertion (.boundary .notWord)
  | '<' => return .assertion (.boundary .start)
  | '>' => return .assertion (.boundary .stop)
  | c => if isEscapable c then return literal c else throw (.unknownEscape c)

/-! ## Bracketed classes -/

/-- A character or an escape inside of brackets. -/
def readClassItem : Reading Surface := do
  match ← peek? with
  | some '\\' => readEscape
  | some c =>
    bump
    return .literal { char := c }
  | none => throw .unclosedClass

/-- The members that an item of a class stands for. -/
def classSetOf : Surface → Reading ClassSet
  | .literal l => return .literal l
  | .property query negated => return .property query negated
  | .shorthand kind negated => return .shorthand kind negated
  | _ => throw .classEscape

/-- The character that an end of a range stands for. -/
def literalOf : Surface → Reading Literal
  | .literal l => return l
  | _ => throw .invalidClassRange

/-- An item of a class, or a range of two. -/
def readClassRange : Reading ClassSet := do
  let first ← readClassItem
  skipSpace
  match ← peek? with
  | none => throw .unclosedClass
  | some '-' =>
    let next ← peekPastSpace?
    -- a dash at the end, or the first one of a difference, makes no range
    if next = some ']' || next = some '-' then classSetOf first
    else
      let _ ← bumpSpaceOr .unclosedClass
      let second ← readClassItem
      let lo ← literalOf first
      let hi ← literalOf second
      if lo.char.toNat ≤ hi.char.toNat then return .range lo hi else throw .invalidClassRange
  | some _ => classSetOf first

/-- A class with a name, from its bracket on; nothing is consumed if it is none. -/
def readPosix? : Reading (Option ClassSet) := do
  let s ← get
  let some inside := (match s.rest with
    | '[' :: ':' :: cs => some cs
    | _ => none) | return none
  let (negated, inside) := match inside with
    | '^' :: cs => (true, cs)
    | cs => (false, cs)
  let name := inside.takeWhile (· ≠ ':')
  match inside.dropWhile (· ≠ ':'), Posix.ofName? (String.ofList name) with
  | ':' :: ']' :: rest, some kind =>
    set { s with rest := rest }
    return some (.posix kind negated)
  | _, _ => return none

/-- Dashes right after the opening of a class, which stand for themselves. -/
def readLeadingDashes : (fuel : Nat) → Reading (List ClassSet)
  | 0 => return []
  | fuel + 1 => do
    if (← peek?) = some '-' then
      let _ ← bumpSpaceOr .unclosedClass
      return .literal { char := '-' } :: (← readLeadingDashes fuel)
    else return []

/-- The opening of a class: is it negated, and which members come with the opening? -/
def readClassOpening : Reading (Bool × List ClassSet) := do
  let c ← bumpSpaceOr .unclosedClass
  let negated := c = '^'
  if negated then let _ ← bumpSpaceOr .unclosedClass
  let dashes ← readLeadingDashes (← get).rest.length
  if dashes.isEmpty && (← peek?) = some ']' then
    let _ ← bumpSpaceOr .unclosedClass
    return (negated, [.literal { char := ']' }])
  return (negated, dashes)

/-- The operator that comes next inside of brackets. -/
def readSetOp? : Reading (Option SetOp) := do
  if ← bumpIf "&&" then return some .inter
  if ← bumpIf "--" then return some .diff
  if ← bumpIf "~~" then return some .symmDiff
  return none

/-- The operand that has been read, after the operator that waits for it. -/
def combine (pending : Option (SetOp × ClassSet)) (items : List ClassSet) : ClassSet :=
  match pending with
  | none => .ofItems items.reverse
  | some (kind, lhs) => .op kind lhs (.ofItems items.reverse)

/--
The inside of a class up to its closing bracket. `pending` is an operator that
waits for its right operand, `items` the members of that operand, latest first.
-/
def readClassBody : (fuel : Nat) → (pending : Option (SetOp × ClassSet)) →
    (items : List ClassSet) → Reading ClassSet
  | 0, _, _ => throw .unclosedClass
  | fuel + 1, pending, items => do
    skipSpace
    match ← peek? with
    | none => throw .unclosedClass
    | some ']' =>
      bump
      return combine pending items
    | some '[' =>
      match ← readPosix? with
      | some item => readClassBody fuel pending (item :: items)
      | none =>
        let (negated, first) ← readClassOpening
        let set ← readClassBody fuel none first.reverse
        readClassBody fuel pending (.bracketed negated set :: items)
    | some _ =>
      match ← readSetOp? with
      | some kind => readClassBody fuel (some (kind, combine pending items)) []
      | none => readClassBody fuel pending ((← readClassRange) :: items)

/-- A class, from its opening bracket on. -/
def readClass : Reading Surface := do
  let fuel := (← get).rest.length
  let (negated, first) ← readClassOpening
  return .bracketed negated (← readClassBody fuel none first.reverse)

/-! ## Groups -/

/-- Flags up to `:` or `)`, which is left. -/
def readFlags : (fuel : Nat) → (on : Bool) → (seen : FlagChange) → (dangling : Bool) →
    Reading FlagChange
  | 0, _, _, _ => throw .unfinishedFlags
  | fuel + 1, on, seen, dangling => do
    match ← peek? with
    | none => throw .unfinishedFlags
    | some c =>
      if c = ':' || c = ')' then
        if dangling then throw .danglingNegation else return seen.reverse
      else if c = '-' then
        if !on then throw .repeatedFlag
        bump
        readFlags fuel false seen true
      else
        let some flag := Flag.ofChar? c | throw (.unknownFlag c)
        if seen.any (·.1 = flag) then throw .repeatedFlag
        bump
        readFlags fuel on ((flag, on) :: seen) false

/-- May the character begin the name of a group? -/
def isNameStart (c : Char) : Bool := c = '_' || Unicode.Newest.alphabetic.contains c

/-- May the character continue the name of a group? -/
def isNameChar (c : Char) : Bool :=
  isNameStart c || c = '.' || c = '[' || c = ']' || Unicode.Newest.numeric.contains c

/-- Open a capture group. -/
def nextCapture : Reading Nat := do
  modify fun s => { s with captures := s.captures + 1 }
  return (← get).captures

/-- The name of a capture group up to its `>`. -/
def readGroupName (index : Nat) : Reading Unit := do
  let s ← get
  let name := s.rest.takeWhile (· ≠ '>')
  match s.rest.dropWhile (· ≠ '>') with
  | [] => throw .invalidGroupName
  | _ :: rest =>
    match name with
    | [] => throw .invalidGroupName
    | c :: cs =>
      if !isNameStart c || !cs.all isNameChar then throw .invalidGroupName
      let text := String.ofList name
      if (s.names.lookup text).isSome then throw (.duplicateGroupName text)
      set { s with rest := rest, names := s.names ++ [(text, index)] }

/-- The opening of a group, or flags that stand alone (`none`). -/
def readGroupOpening : Reading (Option GroupKind × FlagChange) := do
  bumpSpace
  for text in ["?=", "?!", "?<=", "?<!"] do
    if text.toList.isPrefixOf (← get).rest then throw .lookAround
  if (← bumpIf "?P<") || (← bumpIf "?<") then
    let index ← nextCapture
    readGroupName index
    return (some (.capture index), [])
  else if ← bumpIf "?" then
    let change ← readFlags ((← get).rest.length + 1) true [] false
    let closing ← peek?
    bump
    if closing = some ')' then
      if change.isEmpty then throw .missingOperand
      return (none, change)
    else return (some (.plain change), change)
  else return (some (.capture (← nextCapture)), [])

/-! ## Repetitions and the whole pattern -/

/-- Take the item that a repetition applies to off the items read so far. -/
def operand : List Surface → Reading (Surface × List Surface)
  | [] => throw .missingOperand
  | .empty :: _ => throw .missingOperand
  | .flags _ :: _ => throw .missingOperand
  | item :: items => return (item, items)

/-- Is the repetition that was just read marked as lazy? -/
def readLazy : Reading Bool := do
  if (← peek?) = some '?' then
    bump
    return true
  else return false

/-- A repetition sign other than a count. -/
def readRepetition (items : List Surface) (min : Nat) (max : Option Nat) :
    Reading (List Surface) := do
  let (item, items) ← operand items
  bump
  let isLazy ← readLazy
  return .repeated item min max (!isLazy) :: items

/-- A count in braces. -/
def readCounted (items : List Surface) : Reading (List Surface) := do
  let (item, items) ← operand items
  let _ ← bumpSpaceOr .unclosedCount
  let lo ← readCount
  let (min, max) ← (do
    match ← peek? with
    | some ',' =>
      let c ← bumpSpaceOr .unclosedCount
      let some lo := lo | throw .emptyCount
      if c = '}' then return (lo, none)
      else
        let some hi ← readCount | throw .emptyCount
        return (lo, some hi)
    | _ =>
      let some lo := lo | throw .emptyCount
      return (lo, some lo) : Reading (Nat × Option Nat))
  if (← peek?) ≠ some '}' then throw .unclosedCount
  bumpSpace
  let isLazy ← readLazy
  if max.any (· < min) then throw .countsOutOfOrder
  return .repeated item min max (!isLazy) :: items

/--
The items up to the end of a group. `items` are those of the alternative under
way and `branches` the alternatives before it, both latest first.
-/
def readBody : (fuel : Nat) → (items branches : List Surface) → Reading Surface
  | 0, _, _ => throw .unclosedGroup
  | fuel + 1, items, branches => do
    skipSpace
    match ← peek? with
    | none => return .ofBranches (.ofItems items.reverse :: branches).reverse
    | some ')' => return .ofBranches (.ofItems items.reverse :: branches).reverse
    | some '|' =>
      bump
      readBody fuel [] (.ofItems items.reverse :: branches)
    | some '(' =>
      let (kind?, change) ← readGroupOpening
      let outside := (← get).spaced
      let inside := (change.lookup .spaced).getD outside
      modify fun s => { s with spaced := inside }
      match kind? with
      | none => readBody fuel (.flags change :: items) branches
      | some kind =>
        let sub ← readBody fuel [] []
        if (← peek?) ≠ some ')' then throw .unclosedGroup
        modify fun s => { s with spaced := outside }
        bump
        readBody fuel (.group kind sub :: items) branches
    | some '[' => readBody fuel ((← readClass) :: items) branches
    | some '?' => readBody fuel (← readRepetition items 0 (some 1)) branches
    | some '*' => readBody fuel (← readRepetition items 0 none) branches
    | some '+' => readBody fuel (← readRepetition items 1 none) branches
    | some '{' => readBody fuel (← readCounted items) branches
    | some '.' =>
      bump
      readBody fuel (.dot :: items) branches
    | some '^' =>
      bump
      readBody fuel (.assertion .lineStart :: items) branches
    | some '$' =>
      bump
      readBody fuel (.assertion .lineEnd :: items) branches
    | some '\\' => readBody fuel ((← readEscape) :: items) branches
    | some c =>
      bump
      readBody fuel (.literal { char := c } :: items) branches

end Reading

/-- How deeply a pattern may be nested. -/
def nestLimit : Nat := 250

/-- A pattern that has been read, with the names of its groups. -/
structure Source where
  tree : Surface
  names : List (String × Nat)

/-- Read the source of a pattern. -/
def Source.ofText (text : String) : Except RegexError Source := do
  let chars := text.toList
  let (tree, s) ← (Reading.readBody (chars.length + 1) [] []).run { rest := chars }
  if !s.rest.isEmpty then throw .unopenedGroup
  if tree.depth > nestLimit then throw .nestedTooDeeply
  return { tree, names := s.names }

end Emend.Regex

import Emend.Regex.Error
import Emend.Regex.Expr
import Emend.Unicode.CaseFolding

/-!
# What a written pattern means

`Expr.ofSurface` walks a pattern from left to right and carries the flags along:
flags that stand alone hold up to the end of their group, alternatives included.

Texts are UTF-8, so a pattern must not be able to match part of a character.
With Unicode off a class is a set of bytes, and it is refused if it has a byte
above `0x7F`.
-/

namespace Emend.Regex

open Unicode (CharSet)

/-- The flags under which a class is read, with the chance to refuse it. -/
abbrev Checked := Except RegexError

/-- Close a set under case folding if case is ignored. -/
def foldUnder (f : Flags) (s : CharSet) : CharSet :=
  if f.ignoreCase then (if f.unicode then s.fold else s.foldAscii) else s

/-- The largest byte. -/
def maxByte : Nat := 0xFF

/-- The complement among characters, or among bytes with Unicode off. -/
def complUnder (f : Flags) (s : CharSet) : CharSet :=
  if f.unicode then s.compl else s.complUpTo maxByte

/-- With Unicode off a set of bytes has to stay within ASCII. -/
def checkBytes (f : Flags) (s : CharSet) : Checked CharSet :=
  if f.unicode || s.isUpTo 0x7F then .ok s else .error .matchesInvalidText

/-- Fold a set and then negate it. -/
def foldAndNegate (f : Flags) (negated : Bool) (s : CharSet) : Checked CharSet :=
  let s := foldUnder f s
  checkBytes f (if negated then complUnder f s else s)

/-- The code point of a character in a class. -/
def memberPoint (f : Flags) (l : Literal) : Checked Nat :=
  if f.unicode || l.char.toNat < 0x80 then .ok l.char.toNat
  else if l.isByte then .error .matchesInvalidText
  else .error .characterNeedsUnicode

/-- The set of a property. -/
def propertySet (f : Flags) (query : Unicode.Query) (negated : Bool) : Checked CharSet :=
  if !f.unicode then .error .propertyNeedsUnicode
  else match query.set? with
    | some s => foldAndNegate f negated s
    | none => .error .unknownProperty

/-- The set of a one-letter class; these are closed under folding. -/
def shorthandSet (f : Flags) (kind : Shorthand) (negated : Bool) : Checked CharSet :=
  let s := match kind with
    | .digit => if f.unicode then Unicode.Property.digit else Posix.digit.set
    | .space => if f.unicode then Unicode.Property.space else Posix.space.set
    | .word => if f.unicode then unicodeWord else asciiWord
  checkBytes f (if negated then complUnder f s else s)

/-- The set operation of an operator. -/
def SetOp.apply : SetOp → CharSet → CharSet → CharSet
  | .inter => CharSet.inter
  | .diff => CharSet.diff
  | .symmDiff => CharSet.symmDiff

mutual

/-- The set of the contents of a class. -/
def classSet (f : Flags) : ClassSet → Checked CharSet
  | .empty => .ok CharSet.empty
  | .literal l => do
    let n ← memberPoint f l
    return CharSet.range n n
  | .range lo hi => return CharSet.range (← memberPoint f lo) (← memberPoint f hi)
  | .posix kind negated => foldAndNegate f negated kind.set
  | .property query negated => propertySet f query negated
  | .shorthand kind negated => shorthandSet f kind negated
  | .bracketed negated set => do foldAndNegate f negated (← classSet f set)
  | .union items => return CharSet.unions (← classSets f items)
  | .op kind lhs rhs => do
    let l ← classSet f lhs
    let r ← classSet f rhs
    return kind.apply (foldUnder f l) (foldUnder f r)

/-- The sets of some items. -/
def classSets (f : Flags) : List ClassSet → Checked (List CharSet)
  | [] => .ok []
  | item :: rest => do
    let s ← classSet f item
    return s :: (← classSets f rest)

end

/-- The expression of a single character. -/
def literalExpr (f : Flags) (l : Literal) : Checked Expr := do
  if l.isByte && !f.unicode && 0x80 ≤ l.char.toNat then throw .matchesInvalidText
  let s := CharSet.singleton l.char
  return .char (if f.unicode || l.char.toNat < 0x80 then foldUnder f s else s)

/-- The set of the dot. -/
def dotSet (f : Flags) : Checked CharSet :=
  if !f.unicode then .error .matchesInvalidText
  else .ok (if f.dotAll then CharSet.univ
    else if f.crlf then (CharSet.ofText "A D").compl
    else (CharSet.ofText "A").compl)

/-- What an assertion asks under the flags. -/
def lookOf (f : Flags) : Assertion → Look
  | .lineStart =>
    if f.multiLine then (if f.crlf then .crlfStart else .lineStart) else .textStart
  | .lineEnd => if f.multiLine then (if f.crlf then .crlfEnd else .lineEnd) else .textEnd
  | .textStart => .textStart
  | .textEnd => .textEnd
  | .boundary kind => .boundary kind f.unicode

mutual

/-- The expression of a pattern that begins under the flags, and the flags after it. -/
def Expr.ofSurface (f : Flags) : Surface → Checked (Expr × Flags)
  | .empty => .ok (.empty, f)
  | .flags change => .ok (.empty, f.change change)
  | .literal l => return (← literalExpr f l, f)
  | .dot => return (.char (← dotSet f), f)
  | .assertion a => .ok (.look (lookOf f a), f)
  | .property query negated => return (.char (← propertySet f query negated), f)
  | .shorthand kind negated => return (.char (← shorthandSet f kind negated), f)
  | .bracketed negated set => do
    return (.char (← foldAndNegate f negated (← classSet f set)), f)
  | .repeated sub lo hi greedy => do
    let (e, f') ← ofSurface f sub
    return (.mkRepeat e lo hi (greedy != f.swapGreed), f')
  | .group (.capture index) sub => do
    let (e, _) ← ofSurface f sub
    return (.group index e, f)
  | .group (.plain change) sub => do
    let (e, _) ← ofSurface (f.change change) sub
    return (e, f)
  | .seq items => do
    let (es, f') ← ofSurfaces f items
    return (.seqs es, f')
  | .alt branches => do
    let (es, f') ← ofSurfaces f branches
    return (.alts es, f')

/-- The expressions of some patterns one after another. -/
def Expr.ofSurfaces (f : Flags) : List Surface → Checked (List Expr × Flags)
  | [] => .ok ([], f)
  | s :: rest => do
    let (e, f') ← Expr.ofSurface f s
    let (es, f'') ← Expr.ofSurfaces f' rest
    return (e :: es, f'')

end

end Emend.Regex

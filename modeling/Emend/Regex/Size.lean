import Emend.Regex.Expr

/-!
# The size of automata

A pattern is refused if the automata that look for it take too much memory. There are
two of them, one for each direction in which a text can be read, and they read it byte
by byte. So a class of characters is taken apart into sequences of ranges of bytes, as
UTF-8 has them, and mostly takes more than one state.

* `sequences` takes a class apart.
* Forwards, states that take the same bytes to the same states are one (`share`).
  Backwards, only sequences that begin alike have states in common (`branches`).
* `Expr.memory` adds up what an expression takes, and `Expr.isTooLarge` compares.
-/

namespace Emend.Regex

open Unicode (CharSet)

/-! ## Classes as sequences of bytes -/

/-- A range of bytes. -/
abbrev ByteRange := Nat × Nat

/--
The values from `lo` to `hi` as sequences of a first byte, which carries a mark, and some more.
In a sequence some fixed bytes are followed by one range, and that by bytes that may be any.
-/
def blocks (mark : Nat) : (more : Nat) → (lo hi : Nat) → List (List ByteRange)
  | 0, lo, hi => [[(mark + lo, mark + hi)]]
  | more + 1, lo, hi =>
    let unit := 64 ^ (more + 1)
    let first := lo / unit
    let last := hi / unit
    let under (value lo hi : Nat) :=
      (blocks 0x80 more lo hi).map ((mark + value, mark + value) :: ·)
    if first = last then under first (lo % unit) (hi % unit)
    else
      let cutFront := lo % unit ≠ 0
      let cutBack := hi % unit ≠ unit - 1
      let least := if cutFront then first + 1 else first
      let greatest := if cutBack then last - 1 else last
      (if cutFront then under first (lo % unit) (unit - 1) else []) ++
        (if least ≤ greatest then
          [(mark + least, mark + greatest) :: List.replicate (more + 1) (0x80, 0xBF)]
        else []) ++
        (if cutBack then under last 0 (hi % unit) else [])

/-- How code points are written: the mark of the first byte, how many bytes follow it, and the
least and the greatest point that is written in this way. -/
def encodings : List (Nat × Nat × Nat × Nat) :=
  [(0, 0, 0, 0x7F), (0xC0, 1, 0x80, 0x7FF), (0xE0, 2, 0x800, 0xD7FF), (0xE0, 2, 0xE000, 0xFFFF),
    (0xF0, 3, 0x10000, 0x10FFFF)]

/-- The members of a set as sequences of ranges of bytes, in increasing order. -/
def sequences (s : CharSet) : List (List ByteRange) :=
  s.ranges.flatMap fun (lo, hi) =>
    encodings.flatMap fun (mark, more, least, greatest) =>
      if max lo least ≤ min hi greatest then blocks mark more (max lo least) (min hi greatest)
      else []

example : sequences ⟨[(0x7A, 0xBF), (0x20AC, 0x20AC)]⟩ =
    [[(0x7A, 0x7F)], [(0xC2, 0xC2), (0x80, 0xBF)], [(0xE2, 0xE2), (0x82, 0x82), (0xAC, 0xAC)]] := by
  decide

/-! ## States -/

/-- What a state takes, and the numbers of the states to which it leads. -/
abbrev State := List (ByteRange × Nat)

/-- The sequences that go on behind each first range, for neighbours with the same one together. -/
def groups : List (List ByteRange) → List (ByteRange × List (List ByteRange))
  | [] => []
  | [] :: rest => groups rest
  | (r :: tail) :: rest =>
    match groups rest with
    | [] => [(r, [tail])]
    | (r', tails) :: more =>
      if r = r' then (r, tail :: tails) :: more else (r, [tail]) :: (r', tails) :: more

/--
The number of the state that takes some sequences, and all states that there are then. A state
that has been made before is not made again. Zero is the state behind the last byte, and `fuel` is
more than the length of a sequence.
-/
def share : (fuel : Nat) → List (List ByteRange) → List State → Nat × List State
  | 0, _, made => (0, made)
  | fuel + 1, seqs, made =>
    match groups seqs with
    | [] => (0, made)
    | parts =>
      let (state, made) := parts.foldl (fun (state, made) (r, tails) =>
        let (next, made) := share fuel tails made
        ((r, next) :: state, made)) ([], made)
      match made.idxOf? state with
      | some i => (made.length - i, made)
      | none => (made.length + 1, state :: made)

/-- The length of the part that two sequences have in common in front. -/
def commonFront : List ByteRange → List ByteRange → Nat
  | a :: as, b :: bs => if a = b then commonFront as bs + 1 else 0
  | _, _ => 0

/-- How many states sequences need, if neighbours share them as far as they begin alike. -/
def branches : List (List ByteRange) → Nat
  | [] => 0
  | [seq] => seq.length
  | seq :: next :: rest => seq.length - commonFront seq next + branches (next :: rest)

/-! ## Memory -/

/-- The bytes of a state by itself. -/
def stateMemory : Nat := 32

/-- The bytes of a choice between some states. -/
def choiceMemory (n : Nat) : Nat := stateMemory + 4 * n

/-- The bytes of a state that takes one byte from some ranges. -/
def rangesMemory (n : Nat) : Nat := stateMemory + 8 * n

/-- The bytes of a class. -/
def classMemory (backwards : Bool) (s : CharSet) : Nat :=
  let seqs := sequences s
  let several :=
    if s.isUpTo 0x7F then stateMemory + rangesMemory s.ranges.length
    else if backwards then stateMemory * (branches seqs + 1) + choiceMemory seqs.length
    else (share 5 seqs []).2.foldl (fun bytes state => bytes + rangesMemory state.length) stateMemory
  match s.ranges with
  | [] => stateMemory
  | [(lo, hi)] => if lo = hi then stateMemory * branches seqs else several
  | _ => several

namespace Expr

/-- May the expression match the empty text? -/
def mayBeEmpty : Expr → Bool
  | empty => true
  | char set => set.ranges.isEmpty
  | look _ => true
  | seq a b => a.mayBeEmpty && b.mayBeEmpty
  | alt a b => a.mayBeEmpty || b.mayBeEmpty
  | repeated sub lo _ _ => lo = 0 || sub.mayBeEmpty
  | group _ sub => sub.mayBeEmpty

/-- Is the expression a choice between others? -/
def isChoice : Expr → Bool
  | alt _ _ => true
  | _ => false

/-- The bytes of an expression. Groups are noted only forwards. -/
def memory (backwards : Bool) : Expr → Nat
  | empty => stateMemory
  | char set => classMemory backwards set
  | look _ => stateMemory
  | seq a b => a.memory backwards + b.memory backwards
  | alt a b =>
    -- a choice inside a choice is not made separately
    let around := stateMemory + choiceMemory 0
    let branch (e : Expr) (bytes : Nat) := if e.isChoice then bytes - around else bytes + 4
    around + branch a (a.memory backwards) + branch b (b.memory backwards)
  | group _ sub => sub.memory backwards + if backwards then 0 else 2 * stateMemory
  | repeated sub lo none _ =>
    if lo = 0 ∧ sub.mayBeEmpty then sub.memory backwards + 2 * choiceMemory 2 + stateMemory
    else max lo 1 * sub.memory backwards + choiceMemory 2
  | repeated sub lo (some hi) _ =>
    let needed := if lo = 0 ∧ hi ≠ 1 then stateMemory else lo * sub.memory backwards
    if lo = hi then needed
    else needed + (hi - lo) * (sub.memory backwards + choiceMemory 2) + stateMemory

/-- The largest number of bytes that an automaton may have. -/
def memoryLimit : Nat := 10485760

/--
Is an automaton of the expression too large? What it has besides skips the text in front of a
match, notes that it has matched and, forwards, where.
-/
def isTooLarge (e : Expr) : Bool :=
  let skipping := choiceMemory 2 + rangesMemory 1 + stateMemory
  memoryLimit < skipping + stateMemory + (group 0 e).memory false ||
    memoryLimit < skipping + stateMemory + (group 0 e).memory true

end Expr

end Emend.Regex

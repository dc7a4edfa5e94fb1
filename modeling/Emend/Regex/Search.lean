import Emend.Regex.Program

/-!
# Running a program over a text

All ways through the program are followed at once, one character at a time. A
`Thread` is one such way; the threads at a place are kept in order of
preference, and no two of them stand at the same instruction, so the work for a
character is bounded by the size of the program.

* `closeOver` follows the instructions that take no character.
* `run` finds the leftmost match, and among those that start there the preferred
  one: a thread that accepts cuts off all threads behind it, and once something
  has been found no thread is started any more.
* `findFrom` is the search in the rest of a text; `allFrom` repeats it.

Places are counted in characters from the start of the text.
-/

namespace Emend.Regex

/-- A way through the program: where it stands, where it began and what it has noted. -/
structure Thread where
  pc : Nat
  start : Nat
  slots : List (Option Nat)

/-- A match: its two ends, and the places noted in the slots of the groups. -/
structure Found where
  start : Nat
  stop : Nat
  slots : List (Option Nat)
  deriving DecidableEq, Repr

namespace Program

/--
Follow the threads of `stack` through everything that takes no character.
`seen` holds for each instruction the last place, plus one, at which a thread
came by; the result lists the threads that wait for a character or accept, the
latest first. Every instruction is opened once and puts two threads on the
stack at most, which bounds the fuel.
-/
def closeOver (p : Program) (before after : Option Char) (place : Nat) :
    (fuel : Nat) → (stack : List Thread) → (seen : Array Nat) → (out : List Thread) →
    Array Nat × List Thread
  | 0, _, seen, out => (seen, out)
  | _ + 1, [], seen, out => (seen, out)
  | fuel + 1, t :: stack, seen, out =>
    if seen.getD t.pc 0 = place + 1 then closeOver p before after place fuel stack seen out
    else
      let seen := seen.setIfInBounds t.pc (place + 1)
      match p.code[t.pc]? with
      | none => closeOver p before after place fuel stack seen out
      | some (.split a b) =>
        closeOver p before after place fuel ({ t with pc := a } :: { t with pc := b } :: stack)
          seen out
      | some (.look l next) =>
        let stack := if l.holds before after then { t with pc := next } :: stack else stack
        closeOver p before after place fuel stack seen out
      | some (.save slot next) =>
        let t := { t with pc := next, slots := t.slots.set slot (some place) }
        closeOver p before after place fuel (t :: stack) seen out
      | some (.char _ _) => closeOver p before after place fuel stack seen (t :: out)
      | some .accept => closeOver p before after place fuel stack seen (t :: out)

/--
Let the threads take the character after this place. The first one that accepts
ends the list and is the match so far.
-/
def advance (p : Program) (after : Option Char) (place : Nat) :
    List Thread → List Thread × Option Found
  | [] => ([], none)
  | t :: ts =>
    match p.code[t.pc]? with
    | some .accept => ([], some ⟨t.start, place, t.slots⟩)
    | some (.char set next) =>
      if after.any set.contains then
        let (rest, found) := advance p after place ts
        ({ t with pc := next } :: rest, found)
      else advance p after place ts
    | _ => advance p after place ts

/-- The thread that begins at a place. -/
def fresh (p : Program) (place : Nat) : Thread :=
  ⟨p.entry, place, List.replicate p.slots none⟩

/--
Run the threads over the rest of a text. `before` is the character before the
rest and `best` the match found so far.
-/
def run (p : Program) : (rest : List Char) → (before : Option Char) → (place : Nat) →
    (threads : List Thread) → (best : Option Found) → (seen : Array Nat) → Option Found
  | rest, before, place, threads, best, seen =>
    -- an earlier start is preferred, so the thread that starts here comes last
    let threads := if best.isNone then threads ++ [p.fresh place] else threads
    let fuel := threads.length + 2 * p.code.size + 1
    let (seen, closed) := p.closeOver before rest.head? place fuel threads seen []
    let (threads, found) := p.advance rest.head? place closed.reverse
    let best := found <|> best
    match rest with
    | [] => best
    | c :: cs =>
      if threads.isEmpty && best.isSome then best
      else run p cs (some c) (place + 1) threads best seen

/-- The first match in the rest of a text, which begins at `place` after `before`. -/
def findFrom (p : Program) (before : Option Char) (place : Nat) (rest : List Char) :
    Option Found :=
  p.run rest before place [] none (Array.replicate p.code.size 0)

/--
All matches in the rest of a text, from left to right without overlap. An empty
match where the match before it ended is passed over. Every step moves on or
notes a match, so twice the length of the rest bounds the fuel.
-/
def allFrom (p : Program) : (fuel : Nat) → (before : Option Char) → (place : Nat) →
    (rest : List Char) → (lastStop : Option Nat) → List Found
  | 0, _, _, _, _ => []
  | fuel + 1, before, place, rest, lastStop =>
    match p.findFrom before place rest with
    | none => []
    | some m =>
      if m.start = m.stop ∧ lastStop = some m.stop then
        match rest with
        | [] => []
        | c :: cs => allFrom p fuel (some c) (place + 1) cs lastStop
      else
        let taken := m.stop - place
        let before := if taken = 0 then before else rest[taken - 1]?
        m :: allFrom p fuel before m.stop (rest.drop taken) (some m.stop)

/-- The first match in a text. -/
def find? (p : Program) (text : List Char) : Option Found := p.findFrom none 0 text

/-- All matches in a text. -/
def findAll (p : Program) (text : List Char) : List Found :=
  p.allFrom (2 * text.length + 3) none 0 text none

end Program

end Emend.Regex

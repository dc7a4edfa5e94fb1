import Emend.Regex.Reader
import Emend.Regex.Expr.OfSurface
import Emend.Regex.Size
import Emend.Regex.Search
import Emend.Match

/-!
# Patterns

A `Pattern` is a regular expression that is ready to run. It carries its source
and flags and the fact that its program was built from them, so two patterns
with the same source and flags are equal.

* `Pattern.ofSource` is the only way to make one.
* `Pattern.findAll` lists the matches in a text, leftmost first and without
  overlap; `Pattern.find?` is the first of them (`head?_findAll`).
-/

namespace Emend

namespace Regex

/-- A program and the names of its groups. -/
structure Compiled where
  program : Program
  names : List (String × Nat)
  deriving DecidableEq, Repr

/-- Build the program of a source under flags. -/
def compile (source : String) (flags : PatternFlags) : Except RegexError Compiled := do
  let written ← Source.ofText source
  let (e, _) ← Expr.ofSurface (Flags.initial flags) written.tree
  if e.isTooLarge then throw .tooLarge
  return { program := Program.ofExpr e, names := written.names }

end Regex

/-- A regular expression that is ready to run. -/
structure Pattern where
  source : String
  flags : PatternFlags
  compiled : Regex.Compiled
  built : Regex.compile source flags = .ok compiled

namespace Pattern

/-- Patterns are equal as soon as their sources and flags are. -/
theorem ext_source {p q : Pattern} (hs : p.source = q.source) (hf : p.flags = q.flags) :
    p = q := by
  obtain ⟨s, f, c, hb⟩ := p
  obtain ⟨s', f', c', hb'⟩ := q
  simp only at hs hf
  subst hs hf
  rw [hb] at hb'
  cases hb'
  rfl

instance : DecidableEq Pattern := fun p q =>
  if h : p.source = q.source ∧ p.flags = q.flags then .isTrue (ext_source h.1 h.2)
  else .isFalse fun e => h ⟨congrArg source e, congrArg flags e⟩

/-- The pattern of a source, unless the source is malformed. -/
def ofSource (source : String) (flags : PatternFlags) : Except RegexError Pattern :=
  match h : Regex.compile source flags with
  | .ok compiled => .ok ⟨source, flags, compiled, h⟩
  | .error e => .error e

/-- The text that two slots have noted. -/
def groupText (text : List Char) : Option Nat → Option Nat → Option String
  | some start, some stop => some (String.ofList (Match.slice text start stop))
  | _, _ => none

/-- The groups that some slots have noted, two slots for each. -/
def groupTexts (text : List Char) : List (Option Nat) → List (Option String)
  | start :: stop :: rest => groupText text start stop :: groupTexts text rest
  | _ => []

/-- What was found, with the texts of the groups. -/
def toMatch (text : List Char) (m : Regex.Found) : Match where
  start := m.start
  stop := m.stop
  groups := some (String.ofList (Match.slice text m.start m.stop)) ::
    groupTexts text (m.slots.drop 2)

/-- The first match in a text. -/
def find? (p : Pattern) (text : String) : Option Match :=
  (p.compiled.program.find? text.toList).map (toMatch text.toList)

/-- All matches in a text. -/
def findAll (p : Pattern) (text : String) : List Match :=
  (p.compiled.program.findAll text.toList).map (toMatch text.toList)

/-- Does the pattern match somewhere? -/
def isMatch (p : Pattern) (text : String) : Bool := (p.find? text).isSome

/-- The index of a group with a name. -/
def groupIndex? (p : Pattern) (name : String) : Option Nat := p.compiled.names.lookup name

theorem head?_findAll (p : Pattern) (text : String) : (p.findAll text).head? = p.find? text := by
  simp only [findAll, find?, List.head?_map]
  congr 1
  simp only [Regex.Program.findAll, Regex.Program.find?, Regex.Program.allFrom]
  split
  · rename_i h
    simp [h]
  · rename_i m h
    simp [h]

end Pattern

end Emend

/-!
# Flags

The switches that change what a pattern means, and changes to them such as
`(?i-s)`. The whole pattern starts from the flags that its author chose outside
of it (`PatternFlags`); `Flags` is the state that holds at one place of it.
-/

namespace Emend

/-- The flags that come with a pattern from outside. -/
structure PatternFlags where
  multiline : Bool := false
  dotMatchesNewLine : Bool := false
  caseInsensitive : Bool := false
  deriving DecidableEq, Repr, Inhabited

namespace Regex

/-- The flags that a pattern can change. -/
inductive Flag
  | ignoreCase
  | multiLine
  | dotAll
  | swapGreed
  | unicode
  | crlf
  | spaced
  deriving DecidableEq, Repr

/-- The letter of a flag. -/
def Flag.ofChar? : Char → Option Flag
  | 'i' => some .ignoreCase
  | 'm' => some .multiLine
  | 's' => some .dotAll
  | 'U' => some .swapGreed
  | 'u' => some .unicode
  | 'R' => some .crlf
  | 'x' => some .spaced
  | _ => none

/-- Flags that are switched, each with its new state. -/
abbrev FlagChange := List (Flag × Bool)

/-- The flags that hold at a place of a pattern; `spaced` only matters to the reader. -/
structure Flags where
  ignoreCase : Bool := false
  multiLine : Bool := false
  dotAll : Bool := false
  swapGreed : Bool := false
  unicode : Bool := true
  crlf : Bool := false
  deriving DecidableEq, Repr, Inhabited

/-- Set one flag. -/
def Flags.set (f : Flags) (flag : Flag) (on : Bool) : Flags :=
  match flag with
  | .ignoreCase => { f with ignoreCase := on }
  | .multiLine => { f with multiLine := on }
  | .dotAll => { f with dotAll := on }
  | .swapGreed => { f with swapGreed := on }
  | .unicode => { f with unicode := on }
  | .crlf => { f with crlf := on }
  | .spaced => f

/-- Carry out a change. -/
def Flags.change (f : Flags) (c : FlagChange) : Flags :=
  c.foldl (fun f (flag, on) => f.set flag on) f

/-- The flags at the start of a pattern. -/
def Flags.initial (p : PatternFlags) : Flags where
  ignoreCase := p.caseInsensitive
  multiLine := p.multiline
  dotAll := p.dotMatchesNewLine

end Regex

end Emend

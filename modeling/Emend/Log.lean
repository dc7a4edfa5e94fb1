/-!
# Logs

What an edit says about itself while it goes on. An entry is printed on a line of
its own; later lines of its text are set off by four spaces.
-/

namespace Emend

/-- How much an entry matters. -/
inductive Level
  | warn
  | info
  | debug
  deriving DecidableEq, Repr

/-- An entry of a log. -/
structure LogEntry where
  level : Level
  message : String
  deriving DecidableEq, Repr

namespace Level

/-- How much detail a level adds; `warn` adds none. -/
def detail : Level → Nat
  | warn => 0
  | info => 1
  | debug => 2

/-- The word for a level, of five letters. -/
def word : Level → String
  | warn => "WARN "
  | info => "INFO "
  | debug => "DEBUG"

end Level

namespace LogEntry

/-- The text with four spaces behind each line end. -/
def setOff (text : String) : String :=
  String.ofList (text.toList.flatMap fun c =>
    if c = '\n' then ['\n', ' ', ' ', ' ', ' '] else [c])

/-- The line of an entry, which names where it comes from. -/
def line (origin : String) (e : LogEntry) : String :=
  "[" ++ e.level.word ++ " " ++ origin ++ "] " ++ setOff e.message ++ "\n"

end LogEntry

end Emend

import Emend.FileTree.Basic
import Emend.Log
import Emend.RuleFile.Load
import Emend.Session.Run

/-!
# What a command prints

A command prints to two channels and ends with an exit code. What it prints is
collected in the order in which it is printed.

* `Printed` holds both channels.
* `failure` is how an error ends a command: its message, and below it the causes
  from which it came.
-/

namespace Emend.Command

/-- Text on both channels. -/
structure Printed where
  out : String := ""
  err : String := ""
  deriving DecidableEq, Repr

namespace Printed

/-- Text on both channels after other text. -/
def append (a b : Printed) : Printed := ⟨a.out ++ b.out, a.err ++ b.err⟩

instance : Append Printed := ⟨append⟩

/-- A line on the first channel. -/
def line (s : String) : Printed := { out := s ++ "\n" }

/-- A line on the second channel. -/
def errorLine (s : String) : Printed := { err := s ++ "\n" }

/-- Several texts, one after another. -/
def all (ps : List Printed) : Printed := ps.foldl append {}

end Printed

/-- How a command ends. -/
structure Output where
  exitCode : Nat
  printed : Printed
  tree : FileTree

/-! ## Logs -/

/-- The name under which the program logs. -/
def logOrigin : String := "text_patcher::engine"

/-- The lines of a log that a verbosity lets through. -/
def logLines (verbosity : Nat) (log : List LogEntry) : Printed :=
  { err := String.join
      ((log.filter (·.level.detail ≤ verbosity)).map (·.line logOrigin)) }

/-! ## Errors that end a command -/

/-- A text with something before its first line, and something before every other one. -/
def indented (first other text : String) : String :=
  first ++ String.ofList (text.toList.flatMap fun c =>
    if c = '\n' then '\n' :: other.toList else [c])

/-- The number of a cause, in five columns. -/
def numbered (n : Nat) : String :=
  let digits := toString n
  String.ofList (List.replicate (5 - digits.length) ' ') ++ digits ++ ": "

/-- The causes of an error, which are numbered if there are several. -/
def causesText : List String → String
  | [] => ""
  | [cause] => "\nCaused by:\n" ++ indented "    " "    " cause ++ "\n"
  | causes =>
    "\nCaused by:\n" ++ String.join (causes.zipIdx.map fun (cause, i) =>
      indented (numbered i) "       " cause ++ "\n")

/-- An error with the causes from which it came. -/
structure Failure where
  message : String
  causes : List String := []
  deriving DecidableEq, Repr

/-- What is printed for an error that ends a command. -/
def Failure.printed (f : Failure) : Printed :=
  { err := "Error: " ++ f.message ++ "\n" ++ causesText f.causes }

/-- The workspace cannot be found. -/
def Failure.ofWorkspace (root : Path) (e : WorkspaceError) : Failure where
  message := "invalid workspace " ++ root.text
  causes := e.message :: match e with
    | .unresolved _ fault => [fault.message]
    | _ => []

/-- The rule files cannot be loaded. -/
def Failure.ofLoad (e : LoadError) : Failure where
  message := e.message
  causes := match e with
    | .io _ fault => [fault.message]
    | .malformed _ cause => [cause.message]
    | .invalid _ issues => [String.intercalate "\n" (issues.map Issue.message)]
    | .noRuleFiles _ => []

/-- The rules of a file cannot be made. -/
def Failure.ofRules (file : Path) (e : RuleError) : Failure where
  message := "cannot compile rules in " ++ file.text
  causes := e.message :: match e with
    | .malformedPattern _ _ cause => [cause.message]
    | _ => []

end Emend.Command

import Emend.Command.Arguments

/-!
# Help

What is printed for a reader who asks how a command line is written: what the
program or a command is for, how it is used, and tables of commands and switches.

* `helpText` is the help about a topic.
* Descriptions stand in a column of their own. One that is too long for its line
  goes on in the same column below.
-/

namespace Emend.Command

/-! ## Words and switches -/

namespace Switch

/-- How the switch is written. -/
def label (s : Switch) : String :=
  let letter := match s.letter? with
    | some c => "-" ++ String.singleton c ++ ", "
    | none => "    "
  let value := if s.takesValue then " <" ++ s.name.toUpper ++ ">" else ""
  letter ++ "--" ++ s.name ++ value ++ (if s = verbose then "..." else "")

/-- What the switch is for. -/
def description : Switch → String
  | rules => "Rule file, or directory of .toml rule files"
  | workspace => "Workspace root documents must live in (defaults to the current directory)"
  | dryRun => "Show what would change without writing"
  | diff => "Show a diff of each changed document"
  | json => "Print results as JSON"
  | verbose => "Increase log verbosity (-v info, -vv debug); RUST_LOG overrides"
  | version => "Print version"
  | help => "Print help"

end Switch

/-- What the command is for. -/
def Word.description : Word → String
  | apply => "Apply rule files to their target documents"
  | check => "Report which rules would apply, without writing"
  | list => "List the rules in rule files"

/-! ## Tables -/

/-- How many characters a line has room for. -/
def lineWidth : Nat := 100

/-- Put a word behind the last line, or on a line of its own; the last line comes first. -/
def addWord (width : Nat) : List String → String → List String
  | [], word => [word]
  | line :: above, word =>
    if line.length + 1 + word.length ≤ width then (line ++ " " ++ word) :: above
    else word :: line :: above

/-- The lines of a text, none of them longer than a width unless a word is. -/
def fill (width : Nat) (text : String) : List String :=
  let words := (Path.pieces ' ' [] text.toList).map String.ofList
  (words.foldl (addWord width) []).reverse

example : fill 9 "one two three four" = ["one two", "three", "four"] := by decide +kernel

/-- A row of a table whose first column has a width. -/
def rowText (width : Nat) (row : String × String) : String :=
  let blanks (n : Nat) := String.ofList (List.replicate n ' ')
  let lines := fill (lineWidth - (width + 4)) row.2
  "  " ++ row.1 ++ blanks (width - row.1.length) ++ "  " ++
    ("\n" ++ blanks (width + 4)).intercalate lines

/-- A table under its heading. -/
def tableText (heading : String) (rows : List (String × String)) : String :=
  let width := (rows.map (·.1.length)).foldl max 0
  heading ++ ":\n" ++ "\n".intercalate (rows.map (rowText width))

/-- The table of some switches. -/
def switchTable (switches : List Switch) : String :=
  tableText "Options" (switches.map fun s => (s.label, s.description))

/-! ## Topics -/

/-- What the word that asks for help is for. -/
def helpDescription : String := "Print this message or the help of the given subcommand(s)"

/-- The help about a topic. -/
def helpText (topic : Topic) : String :=
  "\n\n".intercalate <| match topic with
    | .program =>
      ["Idempotent text patching with literal and regex rules",
        "Usage: text-patcher [OPTIONS] <COMMAND>",
        tableText "Commands"
          (Word.all.map (fun w => (w.name, w.description)) ++ [("help", helpDescription)]),
        switchTable frontSwitches]
    | .command word =>
      [word.description,
        "Usage: text-patcher " ++ word.name ++ " [OPTIONS] --rules <RULES>",
        switchTable word.switches]
    | .help =>
      [helpDescription,
        "Usage: text-patcher help [COMMAND]...",
        tableText "Arguments" [("[COMMAND]...", "Print help for the subcommand(s)")]]

end Emend.Command

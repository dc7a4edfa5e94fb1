import Emend.Command.Output

/-!
# Listings

The lines that show a rule file: its name and description, and a line for each of
its definitions.
-/

namespace Emend.Command

/-- The word for the kind of a matcher. -/
def kindWord : MatcherSpec → String
  | .literal _ => "literal"
  | .regex _ _ => "regex"

/-- What is special about a definition. -/
def markWords (d : Definition) : List String :=
  (if d.required then ["required"] else []) ++ (if d.guard.isSome then ["guarded"] else [])

/-- The line of a definition. -/
def definitionLine (d : Definition) : Printed :=
  .line ("  - " ++ d.id ++ " [" ++ kindWord d.find ++ "] -> " ++ d.file ++
    match markWords d with
    | [] => ""
    | words => " (" ++ String.intercalate ", " words ++ ")")

/-- The lines of a rule file. -/
def listLines : Path × RuleFile → Printed
  | (path, f) =>
    .line ((if f.name.isEmpty then path.text else f.name) ++ " (" ++ path.text ++ ")") ++
      (match f.description with
        | some text => .line ("  " ++ text)
        | none => {}) ++
      .all (f.rules.map definitionLine) ++ .line ""

end Emend.Command

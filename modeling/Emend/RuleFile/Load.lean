import Emend.FileTree.Read
import Emend.RuleFile.Decode
import Emend.RuleFile.Issue

/-!
# Loading rule files

* `RuleFile.ofText` reads a rule file and refuses one that has a problem.
* `RuleFile.load` reads it from a file.
* `RuleFile.discover` lists the rule files that a path names: the path itself, or
  the files of a directory that are rule files by their names, in the order of
  these names.
* `RuleFile.loadAll` loads them all; the first one that fails decides.
-/

namespace Emend

/-- The causes for which a text is no rule file. -/
inductive DocumentError
  | toml (e : TomlError)
  | form (e : FormError)
  deriving DecidableEq, Repr

/-- The line that is printed for such a text. -/
def DocumentError.message : DocumentError → String
  | toml e => "TOML parse error: " ++ e.cause
  | form e => "TOML parse error: " ++ e.cause

/-- The causes for which rule files cannot be loaded; a text has no path. -/
inductive LoadError
  | io (path : Path) (fault : Fault)
  | malformed (path : Option Path) (cause : DocumentError)
  | invalid (path : Option Path) (issues : List Issue)
  | noRuleFiles (directory : Path)
  deriving DecidableEq, Repr

namespace LoadError

/--
The message of an error; `explainText` and `explainPattern` word the causes for
which a text is no document and a pattern is malformed.
-/
def messageWith (explainText : DocumentError → String) (explainPattern : RegexError → String) :
    LoadError → String
  | io path fault => "failed to read rule file " ++ path.text ++ ": " ++ fault.message
  | malformed (some path) cause =>
    "failed to parse rule file " ++ path.text ++ ": " ++ explainText cause
  | malformed none cause => "failed to parse rule TOML: " ++ explainText cause
  | invalid path issues =>
    (match path with
      | some path => "invalid rule file " ++ path.text ++ ":\n"
      | none => "invalid rule file:\n") ++
      String.intercalate "\n" (issues.map (·.messageWith explainPattern))
  | noRuleFiles directory => "no .toml rule files found in " ++ directory.text

/-- The message of an error. -/
def message : LoadError → String := messageWith DocumentError.message RegexError.message

/-- The error with the path of the text that it is about. -/
def atPath (path : Path) : LoadError → LoadError
  | malformed none cause => malformed (some path) cause
  | invalid none issues => invalid (some path) issues
  | e => e

end LoadError

namespace RuleFile

/-- Read a rule file, whatever its problems. -/
def parse (text : String) : Except DocumentError RuleFile := do
  let v ← (Toml.Value.ofText text).mapError .toml
  (RuleFile.ofValue v).mapError .form

/-- Read a rule file that has no problems. -/
def ofText (text : String) : Except LoadError RuleFile := do
  let f ← (parse text).mapError (.malformed none)
  match f.issues with
  | [] => return f
  | issues => throw (.invalid none issues)

/-- Load the rule file at a path. -/
def load (t : FileTree) (path : Path) : Except LoadError RuleFile := do
  let text ← (t.readText path).mapError (.io path)
  (ofText text).mapError (·.atPath path)

/-! ## Directories of rule files -/

/-- Is the name in a directory that of a rule file? -/
def isRuleFileName (t : FileTree) (directory : Location) (name : SystemText) : Bool :=
  match t.get? (directory ++ [name]) with
  | some (.file _ _) => name.ending? = some (SystemText.octets "toml")
  | _ => false

/-- The names of the rule files in a directory. -/
def namesIn (t : FileTree) (directory : Location) : List SystemText :=
  (t.names directory).filter (isRuleFileName t directory)

/-- The rule files that a path names. -/
def discover (t : FileTree) (path : Path) : Except LoadError (List Path) :=
  match t.resolveDirectory path with
  | .error _ => .ok [path]
  | .ok directory =>
    match namesIn t directory with
    | [] => .error (.noRuleFiles path)
    | names => .ok (names.map fun name => path.join ⟨[name]⟩)

/-- Load some rule files. -/
def loadEach (t : FileTree) : List Path → Except LoadError (List (Path × RuleFile))
  | [] => .ok []
  | path :: rest => do
    let f ← load t path
    return (path, f) :: (← loadEach t rest)

/-- Load all rule files that a path names. -/
def loadAll (t : FileTree) (path : Path) : Except LoadError (List (Path × RuleFile)) := do
  loadEach t (← discover t path)

end RuleFile

end Emend

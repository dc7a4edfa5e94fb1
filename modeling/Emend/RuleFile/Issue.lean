import Emend.RuleFile.Basic
import Emend.Text.Blank

/-!
# What is wrong with a rule file

`RuleFile.issues` lists every problem of a rule file, definition by definition.
Only a definition that is complete is tried as a rule, so that one mistake is not
reported twice.
-/

namespace Emend

/-- A problem of a rule file. -/
inductive Issue
  | noRules
  | missingField (rule : Option String) (field : String)
  | duplicateId (id : String)
  /-- Such a rule would fail each time but the first. -/
  | requiredWithoutGuard (id : String)
  | invalidRule (id : String) (cause : RuleError)
  deriving DecidableEq, Repr

/-- A problem in words; `explain` words the cause of a malformed pattern. -/
def Issue.messageWith (explain : RegexError → String) : Issue → String
  | noRules => "rule file contains no rules"
  | missingField (some id) field =>
    "rule '" ++ id ++ "' missing required field '" ++ field ++ "'"
  | missingField none field => "rule missing required field '" ++ field ++ "'"
  | duplicateId id => "rule id '" ++ id ++ "' is defined twice"
  | requiredWithoutGuard id =>
    "rule '" ++ id ++ "' is required but has no guard; re-running it would fail"
  | invalidRule _ cause => cause.messageWith explain

/-- A problem in words. -/
def Issue.message : Issue → String := messageWith RegexError.message

namespace Definition

/-- The id, unless it is blank. -/
def givenId (d : Definition) : Option String := if Text.isBlank d.id then none else some d.id

/-- The problem of an id that is blank or has been used before. -/
def idDefects (d : Definition) (seen : List String) : List Issue :=
  match d.givenId with
  | none => [.missingField none "id"]
  | some id => if id ∈ seen then [.duplicateId id] else []

/-- The problem of a field that must not be empty. -/
def emptyField (d : Definition) (field : String) (empty : Bool) : List Issue :=
  if empty then [.missingField d.givenId field] else []

/-- The problem of a guard that has no text. -/
def guardDefects (d : Definition) : List Issue :=
  match d.guard with
  | some spec => d.emptyField ("guard." ++ spec.textField) spec.isEmpty
  | none => []

/-- The problem of a required rule without guard. -/
def requiredDefects (d : Definition) : List Issue :=
  if d.required && d.guard.isNone then [.requiredWithoutGuard d.id] else []

/-- What is missing in a definition; `seen` are the ids of those before it. -/
def defects (d : Definition) (seen : List String) : List Issue :=
  d.idDefects seen ++ d.emptyField "file" (Text.isBlank d.file) ++
    d.emptyField ("find." ++ d.find.textField) d.find.isEmpty ++
    d.guardDefects ++ d.requiredDefects

/-- The problem of a complete definition that makes no rule. -/
def ruleDefects (d : Definition) : List Issue :=
  match d.toRule with
  | .ok _ => []
  | .error cause => [.invalidRule d.id cause]

/-- The problems of a definition. -/
def issues (d : Definition) (seen : List String) : List Issue :=
  match d.defects seen with
  | [] => d.ruleDefects
  | defects => defects

end Definition

/-- The problems of some definitions; `seen` are the ids of those before them. -/
def issuesOf : (seen : List String) → List Definition → List Issue
  | _, [] => []
  | seen, d :: rest => d.issues seen ++ issuesOf (d.givenId.toList ++ seen) rest

/-- All problems of a rule file. -/
def RuleFile.issues (f : RuleFile) : List Issue :=
  (if f.rules.isEmpty then [.noRules] else []) ++ issuesOf [] f.rules

end Emend

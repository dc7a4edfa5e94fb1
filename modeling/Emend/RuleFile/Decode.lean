import Emend.RuleFile.Basic
import Emend.Toml.Reader

/-!
# The form of rule files

How a rule file is written as a TOML document: the table `meta` and the list
`rules`, both of which may be left out.

* What is not a field of a record is passed over, and no value is turned into one
  of another kind.
* A record may also be written as an array of its fields in their order.
* A date-time, where a record is asked for, is a record without known fields.
-/

namespace Emend

open Toml (Value)

/-- The causes for which a document is no rule file. -/
inductive FormError
  | missing (field : String)
  | notA (kind : String)
  | unknown (kind name : String)
  | tooManyFields
  deriving DecidableEq, Repr

/-- What a cause means to the author of the document. -/
def FormError.cause : FormError → String
  | missing field => "missing field '" ++ field ++ "'"
  | notA kind => "expected " ++ kind
  | unknown kind name => "unknown " ++ kind ++ " '" ++ name ++ "'"
  | tooManyFields => "too many fields"

/-- The fields of a record by their names. -/
abbrev Record := String → Option Value

namespace Record

/-- The fields of a table. -/
def ofFields (fields : List (String × Value)) : Record := fun name => fields.lookup name

/-- The fields of an array, whose items have the names in their order. -/
def ofItems (names : List String) (items : List Value) : Record := ofFields (names.zip items)

/-- The record that a value writes. -/
def ofValue (names : List String) : Value → Except FormError Record
  | .table fields => .ok (ofFields fields)
  | .array items => .ok (ofItems names items)
  | .dateTime _ => .ok fun _ => none
  | _ => .error (.notA "a table")

/-- A field that may be left out. -/
def optional {α : Type} (r : Record) (field : String) (decode : Value → Except FormError α) :
    Except FormError (Option α) :=
  match r field with
  | some v => (decode v).map some
  | none => .ok none

/-- A field that stands for something if it is left out. -/
def withDefault {α : Type} (r : Record) (field : String) (value : α)
    (decode : Value → Except FormError α) : Except FormError α :=
  (r.optional field decode).map (·.getD value)

/-- A field that must not be left out. -/
def needed {α : Type} (r : Record) (field : String) (decode : Value → Except FormError α) :
    Except FormError α := do
  match ← r.optional field decode with
  | some a => return a
  | none => throw (.missing field)

end Record

/-! ## Fields -/

/-- A text. -/
def decodeText : Value → Except FormError String
  | .string s => .ok s
  | _ => .error (.notA "a string")

/-- A truth value. -/
def decodeBool : Value → Except FormError Bool
  | .boolean b => .ok b
  | _ => .error (.notA "a boolean")

/-- Does a value hold nothing? -/
def holdsNothing : Value → Bool
  | .table fields => fields.isEmpty
  | .array items => items.isEmpty
  | _ => false

/-- A scope by its name. -/
def scopeNamed (name : String) : Except FormError Scope :=
  if name = "first" then .ok .first
  else if name = "all" then .ok .all
  else .error (.unknown "scope" name)

/-- A scope: its name, or a table whose only key is the name and holds nothing. -/
def decodeScope : Value → Except FormError Scope
  | .string name => scopeNamed name
  | .table [(name, v)] => if holdsNothing v then scopeNamed name else .error (.notA "a scope")
  | _ => .error (.notA "a scope")

/-! ## Matchers -/

/-- The names of the fields of a pattern, in their order. -/
def regexFields : List String :=
  ["pattern", "multiline", "dot_matches_new_line", "case_insensitive"]

/-- The names of the fields of a literal. -/
def literalFields : List String := ["text"]

/-- A literal. -/
def decodeLiteral (r : Record) : Except FormError MatcherSpec := do
  return .literal (← r.needed "text" decodeText)

/-- A pattern. -/
def decodeRegex (r : Record) : Except FormError MatcherSpec := do
  let source ← r.needed "pattern" decodeText
  let multiline ← r.withDefault "multiline" false decodeBool
  let dotMatchesNewLine ← r.withDefault "dot_matches_new_line" false decodeBool
  let caseInsensitive ← r.withDefault "case_insensitive" false decodeBool
  return .regex source { multiline, dotMatchesNewLine, caseInsensitive }

/-- A matcher of a type, whose fields `record` gives once it knows their names. -/
def decodeTyped (type : String) (record : List String → Except FormError Record) :
    Except FormError MatcherSpec := do
  if type = "literal" then decodeLiteral (← record literalFields)
  else if type = "regex" then decodeRegex (← record regexFields)
  else throw (.unknown "type" type)

/-- The fields of an array that has none too many. -/
def exactItems (items : List Value) (names : List String) : Except FormError Record :=
  if items.length ≤ names.length then .ok (Record.ofItems names items)
  else .error .tooManyFields

/-- A matcher: a table with its type, or an array that begins with it. -/
def decodeMatcher : Value → Except FormError MatcherSpec
  | .table fields => do
    let r := Record.ofFields fields
    let type ← r.needed "type" decodeText
    decodeTyped type fun _ => .ok r
  | .array (type :: items) => do decodeTyped (← decodeText type) (exactItems items)
  | .array [] => .error (.missing "type")
  | .dateTime _ => .error (.missing "type")
  | _ => .error (.notA "a matcher")

/-! ## Definitions and files -/

/-- The names of the fields of a definition, in their order. -/
def definitionFields : List String :=
  ["id", "file", "find", "replace", "guard", "required", "scope", "expand", "description"]

/-- A definition. -/
def decodeDefinition (v : Value) : Except FormError Definition := do
  let r ← Record.ofValue definitionFields v
  return {
    id := ← r.needed "id" decodeText
    file := ← r.needed "file" decodeText
    find := ← r.needed "find" decodeMatcher
    replace := ← r.withDefault "replace" "" decodeText
    guard := ← r.optional "guard" decodeMatcher
    required := ← r.withDefault "required" false decodeBool
    scope := ← r.withDefault "scope" .first decodeScope
    expand := ← r.optional "expand" decodeBool
    description := ← r.optional "description" decodeText }

/-- A list of definitions. -/
def decodeDefinitions : Value → Except FormError (List Definition)
  | .array items => items.mapM decodeDefinition
  | _ => .error (.notA "a list")

/-- The names of what a file says about itself, in their order. -/
def metaFields : List String := ["name", "description", "workspace_relative"]

/-- What a file says about itself, as a file without definitions. -/
def decodeMeta (v : Value) : Except FormError RuleFile := do
  let r ← Record.ofValue metaFields v
  return {
    name := ← r.withDefault "name" "" decodeText
    description := ← r.optional "description" decodeText
    workspaceRelative := ← r.withDefault "workspace_relative" false decodeBool }

/-- A rule file. -/
def RuleFile.ofValue (v : Value) : Except FormError RuleFile := do
  let r ← Record.ofValue ["meta", "rules"] v
  let file ← r.withDefault "meta" {} decodeMeta
  return { file with rules := ← r.withDefault "rules" [] decodeDefinitions }

end Emend

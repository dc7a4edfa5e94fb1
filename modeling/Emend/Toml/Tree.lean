import Emend.Toml.Error
import Emend.Toml.Value

/-!
# Tables under construction

A document names its tables piece by piece: headers open them, longer headers
imply them, dotted keys reach into them. What may still be added to a table
depends on how it came to be (`Origin`).

* `Entries.assign` adds one value under a dotted key.
* `Entries.openTable` and `Entries.addElement` open what a header names.
* `Entries.freeze` forgets how the tables came to be.
-/

namespace Emend.Toml

/-- How a table came to be. -/
inductive Origin
  /-- By a header of its own. -/
  | header
  /-- By the header of a table inside of it. -/
  | implied
  /-- By a dotted key. -/
  | dotted
  deriving DecidableEq, Repr

/-- What a key stands for while the document is read. -/
inductive Node
  | value (v : Value)
  | table (origin : Origin) (entries : List (String × Node))
  | tables (elements : List (List (String × Node)))

/-- The entries of a table under construction. -/
abbrev Entries := List (String × Node)

namespace Entries

/-- What a key stands for. -/
def get? (es : Entries) (key : String) : Option Node := es.lookup key

/-- Let a key stand for something; a new key comes last. -/
def set (key : String) (node : Node) : Entries → Entries
  | [] => [(key, node)]
  | (k, n) :: rest => if k = key then (key, node) :: rest else (k, n) :: set key node rest

/-- Change the last element of some tables. -/
def changeLast (change : Entries → Except TomlError Entries) :
    List Entries → Except TomlError (List Entries)
  | [] => .ok []
  | [e] => do return [← change e]
  | e :: rest => do return e :: (← changeLast change rest)

/--
Change the table at a path, which is made where it is missing. Of an array of
tables the last element counts. A dotted key must not reach into a table that has
a header.
-/
def change (dotted : Bool) (act : Origin → Entries → Except TomlError Entries) :
    (path : List String) → (origin : Origin) → Entries → Except TomlError Entries
  | [], origin, es => act origin es
  | key :: path, _, es => do
    match es.get? key with
    | none =>
      let origin := if dotted then Origin.dotted else Origin.implied
      return es.set key (.table origin (← change dotted act path origin []))
    | some (.value _) => throw (.notATable key)
    | some (.tables elements) =>
      return es.set key (.tables (← changeLast (change dotted act path .header) elements))
    | some (.table origin sub) =>
      -- a table with a header is complete where its section ends
      if dotted ∧ origin = .header then throw (.duplicateKey key)
      return es.set key (.table origin (← change dotted act path origin sub))

/-- Add a value under a key that is not there yet. -/
def add (key : String) (v : Value) (es : Entries) : Except TomlError Entries :=
  match es.get? key with
  | none => .ok (es.set key (.value v))
  | some _ => .error (.duplicateKey key)

/-- Add a value under a dotted key; the table that it goes to has to come from dotted keys too. -/
def assign (path : List String) (key : String) (v : Value) (es : Entries) :
    Except TomlError Entries :=
  change true (fun origin sub =>
    if path.isEmpty || origin = .dotted then sub.add key v else .error (.duplicateKey key))
    path .header es

/-- Give a table the header it does not have yet, and the entries that stand below. -/
def openTable (path : List String) (key : String)
    (fill : Entries → Except TomlError Entries) (es : Entries) : Except TomlError Entries :=
  change false (fun _ sub => do
    match sub.get? key with
    | none => return sub.set key (.table .header (← fill []))
    | some (.table .implied inner) => return sub.set key (.table .header (← fill inner))
    | some _ => throw (.duplicateKey key))
    path .header es

/-- Add an element to an array of tables, which is made if it is missing. -/
def addElement (path : List String) (key : String)
    (fill : Entries → Except TomlError Entries) (es : Entries) : Except TomlError Entries :=
  change false (fun _ sub => do
    match sub.get? key with
    | none => return sub.set key (.tables [← fill []])
    | some (.tables elements) => return sub.set key (.tables (elements ++ [← fill []]))
    | some _ => throw (.duplicateKey key))
    path .header es

end Entries

mutual

/-- The value of what a key stands for. -/
def Node.freeze : Node → Value
  | .value v => v
  | .table _ entries => .table (Entries.freeze entries)
  | .tables elements => .array (Entries.freezeAll elements)

/-- The fields of a table. -/
def Entries.freeze : List (String × Node) → List (String × Value)
  | [] => []
  | (k, n) :: rest => (k, n.freeze) :: Entries.freeze rest

/-- The values of some tables. -/
def Entries.freezeAll : List (List (String × Node)) → List Value
  | [] => []
  | es :: rest => .table (Entries.freeze es) :: Entries.freezeAll rest

end

end Emend.Toml

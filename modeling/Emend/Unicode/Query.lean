import Emend.Unicode.Property
import Emend.Unicode.Script
import Emend.Unicode.Age
import Emend.Unicode.Segmentation

/-!
# Asking for a set by name

A set of characters is asked for by one name (`Greek`, `Lu`, `alphabetic`) or by
a property and a value (`script=Greek`). Names are compared loosely.

* `looseName` is the form under which names are compared.
* `Query.set?` answers a query, and refuses one that no table answers.
-/

namespace Emend.Unicode

/-- A set asked for by name. -/
inductive Query
  | named (name : String)
  | valued (property value : String)
  deriving DecidableEq, Repr

/-- Letters in lower case, without separators and without what is not ASCII. -/
def foldName (cs : List Char) : List Char :=
  (cs.filter fun c => c.toNat < 0x80 ∧ c ≠ ' ' ∧ c ≠ '_' ∧ c ≠ '-').map Char.toLower

/--
The form under which names are compared: case, separators and a leading `is`
do not count. The one name that `is` would spoil is `isc`, which stays.
-/
def looseName (name : String) : String :=
  let cs := name.toList
  match cs with
  | i :: s :: rest =>
    if i.toLower = 'i' ∧ s.toLower = 's' then
      let folded := foldName rest
      if folded = ['c'] then "isc" else String.ofList folded
    else String.ofList (foldName cs)
  | _ => String.ofList (foldName cs)

example : looseName "Is_Greek" = "greek" := by decide
example : looseName "Lowercase Letter" = "lowercaseletter" := by decide

/-- The names that are abbreviations of a property and of a category; the category wins. -/
def categoryFirst : List String := ["cf", "sc", "lc"]

/-- The set that one name stands for: a property, a category or a script, in this order. -/
def namedSet? (name : String) : Option CharSet :=
  let asProperty := if name ∈ categoryFirst then none else Property.named? name
  asProperty <|> Category.named? name <|> Script.named? name

/-- The set of the characters for which a property has a value. -/
def valuedSet? (property value : String) : Option CharSet :=
  if property ∈ ["generalcategory", "gc"] then Category.named? value
  else if property ∈ ["script", "sc"] then Script.named? value
  else if property ∈ ["scriptextensions", "scx"] then Script.extensionsNamed? value
  else if property = "age" then Age.named? value
  else if property ∈ ["graphemeclusterbreak", "gcb"] then Segmentation.grapheme? value
  else if property ∈ ["wordbreak", "wb"] then Segmentation.word? value
  else if property ∈ ["sentencebreak", "sb"] then Segmentation.sentence? value
  else none

/-- The set that a query asks for. -/
def Query.set? : Query → Option CharSet
  | .named name => namedSet? (looseName name)
  | .valued property value => valuedSet? (looseName property) (looseName value)

end Emend.Unicode

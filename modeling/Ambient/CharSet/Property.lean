/-
Sets of characters by the names of their properties.

`CharSet.property?` finds the set that `\p{...}` stands for: either one name, of a binary property,
a category or a script, or the name of a property and one of its values. Names are compared by
`looseName`: case, blanks, dashes and underscores do not matter, nor does `is` before a name.
-/
import Ambient.CharSet.Age
import Ambient.CharSet.ScriptExtension
import Ambient.CharSet.Segment

namespace Ambient

/-- A property of characters, as it is named. -/
inductive PropertyName where
  /-- A single name, of a property or of a value. -/
  | alone (name : String)
  | withValue (name value : String)
  deriving DecidableEq, Repr

/-- A name without what makes no difference in it. -/
def looseName (name : String) : String :=
  let cs := name.toList
  let (hasIs, cs) :=
    match cs with
    | i :: s :: rest => if i.toLower = 'i' && s.toLower = 's' then (true, rest) else (false, cs)
    | cs => (false, cs)
  let kept := cs.filter fun c => c.toNat < 0x80 && c != ' ' && c != '_' && c != '-'
  let loose := String.ofList (kept.map Char.toLower)
  -- A property is called so in full, and `c` is the name of a category.
  if hasIs && loose == "c" then "isc" else loose

namespace CharSet

/-- The characters of a category or a group of categories. -/
def categoryNamed? : String → Option CharSet
  | "any" => some all
  | "assigned" => some (category ["Cn"]).compl
  | "ascii" => some (range 0x00 0x7F)
  | name => (categoryNames.find? (·.1.contains name)).map fun (_, codes) => category codes

/-- The letters of the script with a name. -/
def scriptCode? (name : String) : Option String :=
  (scriptNames.find? (·.2.contains name)).map (·.1)

/-- The characters there were in an edition, which is named by its number. -/
def ageNamed? (name : String) : Option CharSet :=
  let isNamed (edition : String) :=
    edition == name || "v" ++ String.ofList (edition.toList.filter (· != '.')) == name
  (editions.findIdx? isNamed).map fun i => age (i + 1)

/-- The characters that one name stands for. -/
def named? (name : String) : Option CharSet :=
  -- These are names of categories, although there are properties that are called so.
  let asProperty := if ["cf", "sc", "lc"].contains name then none else binary? name
  asProperty.orElse fun _ => (categoryNamed? name).orElse fun _ => (scriptCode? name).map script

/-- The characters for which a property has a value. -/
def valued? (property value : String) : Option CharSet :=
  match property with
  | "gc" | "generalcategory" => categoryNamed? value
  | "sc" | "script" => (scriptCode? value).map script
  | "scx" | "scriptextensions" => (scriptCode? value).map scriptExtension
  | "age" => ageNamed? value
  | "gcb" | "graphemeclusterbreak" => cluster? value
  | "wb" | "wordbreak" => word? value
  | "sb" | "sentencebreak" => sentence? value
  | _ => none

/-- The characters that a property as it is named stands for, if there is one. -/
def property? : PropertyName → Option CharSet
  | .alone name => named? (looseName name)
  | .withValue name value => valued? (looseName name) (looseName value)

end CharSet

end Ambient

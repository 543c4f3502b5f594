/-
Output units: what is written under one name.

* `OutputUnit` — a name with its contents;
* `unitKey` — the key of a module's unit: its first two segments, or all of it;
* `gathered` — the contents of the units, put together from one module after the other;
* `unitsOf` — the units of some modules, and an index of them if there is to be one.
-/
import Ambient.Declaration.Basic
import Ambient.Grouping
import Ambient.Text.Split

namespace Ambient

/-- A text with the name it is written under. -/
structure OutputUnit where
  name : String
  contents : String
  deriving DecidableEq, Repr, Inhabited

/-- The key of the unit that a module belongs to. Modules share a unit if their names agree in the
first two segments, unless each is to have its own. -/
def unitKey (groupsByModule : Bool) (module : String) : String :=
  let segments := Text.splitOn '.' module.toList
  String.ofList (['_'].intercalate (if groupsByModule then segments else segments.take 2))

/-- The name of the unit with a key. -/
def unitName (key : String) : String :=
  key ++ ".d.ts"

/-- What there is so far and a further text, with an empty line between texts that end in a line
end. -/
def extended (contents text : String) : String :=
  if contents = "" then text else contents ++ "\n" ++ text

/-- Several texts one after the other. -/
def joined (texts : List String) : String :=
  texts.foldl extended ""

/-- Texts that are not empty stand one after the other, an empty line between them. -/
theorem joined_eq_intercalate {texts : List String} (h : ∀ text ∈ texts, text ≠ "") :
    joined texts = "\n".intercalate texts := by
  have go : ∀ (texts : List String) (sofar : String), sofar ≠ "" →
      texts.foldl extended sofar = "\n".intercalate (sofar :: texts) := by
    intro texts
    induction texts with
    | nil => intro sofar _; simp
    | cons text texts ih =>
      intro sofar hs
      rw [List.foldl_cons, extended, if_neg hs, ih _ (by simp [hs])]
      cases texts <;> simp [String.append_assoc]
  cases texts with
  | nil => rfl
  | cons text texts => exact go texts text (h text List.mem_cons_self)

/-- Puts a text with those of its key. A new key comes last. -/
def addText (key text : String) : List (String × String) → List (String × String)
  | [] => [(key, text)]
  | (k, contents) :: units =>
    if k = key then (k, extended contents text) :: units
    else (k, contents) :: addText key text units

/-- The contents of the units by key, put together from one module after the other. -/
def gathered (groupsByModule : Bool) (modules : List (String × String)) : List (String × String) :=
  modules.foldl (fun units (module, text) => addText (unitKey groupsByModule module) text units) []

/-- The unit that refers to all others. -/
def indexUnit (keys : List String) : OutputUnit where
  name := "index.d.ts"
  contents := "// auto-generated references to packages\n"
    ++ String.join (keys.map fun key => "/// <reference path='" ++ unitName key ++ "' />\n")

/-- The units of some modules with their texts, in the order of first occurrence. -/
def unitsOf (s : Settings) (modules : List (String × String)) : List OutputUnit :=
  let entries := gathered s.groupsByModule modules
  let units := entries.map fun (key, contents) => ⟨unitName key, contents⟩
  if s.buildsIndex then units ++ [indexUnit (entries.map Prod.fst)] else units

end Ambient

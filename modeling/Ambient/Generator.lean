/-
From a catalogue to declarations.

* `Generator` — settings with their whitelist made ready;
* `Generator.refine` — a definition completed from its ancestors, as the settings ask for, and all
  nested ones as well;
* `Generator.transform` — the selected definitions, refined;
* `Generator.run` — the units of the declarations of these.
-/
import Ambient.Declaration.Basic
import Ambient.Hierarchy.Inheritance
import Ambient.Output.Modules
import Ambient.Output.Units

namespace Ambient

/-- Settings with their whitelist. -/
structure Generator where
  settings : Settings
  whitelist : Whitelist

namespace Generator

/-- The generator for some settings, unless one of their patterns is invalid. -/
def ofSettings (s : Settings) : Except InvalidPattern Generator := do
  return ⟨s, ← Whitelist.ofList s.whitelist⟩

/-- The top-level definitions to declare. -/
def selected (g : Generator) (c : Catalogue) : List Definition :=
  match g.settings.rootTypes with
  | [] => c.roots
  | names =>
    let reached := c.reachableRoots names
    c.roots.filter (·.name ∈ reached)

/-- One definition completed from its ancestors. -/
def complete (g : Generator) (c : Catalogue) (d : Definition) : Definition :=
  let d := if g.settings.flattens then d.flattened c g.whitelist else d.withOverloads c g.whitelist
  if g.settings.forcesDocs then d.withForcedDocs c else d

mutual

/-- A definition completed from its ancestors, after those nested in it. -/
def refine (g : Generator) (c : Catalogue) : Definition → Definition
  | ⟨kind, type, superTypes, interfaces, members, doc, isPublic, isStatic⟩ =>
    g.complete c
      ⟨kind, type, superTypes, interfaces, g.refineMembers c members, doc, isPublic, isStatic⟩

/-- Members with the nested definitions completed. -/
def refineMembers (g : Generator) (c : Catalogue) : List Member → List Member
  | [] => []
  | .nested d :: members => .nested (g.refine c d) :: g.refineMembers c members
  | .method m :: members => .method m :: g.refineMembers c members
  | .field f :: members => .field f :: g.refineMembers c members

end

theorem refineMembers_eq_map (g : Generator) (c : Catalogue) (ms : List Member) :
    g.refineMembers c ms = ms.map (Member.mapNested (g.refine c)) := by
  induction ms with
  | nil => rfl
  | cons m ms ih => cases m <;> simp [refineMembers, Member.mapNested, ih]

/-- A definition is completed once the definitions nested in it are. -/
theorem refine_eq (g : Generator) (c : Catalogue) (d : Definition) :
    g.refine c d =
      g.complete c { d with members := d.members.map (Member.mapNested (g.refine c)) } := by
  cases d
  rw [refine, refineMembers_eq_map]

/-- The selected definitions, completed. -/
def transform (g : Generator) (c : Catalogue) : List Definition :=
  (g.selected c).map (g.refine c)

/-- The declarations of the selected definitions. -/
def run (g : Generator) (c : Catalogue) : List OutputUnit :=
  let modules := modulesOf (g.transform c)
  unitsOf g.settings (modules.map fun (module, ds) => (module, moduleText c g.settings module ds))

end Generator

end Ambient

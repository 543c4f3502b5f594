/-
The catalogue of all known definitions.

A `Catalogue` holds the top-level definitions of a model in their order and, to be looked up as
well, those nested in them. `Catalogue.ofList` refuses a list in which a name would stand for two
of them.

* `find?`, `resolve` — the definition with a name, and the one that a type expression names;
* `rootOf?` — the top-level definition that a name belongs to;
* `definitions` — all definitions that can be found.
-/
import Ambient.Definition.Basic

namespace Ambient

/-- A nested definition with the name of the top-level definition around it. -/
structure NestedEntry where
  owner : String
  definition : Definition

/-- All known definitions. -/
structure Catalogue where
  /-- The top-level definitions, in the order of the model. -/
  roots : List Definition := []
  /-- The nested definitions, the latest first. -/
  nested : List NestedEntry := []

/-- A name that stands for two definitions. -/
structure DuplicateType where
  name : String
  deriving DecidableEq, Repr

/-- The wording. -/
def DuplicateType.message (e : DuplicateType) : String :=
  "type `" ++ e.name ++ "` is defined more than once"

namespace Catalogue

/-! ### Look-up -/

/-- The top-level definition with this name. -/
def root? (c : Catalogue) (name : String) : Option Definition :=
  c.roots.find? (·.name = name)

/-- The entry of the nested definition with this name. -/
def nested? (c : Catalogue) (name : String) : Option NestedEntry :=
  c.nested.find? (·.definition.name = name)

/-- The definition with this name. A top-level one comes first. -/
def find? (c : Catalogue) (name : String) : Option Definition :=
  c.root? name <|> (c.nested? name).map (·.definition)

/-- Whether there is a definition with this name. -/
def contains (c : Catalogue) (name : String) : Bool :=
  (c.find? name).isSome

/-- The definition that a type expression names. -/
def resolve (c : Catalogue) (t : TypeExpr) : Option Definition :=
  c.find? t.name

/-- The name of the top-level definition that this name belongs to: its own if it is one. -/
def rootOf? (c : Catalogue) (name : String) : Option String :=
  if (c.root? name).isSome then some name else (c.nested? name).map (·.owner)

/-- Every definition that can be found. -/
def definitions (c : Catalogue) : List Definition :=
  c.roots ++ c.nested.map (·.definition)

theorem name_of_root? {c : Catalogue} {name : String} {d : Definition}
    (h : c.root? name = some d) : d.name = name := by
  simpa using List.find?_some h

theorem mem_roots_of_root? {c : Catalogue} {name : String} {d : Definition}
    (h : c.root? name = some d) : d ∈ c.roots :=
  List.mem_of_find?_eq_some h

/-- A definition is found at the top level or else among the nested ones. -/
theorem find?_eq_some {c : Catalogue} {name : String} {d : Definition}
    (h : c.find? name = some d) :
    c.root? name = some d ∨ ∃ e, c.nested? name = some e ∧ e.definition = d := by
  rw [find?] at h
  cases hr : c.root? name with
  | some r => exact .inl (by simpa [hr] using h)
  | none => exact .inr (by simpa [hr] using h)

/-- What is found under a name has it. -/
theorem name_of_find? {c : Catalogue} {name : String} {d : Definition}
    (h : c.find? name = some d) : d.name = name := by
  rcases find?_eq_some h with h | ⟨e, he, rfl⟩
  · exact name_of_root? h
  · simpa using List.find?_some he

/-- What is found is among the definitions. -/
theorem mem_definitions_of_find? {c : Catalogue} {name : String} {d : Definition}
    (h : c.find? name = some d) : d ∈ c.definitions := by
  rcases find?_eq_some h with h | ⟨e, he, rfl⟩
  · exact List.mem_append_left _ (mem_roots_of_root? h)
  · exact List.mem_append_right _ (List.mem_map_of_mem (List.mem_of_find?_eq_some he))

/-! ### Construction -/

mutual

/-- Adds a nested definition, after those nested in it. Its name must be new when it is met. -/
def addNested (owner : String) : Definition → Catalogue → Except DuplicateType Catalogue
  | ⟨kind, type, superTypes, interfaces, members, doc, isPublic, isStatic⟩, c =>
    let d : Definition := ⟨kind, type, superTypes, interfaces, members, doc, isPublic, isStatic⟩
    if c.contains d.name then .error ⟨d.name⟩
    else do
      let c ← addMembers owner members c
      return { c with nested := ⟨owner, d⟩ :: c.nested }

/-- Adds the definitions nested in some members. -/
def addMembers (owner : String) : List Member → Catalogue → Except DuplicateType Catalogue
  | [], c => .ok c
  | .nested d :: members, c => do
    let c ← addNested owner d c
    addMembers owner members c
  | .method _ :: members, c => addMembers owner members c
  | .field _ :: members, c => addMembers owner members c

end

/-- Adds a top-level definition, after those nested in it. Its name must be new when it is met. -/
def add (c : Catalogue) (d : Definition) : Except DuplicateType Catalogue :=
  if c.contains d.name then .error ⟨d.name⟩
  else do
    let c ← addMembers d.name d.members c
    return { c with roots := c.roots ++ [d] }

/-- The catalogue of the definitions of a model. -/
def ofList (ds : List Definition) : Except DuplicateType Catalogue :=
  ds.foldlM add {}

end Catalogue

end Ambient

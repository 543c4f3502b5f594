/-
Ancestors and reachable types.

* `Catalogue.heritage` — the graph of definitions and the types they inherit from;
* `Catalogue.lineage` — the definitions above some type expressions, depth-first, super types
  before interfaces;
* `Catalogue.ancestors` — those above a definition, itself excluded;
* `Catalogue.dependencies`, `Catalogue.reachableRoots` — the top-level definitions that some names
  lead to through everything that definitions mention, in the order of the catalogue.
-/
import Ambient.Catalogue
import Ambient.Search

namespace Ambient.Catalogue

/-- Definitions with the types they inherit from. -/
def heritage (c : Catalogue) : Graph TypeExpr Definition where
  nodes := c.definitions
  key := Definition.name
  find := c.resolve
  edges := Definition.parents
  find_mem := mem_definitions_of_find?

/-- The definitions that the types name and those above them, each once, in the order of a
depth-first search. Types without a definition are passed over. -/
def lineage (c : Catalogue) (types : List TypeExpr) : List Definition :=
  c.heritage.visit types []

/-- The definitions above a definition, each once and never itself. -/
def ancestors (c : Catalogue) (d : Definition) : List Definition :=
  c.heritage.visit d.parents [d.name]

/-- The top-level definition that a name belongs to. -/
def rootDefinition? (c : Catalogue) (name : String) : Option Definition :=
  (c.rootOf? name).bind c.root?

/-- The names that type expressions without arguments are written with. -/
def simpleNames (ts : List TypeExpr) : List String :=
  ts.filterMap fun
    | .simple name => some name
    | _ => none

/-- Top-level definitions with the names that they mention. -/
def dependencies (c : Catalogue) : Graph String Definition where
  nodes := c.roots
  key := Definition.name
  find := c.rootDefinition?
  edges d := simpleNames d.mentions
  find_mem h := by
    obtain ⟨_, -, h⟩ := Option.bind_eq_some_iff.mp h
    exact mem_roots_of_root? h

/-- The names of the top-level definitions that the given names lead to, in the order of the
catalogue. A nested definition leads to the one around it; unknown names lead nowhere. -/
def reachableRoots (c : Catalogue) (names : List String) : List String :=
  let reached := (c.dependencies.visit names []).map Definition.name
  (c.roots.map Definition.name).filter (· ∈ reached)

end Ambient.Catalogue

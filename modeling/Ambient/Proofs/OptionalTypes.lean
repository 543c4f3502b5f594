/-
Optional types in a whole run.

* `Generator.run_definite` — the model that resolves no type as optional gives the
  same units, whatever the settings;
* `Record.crates` — a model with optional types wherever a type can be.
-/
import Ambient.Proofs.DefinitePasses
import Ambient.Proofs.DefiniteRecords

namespace Ambient

/-- **Which types are optional is not seen in the output**: the model in which none
is, but for types that are inherited from as optional ones, is accepted as well and
gives the same.  The dimensions of arrays in the model have to be few enough to be
counted, optional types between arrays left aside. -/
theorem Generator.run_definite {M : Record.Model} {c : Catalogue}
    (hc : Catalogue.ofList M.definitions = .ok c)
    (hcounted : ∀ n ∈ M.arrayTotals, n ≤ TypeExpr.maxDimensions) (g : Generator) :
    ∃ c', Catalogue.ofList M.definite.definitions = .ok c' ∧ g.run c' = g.run c := by
  refine ⟨c.map Definition.definite, ?_, ?_⟩
  · rw [Record.Model.definitions_definite hcounted]
    exact Catalogue.ofList_map Definition.keepsNesting_definite hc
  · refine run_map Definition.keepsNesting_definite Definition.isBuiltin_definite
      Definition.simpleNames_mentions_definite (fun d _ => refine_definite d) ?_
    intro d _ e _
    exact Declaration.lines_definite g.settings c (g.refine c e)

namespace Record

/-- A crate of things that may be missing, in rows of shelves that may be missing. -/
def crates : Model where
  types :=
    [⟨"a.Crate", .classType,
      [⟨"T", some (.nullable (.reference "a.Thing" [.nullable (.variable "T")]))⟩],
      [.nullable (.reference "a.Thing" [.nullable (.variable "T")])], [],
      [.field ⟨"rows", .array (.nullable (.array (.nullable (.variable "T")) 1)) 0, none, true,
        false, false⟩,
       .method .plain ⟨"find", none,
        some (.nullable (.reference "a.Thing" [.wildcard (some (.nullable (.variable "T"))) none])),
        [⟨"thing", .nullable (.variable "T"), false⟩],
        [⟨"S", some (.nullable (.variable "T"))⟩], none, true, false, false⟩],
      none, true, false⟩,
     ⟨"a.Thing", .interface, [⟨"T", none⟩], [], [], [], none, true, false⟩]

/-- The rows of a crate are arrays with two dimensions. -/
example : crates.arrayTotals = [2, 1] := rfl

end Record

open Record (crates) in
theorem Generator.run_definite_crates :
    Catalogue.ofList crates.definitions = .ok (Catalogue.indexed crates.definitions) ∧
    (∀ n ∈ crates.arrayTotals, n ≤ TypeExpr.maxDimensions) ∧
    ∃ c', Catalogue.ofList crates.definite.definitions = .ok c' ∧
      (⟨{}, {}⟩ : Generator).run c' =
        (⟨{}, {}⟩ : Generator).run (Catalogue.indexed crates.definitions) :=
  have hc : Catalogue.ofList crates.definitions = .ok (Catalogue.indexed crates.definitions) := rfl
  have hcounted : ∀ n ∈ crates.arrayTotals, n ≤ TypeExpr.maxDimensions := by decide
  ⟨hc, hcounted, run_definite hc hcounted ⟨{}, {}⟩⟩

end Ambient

/-
Dotted names such as `com.acme.Zoo.Keeper`.

* `scope` — everything before the last dot: the package, or the enclosing type;
* `simple` — the last segment.

Both are cut at the same dot (`scope_append_simple`), and a name without a dot stands in the empty
scope. So names are told apart by their scopes and simple names (`eq_of_scope_eq_of_simple_eq`).
-/
import Ambient.Text.Split

namespace Ambient.QualifiedName

/-- What a dotted name is declared in; empty for a name without a dot. -/
def scope (name : String) : String :=
  match Text.splitLast '.' name.toList with
  | some (before, _) => String.ofList before
  | none => ""

/-- The last segment of a dotted name. -/
def simple (name : String) : String :=
  match Text.splitLast '.' name.toList with
  | some (_, after) => String.ofList after
  | none => name

/-- A name with a dot is its scope, a dot and its simple name. -/
theorem scope_append_simple {name : String} (h : '.' ∈ name.toList) :
    scope name ++ "." ++ simple name = name := by
  unfold scope simple
  cases hs : Text.splitLast '.' name.toList with
  | none => exact absurd h (Text.splitLast_eq_none_iff.mp hs)
  | some p =>
    obtain ⟨before, after⟩ := p
    apply String.toList_inj.mp
    simp [(Text.splitLast_eq_some hs).1]

/-- A name without a dot stands in the empty scope. -/
theorem scope_eq_empty {name : String} (h : '.' ∉ name.toList) : scope name = "" := by
  simp [scope, Text.splitLast_eq_none_iff.mpr h]

/-- A name in some scope is its scope, a dot and its simple name. -/
theorem scope_append_simple_of_ne {name : String} (h : scope name ≠ "") :
    scope name ++ "." ++ simple name = name :=
  scope_append_simple (Decidable.byContradiction fun hdot => h (scope_eq_empty hdot))

/-- Names of one scope differ in their simple names. -/
theorem eq_of_scope_eq_of_simple_eq {m n : String} (hne : scope n ≠ "")
    (hscope : scope m = scope n) (hsimple : simple m = simple n) : m = n := by
  rw [← scope_append_simple_of_ne (hscope ▸ hne : scope m ≠ ""),
    ← scope_append_simple_of_ne hne, hscope, hsimple]

end Ambient.QualifiedName

/-
Definitions inside definitions.

Most facts about a definition hold because they hold of everything nested in
it, so this file turns nesting into something to do induction on:

* `Definition.nesting_induction` — what passes from the definitions one level
  inside a definition to the definition itself holds of all definitions;
* `Definition.names` — the names of a definition and of all nested in it;
* `Definition.Everywhere` — a property of a definition and of all nested in it,
  with its unfolding `everywhere_iff`.

`mem_withNested_trans` says that nesting is transitive.
-/
import Ambient.Definition.Basic

namespace Ambient.Definition

/-! ### Induction on nesting -/

mutual

/-- One definition, from those among its members. -/
private theorem nestingStep {P : Definition → Prop}
    (step : ∀ d : Definition, (∀ e ∈ d.nested, P e) → P d) : (d : Definition) → P d
  | ⟨kind, type, superTypes, interfaces, members, doc, isPublic, isStatic⟩ =>
    step ⟨kind, type, superTypes, interfaces, members, doc, isPublic, isStatic⟩
      (nestingStepAmong step members)

/-- The definitions among some members. -/
private theorem nestingStepAmong {P : Definition → Prop}
    (step : ∀ d : Definition, (∀ e ∈ d.nested, P e) → P d) :
    (ms : List Member) → ∀ e ∈ ms.filterMap Member.nested?, P e
  | [], _, h => absurd h List.not_mem_nil
  | .nested d :: ms, e, h => by
    rcases List.mem_cons.mp h with he | he
    · rw [he]
      exact nestingStep step d
    · exact nestingStepAmong step ms e he
  | .method _ :: ms, e, h => nestingStepAmong step ms e h
  | .field _ :: ms, e, h => nestingStepAmong step ms e h

end

/-- Induction on how deeply definitions are nested. -/
theorem nesting_induction {P : Definition → Prop}
    (step : ∀ d : Definition, (∀ e ∈ d.nested, P e) → P d) (d : Definition) : P d :=
  nestingStep step d

/-! ### Everything nested in a definition -/

theorem mem_nested_iff {d e : Definition} : e ∈ d.nested ↔ .nested e ∈ d.members := by
  rw [nested, List.mem_filterMap]
  constructor
  · rintro ⟨m, hm, he⟩
    cases m with
    | nested f =>
      obtain rfl : f = e := by simpa [Member.nested?] using he
      exact hm
    | method m => simp [Member.nested?] at he
    | field f => simp [Member.nested?] at he
  · intro h
    exact ⟨.nested e, h, rfl⟩

theorem nestedAmong_eq_flatMap (ms : List Member) :
    nestedAmong ms = (ms.filterMap Member.nested?).flatMap withNested := by
  induction ms with
  | nil => rfl
  | cons m ms ih =>
    cases m <;> simp [nestedAmong, List.filterMap_cons, Member.nested?, ih]

/-- A definition, then everything in the definitions one level inside it. -/
theorem withNested_eq_cons (d : Definition) :
    d.withNested = d :: d.nested.flatMap withNested := by
  rw [withNested_eq, nestedAmong_eq_flatMap]
  rfl

theorem mem_withNested_self (d : Definition) : d ∈ d.withNested := by
  rw [withNested_eq_cons]
  exact List.mem_cons_self

theorem mem_withNested_iff {d e : Definition} :
    e ∈ d.withNested ↔ e = d ∨ ∃ f ∈ d.nested, e ∈ f.withNested := by
  rw [withNested_eq_cons, List.mem_cons, List.mem_flatMap]

/-- Nesting is transitive. -/
theorem mem_withNested_trans {d e f : Definition} (hf : f ∈ e.withNested)
    (he : e ∈ d.withNested) : f ∈ d.withNested := by
  induction d using nesting_induction with
  | step d ih =>
    -- Either `e` is `d`, or it stands in one of the definitions one level inside.
    rcases mem_withNested_iff.mp he with rfl | ⟨g, hg, he⟩
    · exact hf
    · exact mem_withNested_iff.mpr (.inr ⟨g, hg, ih g hg he⟩)

/-- The names of a definition and of all nested in it. -/
def names (d : Definition) : List String :=
  d.withNested.map name

theorem names_eq_cons (d : Definition) : d.names = d.name :: d.nested.flatMap names := by
  rw [names, withNested_eq_cons, List.map_cons, List.map_flatMap]
  rfl

theorem mem_names_self (d : Definition) : d.name ∈ d.names :=
  List.mem_map_of_mem (mem_withNested_self d)

theorem mem_names_iff {d : Definition} {n : String} :
    n ∈ d.names ↔ n = d.name ∨ ∃ e ∈ d.nested, n ∈ e.names := by
  rw [names_eq_cons, List.mem_cons, List.mem_flatMap]

/-- The property holds of the definition and of all nested in it. -/
def Everywhere (P : Definition → Prop) (d : Definition) : Prop :=
  ∀ e ∈ d.withNested, P e

theorem everywhere_iff {P : Definition → Prop} {d : Definition} :
    d.Everywhere P ↔ P d ∧ ∀ e ∈ d.nested, e.Everywhere P := by
  constructor
  · intro h
    refine ⟨h d (mem_withNested_self d), fun e he f hf => ?_⟩
    exact h f (mem_withNested_iff.mpr (.inr ⟨e, he, hf⟩))
  · rintro ⟨hd, hn⟩ e he
    rcases mem_withNested_iff.mp he with rfl | ⟨f, hf, he⟩
    · exact hd
    · exact hn f hf e he

end Ambient.Definition

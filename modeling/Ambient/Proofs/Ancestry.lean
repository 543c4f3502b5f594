/-
What a definition inherits from.

The ancestors of a definition are found by a search that passes over whatever it
has seen.  This file says what is found without mention of the search:

* `Catalogue.Inherits` — a chain of references leads from the one definition to
  the other, and nowhere back to the name that it starts from;
* `mem_ancestors_iff` — the ancestors are the definitions that are inherited from;
* `mem_ancestors_trans` — the ancestors of an ancestor are ancestors, or the
  definition itself if it is part of a cycle;
* `leadsAway` — a reference leads neither to the definition itself nor to an
  unknown type; these are the references to ancestors (`filter_leadsAway`).
-/
import Ambient.Hierarchy.Inheritance
import Ambient.Proofs.Traversal

namespace Ambient.Catalogue

/-- Definitions are looked up by their names. -/
theorem heritage_keysTell (c : Catalogue) : c.heritage.KeysTell := by
  intro s t d e hd he hk
  have hd' : c.find? s.name = some d := hd
  have he' : c.find? t.name = some e := he
  have hn : d.name = e.name := hk
  rw [← name_of_find? hd', hn, name_of_find? he', he'] at hd'
  exact (Option.some.inj hd').symm

/-- A chain of references leads from the one definition to the other, and to none
of the name of the first on the way. -/
def Inherits (c : Catalogue) (d a : Definition) : Prop :=
  Relation.TransGen (fun x y => c.heritage.Edge x y ∧ y.name ≠ d.name) d a

variable {c : Catalogue} {d a : Definition}

theorem mem_ancestors_iff : a ∈ c.ancestors d ↔ c.Inherits d a := by
  have hkey : ∀ e : Definition, c.heritage.key e ∉ [d.name] ↔ e.name ≠ d.name :=
    fun e => not_congr List.mem_singleton
  rw [ancestors, Graph.mem_visit_iff c.heritage_keysTell, Inherits, Relation.TransGen.head'_iff]
  simp only [Graph.Reaches, Graph.Edge, hkey]
  constructor
  · rintro ⟨t, ht, e, he, hn, hp⟩
    exact ⟨e, ⟨⟨t, ht, he⟩, hn⟩, hp⟩
  · rintro ⟨e, ⟨⟨t, ht, he⟩, hn⟩, hp⟩
    exact ⟨t, ht, e, he, hn, hp⟩

/-- The end of a reference is inherited from, unless it has the name of the
definition. -/
theorem Inherits.of_parent {t : TypeExpr} (ht : t ∈ d.parents) (ha : c.resolve t = some a)
    (hn : a.name ≠ d.name) : c.Inherits d a :=
  .single ⟨⟨t, ht, ha⟩, hn⟩

/-- The end of a reference can be found. -/
theorem find?_of_edge {e : Definition} (h : c.heritage.Edge e a) : c.find? a.name = some a := by
  obtain ⟨t, -, ht⟩ := h
  have ht' : c.find? t.name = some a := ht
  rw [name_of_find? ht', ht']

/-- Whatever is inherited from can be found, and has another name. -/
theorem Inherits.find? (h : c.Inherits d a) : c.find? a.name = some a ∧ a.name ≠ d.name := by
  cases h with
  | single hstep => exact ⟨find?_of_edge hstep.1, hstep.2⟩
  | tail _ hstep => exact ⟨find?_of_edge hstep.1, hstep.2⟩

theorem mem_inheritedMethods_iff {m : Method} :
    m ∈ c.inheritedMethods d ↔ ∃ a, c.Inherits d a ∧ m ∈ a.methods ∧ m.kind ≠ .constructor := by
  simp only [inheritedMethods, List.mem_flatMap, Definition.inheritable, List.mem_filter,
    decide_eq_true_eq, mem_ancestors_iff]

/-- The ancestors of an ancestor are ancestors, unless they lead back to the
definition. -/
theorem mem_ancestors_trans {b : Definition} (hd : c.find? d.name = some d)
    (ha : a ∈ c.ancestors d) (hb : b ∈ c.ancestors a) : b = d ∨ b ∈ c.ancestors d := by
  have hfind : c.heritage.find d.type = some d := hd
  exact Graph.mem_visit_of_mem_visit c.heritage_keysTell hfind ha hb

/-! ### References -/

/-- Whether a reference leads away from the definition: to a definition that is
known and has another name. -/
def leadsAway (c : Catalogue) (d : Definition) (t : TypeExpr) : Bool :=
  (c.resolve t).isSome && t.name ≠ d.name

/-- The names of the ancestors tell which references lead to one. -/
theorem name_mem_ancestors_iff {t : TypeExpr} (ht : t ∈ d.parents) :
    t.name ∈ (c.ancestors d).map Definition.name ↔ c.leadsAway d t := by
  rw [List.mem_map, leadsAway, Bool.and_eq_true, Option.isSome_iff_exists, decide_eq_true_eq]
  constructor
  · rintro ⟨a, ha, hat⟩
    obtain ⟨hfind, hn⟩ := (mem_ancestors_iff.mp ha).find?
    rw [hat] at hfind hn
    exact ⟨⟨a, hfind⟩, hn⟩
  · rintro ⟨⟨a, ha⟩, hn⟩
    have hat : a.name = t.name := name_of_find? ha
    exact ⟨a, mem_ancestors_iff.mpr (.of_parent ht ha (hat ▸ hn)), hat⟩

/-- What is left of some references without those to ancestors. -/
theorem filter_leadsAway {ts : List TypeExpr} (hts : ts ⊆ d.parents) :
    (ts.filter fun t => t.name ∉ (c.ancestors d).map Definition.name) =
      ts.filter (!c.leadsAway d ·) := by
  refine List.filter_congr fun t ht => ?_
  simp only [name_mem_ancestors_iff (hts ht), decide_not, Bool.decide_eq_true]

/-- A definition without references that lead away has no ancestors. -/
theorem ancestors_eq_nil (h : ∀ t ∈ d.parents, c.leadsAway d t = false) : c.ancestors d = [] := by
  refine Graph.visit_eq_nil fun t ht a ha => ?_
  have ha' : c.find? t.name = some a := ha
  have hn : t.name = d.name := by simpa [leadsAway, resolve, ha'] using h t ht
  rw [List.mem_singleton, ← hn]
  exact name_of_find? ha'

end Ambient.Catalogue

/-
The order of the input.

A catalogue is filled and searched in the order of its definitions.  This file
shows that only names matter for what comes out: the definitions in another
order make a catalogue just as well, and a run turns each of them into the same
as before.

* `Clash.perm_iff` — names clash in any order or in none;
* `find?_perm`, `rootOf?_perm` — the same is found under every name;
* `Generator.transform_eq` — the definitions that come out of a run are the
  selected ones in the order of the catalogue, refined one by one;
* `transform_perm` — for definitions in another order these are the same
  definitions, refined in the same way, in that order.
-/
import Ambient.Proofs.RootFilter

namespace Ambient

variable {ds es : List Definition}

/-- Names clash in any order of the definitions or in none. -/
theorem Clash.perm_iff (h : ds.Perm es) {n : String} : Clash n ds ↔ Clash n es := by
  induction h with
  | nil => exact Iff.rfl
  | @cons d ds es hp ih =>
    have hnames : n ∈ ds.flatMap Definition.names ↔ n ∈ es.flatMap Definition.names :=
      (hp.flatMap_right Definition.names).mem_iff
    rw [cons_iff, cons_iff, hnames, ih]
  | swap d e ds =>
    -- What clashes with each other clashes either way round.
    simp only [cons_iff, List.flatMap_cons, List.mem_append]
    tauto
  | trans _ _ ih₁ ih₂ => exact ih₁.trans ih₂

namespace Catalogue

/-! ### Look-up -/

section
variable (hclash : ∀ n, ¬Clash n ds) {n : String}
include hclash

theorem root?_eq_some_iff {d : Definition} :
    (indexed ds).root? n = some d ↔ d ∈ ds ∧ d.name = n := by
  constructor
  · intro h
    exact ⟨mem_roots_of_root? h, name_of_root? h⟩
  · rintro ⟨hd, rfl⟩
    exact root?_of_mem hclash hd

/-- A nested definition is found inside the one definition of the list that holds
its name. -/
theorem nested?_eq_some_iff {e : NestedEntry} :
    (indexed ds).nested? n = some e ↔
      ∃ d ∈ ds, (nestedEntries d).find? (·.definition.name = n) = some e := by
  have hfind : (indexed ds).nested? n =
      ds.reverse.findSome? fun d => (nestedEntries d).find? (·.definition.name = n) :=
    List.find?_flatMap
  have hnames : ∀ d e, (nestedEntries d).find? (·.definition.name = n) = some e →
      n ∈ d.names := by
    intro d e he
    have hn : e.definition.name = n := by simpa using List.find?_some he
    obtain ⟨-, f, hf, hef⟩ := mem_nestedEntries_iff.mp (List.mem_of_find?_eq_some he)
    exact Definition.mem_names_iff.mpr (.inr ⟨f, hf, List.mem_map.mpr ⟨e.definition, hef, hn⟩⟩)
  have hsound : ∀ e, (indexed ds).nested? n = some e →
      ∃ d ∈ ds, (nestedEntries d).find? (·.definition.name = n) = some e := by
    intro e he
    rw [hfind] at he
    obtain ⟨d, hd, he⟩ := List.exists_of_findSome?_eq_some he
    exact ⟨d, List.mem_reverse.mp hd, he⟩
  refine ⟨hsound e, ?_⟩
  rintro ⟨d, hd, he⟩
  have hsome : ((indexed ds).nested? n).isSome := by
    rw [hfind, List.findSome?_isSome_iff]
    exact ⟨d, List.mem_reverse.mpr hd, by rw [he]; rfl⟩
  -- Whatever is found has its name inside `d` as well.
  obtain ⟨e', he'⟩ := Option.isSome_iff_exists.mp hsome
  obtain ⟨d', hd', hde'⟩ := hsound e' he'
  obtain rfl : d' = d := eq_of_mem_names hclash hd' hd (hnames d' e' hde') (hnames d e he)
  rw [he', ← hde', he]

end

section
variable (h : ds.Perm es) (hclash : ∀ n, ¬Clash n ds)
include h hclash

theorem root?_perm (n : String) : (indexed es).root? n = (indexed ds).root? n := by
  have hclash' : ∀ n, ¬Clash n es := fun n hn => hclash n ((Clash.perm_iff h).mpr hn)
  ext d
  rw [root?_eq_some_iff hclash, root?_eq_some_iff hclash', h.mem_iff]

theorem nested?_perm (n : String) : (indexed es).nested? n = (indexed ds).nested? n := by
  have hclash' : ∀ n, ¬Clash n es := fun n hn => hclash n ((Clash.perm_iff h).mpr hn)
  ext e
  rw [nested?_eq_some_iff hclash, nested?_eq_some_iff hclash']
  simp only [h.mem_iff]

theorem find?_perm (n : String) : (indexed es).find? n = (indexed ds).find? n := by
  rw [find?, find?, root?_perm h hclash, nested?_perm h hclash]

theorem rootOf?_perm (n : String) : (indexed es).rootOf? n = (indexed ds).rootOf? n := by
  rw [rootOf?, rootOf?, root?_perm h hclash, nested?_perm h hclash]

/-! ### Search -/

/-- The same definitions are above everything, in the same order. -/
theorem sameAbove_perm (d : Definition) : (indexed ds).SameAbove (indexed es) d := by
  intro ts _ seen
  refine Graph.visit_congr (S := fun _ => True) ?_ ?_ (fun t _ => find?_perm h hclash t.name) ?_ ?_
  · intro e
    rfl
  · intro e
    rfl
  · intros
    trivial
  · intros
    trivial

/-- The given names lead to the same names. -/
theorem mem_reachableRoots_perm {names : List String} {x : String} :
    x ∈ (indexed es).reachableRoots names ↔ x ∈ (indexed ds).reachableRoots names := by
  have hrefers : (indexed es).Refers = (indexed ds).Refers := by
    funext x y
    rw [Refers, Refers, root?_perm h hclash]
    simp only [rootOf?_perm h hclash]
  rw [mem_reachableRoots_iff, mem_reachableRoots_iff, hrefers]
  simp only [rootOf?_perm h hclash]

end

end Catalogue

/-! ### Runs -/

namespace Generator

open Catalogue

variable (g : Generator)

/-- Whether a top-level definition is to be declared. -/
def selects (c : Catalogue) (d : Definition) : Bool :=
  g.settings.rootTypes = [] || d.name ∈ c.reachableRoots g.settings.rootTypes

theorem selected_eq_filter (c : Catalogue) : g.selected c = c.roots.filter (g.selects c) := by
  by_cases hg : g.settings.rootTypes = []
  · have hall : ∀ d ∈ c.roots, g.selects c d = true := fun d _ => by simp [selects, hg]
    rw [List.filter_eq_self.mpr hall, selected, hg]
  · rw [selected_eq hg]
    refine List.filter_congr fun d _ => ?_
    simp [selects, hg]

/-- The selected definitions, refined one by one. -/
theorem transform_eq (c : Catalogue) :
    g.transform c = (c.roots.filter (g.selects c)).map (g.refine c) := by
  rw [transform, selected_eq_filter]

/-- **The order of the input does not matter**: definitions in another order make
a catalogue just as well, and what comes out are the same definitions, selected
and refined as before, in that order. -/
theorem transform_perm {ds es : List Definition} (h : ds.Perm es) :
    ((∃ c, ofList ds = .ok c) ↔ ∃ c, ofList es = .ok c) ∧
    ∀ c c', ofList ds = .ok c → ofList es = .ok c' → ∀ g : Generator,
      g.transform c = (ds.filter (g.selects c)).map (g.refine c) ∧
      g.transform c' = (es.filter (g.selects c)).map (g.refine c) := by
  constructor
  · rw [exists_ofList_iff, exists_ofList_iff]
    simp only [Clash.perm_iff h]
  · intro c c' hc hc' g
    obtain ⟨rfl, hclash⟩ := ofList_eq_ok_iff.mp hc
    obtain ⟨rfl, -⟩ := ofList_eq_ok_iff.mp hc'
    refine ⟨g.transform_eq _, ?_⟩
    have hselects : g.selects (indexed es) = g.selects (indexed ds) := by
      funext d
      simp only [selects, mem_reachableRoots_perm h hclash]
    have hrefine : g.refine (indexed es) = g.refine (indexed ds) :=
      funext fun d => g.refine_congr fun e _ => sameAbove_perm h hclash e
    rw [transform_eq, hselects, hrefine]
    rfl

/-- A run for the leaf of the ring and all it leads to, with ancestors copied into
each type. -/
def leaves : Generator := ⟨{ flattens := true, rootTypes := ["a.Leaf"] }, {}⟩

theorem transform_perm_ring :
    ring.Perm ring.reverse ∧ ofList ring.reverse = .ok (indexed ring.reverse) ∧
    leaves.transform (indexed ring.reverse) =
      (ring.reverse.filter (leaves.selects (indexed ring))).map (leaves.refine (indexed ring)) := by
  have hring : ring.Perm ring.reverse := (List.reverse_perm ring).symm
  have hc : ofList ring = .ok (indexed ring) := rfl
  have hc' : ofList ring.reverse = .ok (indexed ring.reverse) := rfl
  exact ⟨hring, hc', ((transform_perm hring).2 _ _ hc hc' leaves).2⟩

end Generator

end Ambient

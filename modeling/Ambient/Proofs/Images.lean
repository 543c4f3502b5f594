/-
Catalogues of changed definitions.

The passes over definitions change members and edges, but neither the names of
definitions nor what is nested in what.  This file shows that a catalogue takes
notice of nothing else:

* `Definition.KeepsNesting` — the change keeps names, and changes what is nested
  in a definition in the same way as the definition;
* `Catalogue.map` — the catalogue with all of its definitions changed;
* `Catalogue.ofList_map` — it is the catalogue of the changed definitions;
* `find?_map`, `visit_heritage_map` — look-ups and searches in it find what they
  have found before, changed.
-/
import Ambient.Proofs.Ancestry
import Ambient.Proofs.DuplicateNames

namespace Ambient

/-- A change of definitions that keeps their names, and what is nested in them up
to the same change. -/
structure Definition.KeepsNesting (f : Definition → Definition) : Prop where
  name : ∀ d, (f d).name = d.name
  nested : ∀ d, (f d).nested = d.nested.map f

variable {f : Definition → Definition}

open Definition (names)

theorem Definition.KeepsNesting.names (hf : KeepsNesting f) (d : Definition) :
    (f d).names = d.names := by
  induction d using nesting_induction with
  | step d ih =>
    rw [names_eq_cons, names_eq_cons, hf.name, hf.nested, List.flatMap_map]
    exact congrArg _ (List.flatMap_congr ih)

theorem Clash.map_iff (hf : Definition.KeepsNesting f) {n : String} {ds : List Definition} :
    Clash n (ds.map f) ↔ Clash n ds := by
  have hnames : ∀ es : List Definition, (es.map f).flatMap names = es.flatMap names :=
    fun es => by simp [List.flatMap_map, hf.names]
  constructor
  · intro h
    -- Each place of a clash among the images is one among the definitions themselves.
    generalize hp : ds.map f = ps at h
    induction h generalizing ds with
    | beside hd hes =>
      obtain ⟨d, es, rfl, rfl, rfl⟩ := List.map_eq_cons_iff.mp hp
      rw [hnames] at hes
      exact .beside (hf.names d ▸ hd) hes
    | inside _ ih =>
      obtain ⟨d, es, rfl, rfl, rfl⟩ := List.map_eq_cons_iff.mp hp
      exact .inside (ih (hf.nested d).symm)
    | later _ ih =>
      obtain ⟨d, es, rfl, rfl, rfl⟩ := List.map_eq_cons_iff.mp hp
      exact .later (ih rfl)
  · intro h
    induction h with
    | beside hd hes => exact .beside (by simpa [hf.names] using hd) (by rwa [hnames])
    | inside _ ih => exact .inside (by simpa [hf.nested] using ih)
    | later _ ih => exact .later ih

/-- The entry with its definition changed. -/
def NestedEntry.map (f : Definition → Definition) (e : NestedEntry) : NestedEntry :=
  ⟨e.owner, f e.definition⟩

namespace Catalogue

/-- The catalogue with its definitions changed. -/
def map (f : Definition → Definition) (c : Catalogue) : Catalogue where
  roots := c.roots.map f
  nested := c.nested.map (NestedEntry.map f)

theorem entries_map (hf : Definition.KeepsNesting f) (owner : String) (d : Definition) :
    entries owner (f d) = (entries owner d).map (NestedEntry.map f) := by
  induction d using Definition.nesting_induction with
  | step d ih =>
    rw [entries_eq_cons, entries_eq_cons, List.map_cons, List.map_flatMap, hf.nested,
      ← List.map_reverse, List.flatMap_map]
    exact congrArg _ (List.flatMap_congr fun e he => ih e (List.mem_reverse.mp he))

theorem indexed_map (hf : Definition.KeepsNesting f) (ds : List Definition) :
    indexed (ds.map f) = (indexed ds).map f := by
  have hentries : ∀ d : Definition, nestedEntries (f d) = (nestedEntries d).map (.map f) := by
    intro d
    rw [nestedEntries_eq, nestedEntries_eq, hf.nested, hf.name, List.map_flatMap,
      ← List.map_reverse, List.flatMap_map]
    exact List.flatMap_congr fun e _ => entries_map hf d.name e
  rw [indexed, map, indexed, List.map_flatMap, ← List.map_reverse, List.flatMap_map]
  simp only [hentries]

/-- Changed definitions make a catalogue if the definitions do: theirs, changed. -/
theorem ofList_map (hf : Definition.KeepsNesting f) {ds : List Definition} {c : Catalogue}
    (hc : ofList ds = .ok c) : ofList (ds.map f) = .ok (c.map f) := by
  obtain ⟨rfl, hclash⟩ := ofList_eq_ok_iff.mp hc
  refine ofList_eq_ok_iff.mpr ⟨(indexed_map hf ds).symm, fun n hn => ?_⟩
  exact hclash n ((Clash.map_iff hf).mp hn)

/-! ### Look-up -/

variable (hname : ∀ d, (f d).name = d.name) (c : Catalogue)
include hname

theorem root?_map (n : String) : (c.map f).root? n = (c.root? n).map f := by
  rw [root?, map, List.find?_map, root?]
  simp only [Function.comp_def, hname]

theorem nested?_map (n : String) : (c.map f).nested? n = (c.nested? n).map (.map f) := by
  rw [nested?, map, List.find?_map, nested?]
  simp only [Function.comp_def, NestedEntry.map, hname]

theorem find?_map (n : String) : (c.map f).find? n = (c.find? n).map f := by
  rw [find?, find?, root?_map hname, nested?_map hname]
  cases c.root? n <;> cases c.nested? n <;> rfl

theorem rootDefinition?_map (n : String) :
    (c.map f).rootDefinition? n = (c.rootDefinition? n).map f := by
  -- Owners are names, which stay.
  have hroot : (c.map f).rootOf? n = c.rootOf? n := by
    rw [rootOf?, rootOf?, root?_map hname, nested?_map hname]
    cases c.root? n <;> cases c.nested? n <;> rfl
  rw [rootDefinition?, rootDefinition?, hroot, Option.map_bind]
  exact congrArg _ (funext (root?_map hname c))

theorem leadsAway_map (d : Definition) (t : TypeExpr) :
    (c.map f).leadsAway (f d) t = c.leadsAway d t := by
  rw [leadsAway, leadsAway, resolve, find?_map hname, Option.isSome_map, hname]
  rfl

/-- The search through the ancestors finds the changed ones, if the edges keep
their names. -/
theorem visit_heritage_image {q : TypeExpr → TypeExpr} (hq : ∀ t, (q t).name = t.name)
    (hparents : ∀ d, (f d).parents = d.parents.map q) (ts : List TypeExpr) (seen : List String) :
    (c.map f).heritage.visit (ts.map q) seen = (c.heritage.visit ts seen).map f := by
  have hfind : ∀ t, (c.map f).resolve (q t) = (c.resolve t).map f := by
    intro t
    rw [resolve, find?_map hname, hq, resolve]
  refine Graph.visit_image (S := fun _ => True) hname hparents (fun t _ => hfind t) ?_ ?_
  · intros
    trivial
  · intros
    trivial

theorem visit_heritage_map (hparents : ∀ d, (f d).parents = d.parents) (ts : List TypeExpr)
    (seen : List String) :
    (c.map f).heritage.visit ts seen = (c.heritage.visit ts seen).map f := by
  have hparents' : ∀ d, (f d).parents = d.parents.map id := fun d => by
    rw [hparents, List.map_id]
  have h : (c.map f).heritage.visit (ts.map id) seen = (c.heritage.visit ts seen).map f :=
    visit_heritage_image hname c (fun _ => rfl) hparents' ts seen
  rwa [List.map_id] at h

/-- The root closure takes no notice of a change that keeps the names mentioned. -/
theorem reachableRoots_map
    (hmentions : ∀ d, simpleNames (f d).mentions = simpleNames d.mentions) (names : List String) :
    (c.map f).reachableRoots names = c.reachableRoots names := by
  have hvisit : (c.map f).dependencies.visit names [] =
      (c.dependencies.visit names []).map f := by
    refine Graph.visit_map (S := fun _ => True) hname hmentions
      (fun n _ => rootDefinition?_map hname c n) ?_ ?_
    · intros
      trivial
    · intros
      trivial
  have hnames : ∀ ds : List Definition,
      (ds.map f).map Definition.name = ds.map Definition.name := by
    intro ds
    rw [List.map_map]
    exact List.map_congr_left fun d _ => hname d
  rw [reachableRoots, reachableRoots, hvisit, hnames, map, hnames]

end Catalogue

end Ambient

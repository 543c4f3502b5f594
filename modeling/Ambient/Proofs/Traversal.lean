/-
What a depth-first search finds.

`Graph.visit` passes over nodes that have been seen, whichever branch they were
seen in.  This file shows that nothing is lost by it:

* `mem_visit_iff` — the visited nodes are those at the end of a path from the
  references that goes through no node seen before;
* `mem_visit_of_mem_visit` — searching on from a visited node meets nothing new;
* `visit_image`, `visit_map` — the search through an image of the graph visits
  the images, as long as the two agree on every reference that can be met.

Completeness rests on `visit_closed`: whatever a visited node refers to has been
seen before or is visited as well.
-/
import Mathlib.Logic.Relation
import Ambient.Search

namespace Ambient.Graph

variable {ρ δ : Type} (g : Graph ρ δ)

/-- Some reference of the one node leads to the other. -/
def Edge (d e : δ) : Prop :=
  ∃ r ∈ g.edges d, g.find r = some e

/-- A node that can be found is known by its key. -/
def KeysTell : Prop :=
  ∀ ⦃r s : ρ⦄ ⦃d e : δ⦄, g.find r = some d → g.find s = some e → g.key d = g.key e → d = e

/-- A path from the references to the node, on which no node has been seen. -/
def Reaches (todo : List ρ) (seen : List String) (d : δ) : Prop :=
  ∃ r ∈ todo, ∃ e, g.find r = some e ∧ g.key e ∉ seen ∧
    Relation.ReflTransGen (fun a b => g.Edge a b ∧ g.key b ∉ seen) e d

variable {g}

/-- With fewer references and more nodes seen, less is reached. -/
theorem Reaches.mono {todo todo' : List ρ} {seen seen' : List String} {d : δ}
    (ht : todo ⊆ todo') (hs : seen' ⊆ seen) (h : g.Reaches todo seen d) :
    g.Reaches todo' seen' d := by
  obtain ⟨r, hr, e, he, hn, hp⟩ := h
  refine ⟨r, ht hr, e, he, fun hm => hn (hs hm), Relation.ReflTransGen.mono ?_ _ _ hp⟩
  rintro a b ⟨hab, hb⟩
  exact ⟨hab, fun hm => hb (hs hm)⟩

/-- A path from the references of a node goes on from a path to it. -/
theorem Reaches.of_edges {r : ρ} {todo : List ρ} {seen : List String} {d e : δ}
    (hr : r ∈ todo) (he : g.find r = some e) (hn : g.key e ∉ seen)
    (h : g.Reaches (g.edges e) seen d) : g.Reaches todo seen d := by
  obtain ⟨s, hs, f, hf, hfn, hp⟩ := h
  exact ⟨r, hr, e, he, hn, .head ⟨⟨s, hs, hf⟩, hfn⟩ hp⟩

/-! ### Soundness -/

/-- There is a path to whatever is visited. -/
theorem reaches_of_mem_visit {todo : List ρ} {seen : List String} {d : δ}
    (h : d ∈ g.visit todo seen) : g.Reaches todo seen d := by
  fun_induction visit g todo seen with
  | case1 seen => cases h
  | case2 r todo seen hf ih =>
    exact (ih h).mono (List.subset_cons_self r todo) (List.Subset.refl seen)
  | case3 r todo seen e hf he ih =>
    exact (ih h).mono (List.subset_cons_self r todo) (List.Subset.refl seen)
  | case4 r todo seen e hf he _ ih =>
    rcases List.mem_cons.mp h with rfl | h
    · exact ⟨r, List.mem_cons_self, d, hf, he, .refl⟩
    · -- A path that avoids `e` as well avoids what had been seen before.
      have hseen := List.subset_cons_self (g.key e) seen
      obtain ⟨s, hs, hp⟩ := ih h
      rcases List.mem_append.mp hs with hs | hs
      · have hr : g.Reaches (g.edges e) (g.key e :: seen) d := ⟨s, hs, hp⟩
        exact .of_edges List.mem_cons_self hf he (hr.mono (List.Subset.refl _) hseen)
      · have hr : g.Reaches todo (g.key e :: seen) d := ⟨s, hs, hp⟩
        exact hr.mono (List.subset_cons_self r todo) hseen

/-! ### Completeness -/

/-- What the references and the visited nodes lead to has been seen before or is
visited. -/
theorem visit_closed (hk : g.KeysTell) (todo : List ρ) (seen : List String) :
    (∀ r ∈ todo, ∀ d, g.find r = some d → g.key d ∈ seen ∨ d ∈ g.visit todo seen) ∧
    ∀ d ∈ g.visit todo seen, ∀ e, g.Edge d e → g.key e ∈ seen ∨ e ∈ g.visit todo seen := by
  fun_induction visit g todo seen with
  | case1 seen =>
    refine ⟨fun r hr => ?_, fun d hd => ?_⟩
    · cases hr
    · cases hd
  | case2 r todo seen hf ih =>
    refine ⟨fun s hs d hd => ?_, ih.2⟩
    rcases List.mem_cons.mp hs with rfl | hs
    · rw [hf] at hd
      cases hd
    · exact ih.1 s hs d hd
  | case3 r todo seen e hf he ih =>
    refine ⟨fun s hs d hd => ?_, ih.2⟩
    rcases List.mem_cons.mp hs with rfl | hs
    · rw [hf] at hd
      cases hd
      exact .inl he
    · exact ih.1 s hs d hd
  | case4 r todo seen e hf he _ ih =>
    -- A node with the key of `e` is `e`, which is visited now.
    have settle : ∀ {s d}, g.find s = some d →
        g.key d ∈ g.key e :: seen ∨ d ∈ g.visit (g.edges e ++ todo) (g.key e :: seen) →
        g.key d ∈ seen ∨ d ∈ e :: g.visit (g.edges e ++ todo) (g.key e :: seen) := by
      rintro s d hd (hm | hv)
      · rcases List.mem_cons.mp hm with hm | hm
        · exact .inr (hk hd hf hm ▸ List.mem_cons_self)
        · exact .inl hm
      · exact .inr (List.mem_cons_of_mem e hv)
    refine ⟨fun s hs d hd => ?_, fun d hd f hdf => ?_⟩
    · rcases List.mem_cons.mp hs with rfl | hs
      · rw [hf] at hd
        cases hd
        exact .inr List.mem_cons_self
      · exact settle hd (ih.1 s (List.mem_append_right _ hs) d hd)
    · obtain ⟨s, hs, hsf⟩ := hdf
      rcases List.mem_cons.mp hd with rfl | hd
      · exact settle hsf (ih.1 s (List.mem_append_left _ hs) f hsf)
      · exact settle hsf (ih.2 d hd f ⟨s, hs, hsf⟩)

/-- **What is visited** is what paths lead to that go through no node seen
before. -/
theorem mem_visit_iff (hk : g.KeysTell) {todo : List ρ} {seen : List String} {d : δ} :
    d ∈ g.visit todo seen ↔ g.Reaches todo seen d := by
  refine ⟨reaches_of_mem_visit, ?_⟩
  rintro ⟨r, hr, e, he, hn, hp⟩
  -- Along the path each node is visited because the one before it is.
  obtain ⟨htodo, hedge⟩ := visit_closed hk todo seen
  induction hp with
  | refl => exact (htodo r hr e he).resolve_left hn
  | tail _ hstep ih => exact (hedge _ ih _ hstep.1).resolve_left hstep.2

/-- Nothing is visited if all that is referred to has been seen. -/
theorem visit_eq_nil {todo : List ρ} {seen : List String}
    (h : ∀ r ∈ todo, ∀ d, g.find r = some d → g.key d ∈ seen) : g.visit todo seen = [] := by
  refine List.eq_nil_iff_forall_not_mem.mpr fun d hd => ?_
  obtain ⟨r, hr, e, he, hn, -⟩ := reaches_of_mem_visit hd
  exact hn (h r hr e he)

/-- A search from one of the nodes that a search from `d` visits meets no nodes
but these, and maybe `d`. -/
theorem mem_visit_of_mem_visit (hk : g.KeysTell) {r : ρ} {d a b : δ} (hd : g.find r = some d)
    (ha : a ∈ g.visit (g.edges d) [g.key d]) (hb : b ∈ g.visit (g.edges a) [g.key a]) :
    b = d ∨ b ∈ g.visit (g.edges d) [g.key d] := by
  obtain ⟨htodo, hedge⟩ := visit_closed hk (g.edges d) [g.key d]
  have hsettle : ∀ {s e}, g.find s = some e →
      g.key e ∈ [g.key d] ∨ e ∈ g.visit (g.edges d) [g.key d] →
      e = d ∨ e ∈ g.visit (g.edges d) [g.key d] := by
    rintro s e he (hm | hv)
    · exact .inl (hk he hd (List.mem_singleton.mp hm))
    · exact .inr hv
  -- An edge from `d` is where the search starts, and one from a visited node is followed.
  have hstep : ∀ x y, (x = d ∨ x ∈ g.visit (g.edges d) [g.key d]) → g.Edge x y →
      y = d ∨ y ∈ g.visit (g.edges d) [g.key d] := by
    rintro x y hx ⟨s, hs, hy⟩
    rcases hx with rfl | hx
    · exact hsettle hy (htodo s hs y hy)
    · exact hsettle hy (hedge x hx y ⟨s, hs, hy⟩)
  obtain ⟨s, hs, e, he, -, hp⟩ := reaches_of_mem_visit hb
  clear hb
  induction hp with
  | refl => exact hstep a e (.inr ha) ⟨s, hs, he⟩
  | tail _ hlast ih => exact hstep _ _ ih hlast.1

/-! ### Two graphs -/

/-- The search through an image of the graph, in which references are changed as
well, visits the images of the nodes. -/
theorem visit_image {ρ' δ' : Type} {g' : Graph ρ' δ'} {f : δ → δ'} {q : ρ → ρ'} {S : ρ → Prop}
    (hkey : ∀ d, g'.key (f d) = g.key d) (hedges : ∀ d, g'.edges (f d) = (g.edges d).map q)
    (hfind : ∀ r, S r → g'.find (q r) = (g.find r).map f)
    (hclosed : ∀ r d, S r → g.find r = some d → ∀ s ∈ g.edges d, S s)
    {todo : List ρ} {seen : List String} (htodo : ∀ r ∈ todo, S r) :
    g'.visit (todo.map q) seen = (g.visit todo seen).map f := by
  fun_induction visit g todo seen with
  | case1 seen => exact g'.visit_nil seen
  | case2 r todo seen hf ih =>
    have h : g'.find (q r) = none := by rw [hfind r (htodo r List.mem_cons_self), hf]; rfl
    rw [List.map_cons, visit_cons_none g' h]
    exact ih fun s hs => htodo s (List.mem_cons_of_mem r hs)
  | case3 r todo seen e hf he ih =>
    have h : g'.find (q r) = some (f e) := by
      rw [hfind r (htodo r List.mem_cons_self), hf]
      rfl
    rw [List.map_cons, visit_cons_seen g' h (by rwa [hkey])]
    exact ih fun s hs => htodo s (List.mem_cons_of_mem r hs)
  | case4 r todo seen e hf he _ ih =>
    have hr := htodo r List.mem_cons_self
    have h : g'.find (q r) = some (f e) := by rw [hfind r hr, hf]; rfl
    rw [List.map_cons, visit_cons_new g' h (by rwa [hkey]), hkey, hedges, ← List.map_append,
      List.map_cons]
    refine congrArg _ (ih fun s hs => ?_)
    rcases List.mem_append.mp hs with hs | hs
    · exact hclosed r e hr hf s hs
    · exact htodo s (List.mem_cons_of_mem r hs)

/-- If two graphs agree on all references that can be met, up to a map of the
nodes, then their searches do. -/
theorem visit_map {δ' : Type} {g' : Graph ρ δ'} {f : δ → δ'} {S : ρ → Prop}
    (hkey : ∀ d, g'.key (f d) = g.key d) (hedges : ∀ d, g'.edges (f d) = g.edges d)
    (hfind : ∀ r, S r → g'.find r = (g.find r).map f)
    (hclosed : ∀ r d, S r → g.find r = some d → ∀ s ∈ g.edges d, S s)
    {todo : List ρ} {seen : List String} (htodo : ∀ r ∈ todo, S r) :
    g'.visit todo seen = (g.visit todo seen).map f := by
  have hedges' : ∀ d, g'.edges (f d) = (g.edges d).map id := fun d => by rw [hedges, List.map_id]
  have h : g'.visit (todo.map id) seen = (g.visit todo seen).map f :=
    visit_image hkey hedges' hfind hclosed htodo
  rwa [List.map_id] at h

/-- Two graphs of the same nodes need only agree on the references that can be
met. -/
theorem visit_congr {g' : Graph ρ δ} {S : ρ → Prop} (hkey : ∀ d, g'.key d = g.key d)
    (hedges : ∀ d, g'.edges d = g.edges d) (hfind : ∀ r, S r → g'.find r = g.find r)
    (hclosed : ∀ r d, S r → g.find r = some d → ∀ s ∈ g.edges d, S s)
    {todo : List ρ} {seen : List String} (htodo : ∀ r ∈ todo, S r) :
    g'.visit todo seen = g.visit todo seen := by
  have hfind' : ∀ r, S r → g'.find r = (g.find r).map id := fun r hr => by
    rw [hfind r hr, Option.map_id_fun, id]
  have h : g'.visit todo seen = (g.visit todo seen).map id :=
    visit_map hkey hedges hfind' hclosed htodo
  rw [h, List.map_id]

end Ambient.Graph

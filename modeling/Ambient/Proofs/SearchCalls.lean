/-
Ancestors, one call for each.

A search for ancestors goes through the references of a definition and calls itself for
each ancestor that has not been met, with what has been seen handed on from call to call.
This file follows these calls, in graphs with and without cycles:

* `Graph.Finishes` — a call comes to an end, with some nodes found and some keys seen;
* `finishes_iff` — each call does, and finds what `Graph.visit` lists;
* `exists_edge_of_visit_eq` — what is found is referred to by something found before it,
  or by one of the references that the search begins with;
* `Catalogue.references`, `Catalogue.Enumerates` — a list of all that can be reached from a
  definition through super types and interfaces;
* `Catalogue.ancestors_exact` — the search ends with such a list and with no other.
-/
import Ambient.Proofs.Ancestry
import Ambient.Proofs.SearchOrder

namespace Ambient

namespace Graph

variable {ρ δ : Type} {g : Graph ρ δ}

/-! ### Calls -/

/-- A call for some references comes to an end: with some keys seen before, it finds some
nodes and leaves more keys seen.  A new node is found and then called for, before the
references that are left. -/
inductive Finishes (g : Graph ρ δ) : List ρ → List String → List δ → List String → Prop
  | nil {seen : List String} : Finishes g [] seen [] seen
  | unknown {r : ρ} {todo : List ρ} {seen seen' : List String} {found : List δ}
      (hr : g.find r = none) (rest : Finishes g todo seen found seen') :
      Finishes g (r :: todo) seen found seen'
  | met {r : ρ} {e : δ} {todo : List ρ} {seen seen' : List String} {found : List δ}
      (hr : g.find r = some e) (he : g.key e ∈ seen) (rest : Finishes g todo seen found seen') :
      Finishes g (r :: todo) seen found seen'
  | new {r : ρ} {e : δ} {todo : List ρ} {seen seen' seen'' : List String} {below after : List δ}
      (hr : g.find r = some e) (he : g.key e ∉ seen)
      (call : Finishes g (g.edges e) (g.key e :: seen) below seen')
      (rest : Finishes g todo seen' after seen'') :
      Finishes g (r :: todo) seen (e :: below ++ after) seen''

/-- The keys that are seen at the end. -/
def seenAfter (g : Graph ρ δ) (todo : List ρ) (seen : List String) : List String :=
  ((g.visit todo seen).map g.key).reverse ++ seen

/-- A new node is visited with all that is behind it before the references that are left. -/
theorem visit_cons_eq {r : ρ} {e : δ} {seen : List String} (hr : g.find r = some e)
    (he : g.key e ∉ seen) (todo : List ρ) :
    g.visit (r :: todo) seen = e :: g.visit (g.edges e) (g.key e :: seen) ++
      g.visit todo (g.seenAfter (g.edges e) (g.key e :: seen)) := by
  rw [visit_cons_new g hr he, visit_append]
  rfl

/-- A call can only end with the nodes that are visited. -/
theorem Finishes.eq_visit {todo : List ρ} {seen seen' : List String} {found : List δ}
    (h : g.Finishes todo seen found seen') :
    found = g.visit todo seen ∧ seen' = g.seenAfter todo seen := by
  induction h with
  | nil => exact ⟨(g.visit_nil _).symm, by rw [seenAfter, visit_nil]; rfl⟩
  | unknown hr _ ih =>
    rw [seenAfter, visit_cons_none g hr]
    exact ih
  | met hr he _ ih =>
    rw [seenAfter, visit_cons_seen g hr he]
    exact ih
  | @new r e todo seen seen' seen'' below after hr he _ _ ihcall ihrest =>
    obtain ⟨rfl, rfl⟩ := ihcall
    obtain ⟨rfl, rfl⟩ := ihrest
    have hvisit := visit_cons_eq hr he todo
    refine ⟨hvisit.symm, ?_⟩
    show _ = ((g.visit (r :: todo) seen).map g.key).reverse ++ seen
    rw [hvisit]
    simp [seenAfter]

/-- A call for some references and then others is one for each part. -/
theorem Finishes.split {ts us : List ρ} {seen seen' : List String} {found : List δ}
    (h : g.Finishes (ts ++ us) seen found seen') :
    ∃ below mid after, g.Finishes ts seen below mid ∧ g.Finishes us mid after seen' := by
  induction ts generalizing seen found with
  | nil => exact ⟨[], seen, found, .nil, h⟩
  | cons t ts ih =>
    cases h with
    | unknown hr rest =>
      obtain ⟨below, mid, after, hts, hus⟩ := ih rest
      exact ⟨below, mid, after, .unknown hr hts, hus⟩
    | met hr he rest =>
      obtain ⟨below, mid, after, hts, hus⟩ := ih rest
      exact ⟨below, mid, after, .met hr he hts, hus⟩
    | new hr he call rest =>
      obtain ⟨below, mid, after, hts, hus⟩ := ih rest
      exact ⟨_, mid, after, .new hr he call hts, hus⟩

/-- Every call comes to an end, whatever leads back to where. -/
theorem exists_finishes (g : Graph ρ δ) (todo : List ρ) (seen : List String) :
    ∃ found seen', g.Finishes todo seen found seen' := by
  -- The induction is that of `visit`, on the nodes that have not been seen.
  fun_induction visit g todo seen with
  | case1 seen => exact ⟨[], seen, .nil⟩
  | case2 r todo seen hf ih =>
    obtain ⟨found, seen', h⟩ := ih
    exact ⟨found, seen', .unknown hf h⟩
  | case3 r todo seen e hf he ih =>
    obtain ⟨found, seen', h⟩ := ih
    exact ⟨found, seen', .met hf he h⟩
  | case4 r todo seen e hf he _ ih =>
    obtain ⟨found, seen', h⟩ := ih
    obtain ⟨below, mid, after, hcall, hrest⟩ := h.split
    exact ⟨e :: below ++ after, seen', .new hf he hcall hrest⟩

theorem finishes_iff {todo : List ρ} {seen seen' : List String} {found : List δ} :
    g.Finishes todo seen found seen' ↔
      found = g.visit todo seen ∧ seen' = g.seenAfter todo seen := by
  refine ⟨Finishes.eq_visit, ?_⟩
  rintro ⟨rfl, rfl⟩
  obtain ⟨found, seen', h⟩ := g.exists_finishes todo seen
  obtain ⟨rfl, rfl⟩ := h.eq_visit
  exact h

/-! ### What comes before -/

/-- A visited node is referred to from the start or by a node that is visited before it. -/
theorem exists_edge_of_visit_eq {todo : List ρ} {seen : List String} {before after : List δ}
    {d : δ} (h : g.visit todo seen = before ++ d :: after) :
    (∃ r ∈ todo, g.find r = some d) ∨ ∃ b ∈ before, g.Edge b d := by
  fun_induction visit g todo seen generalizing before with
  | case1 seen => simp at h
  | case2 r todo seen hf ih =>
    obtain ⟨s, hs, hd⟩ | hb := ih h
    · exact .inl ⟨s, List.mem_cons_of_mem r hs, hd⟩
    · exact .inr hb
  | case3 r todo seen e hf he ih =>
    obtain ⟨s, hs, hd⟩ | hb := ih h
    · exact .inl ⟨s, List.mem_cons_of_mem r hs, hd⟩
    · exact .inr hb
  | case4 r todo seen e hf he _ ih =>
    cases before with
    | nil =>
      obtain ⟨rfl, -⟩ := List.cons.inj h
      exact .inl ⟨r, List.mem_cons_self, hf⟩
    | cons b before =>
      obtain ⟨rfl, hrest⟩ := List.cons.inj h
      obtain ⟨s, hs, hd⟩ | ⟨b, hb, hbd⟩ := ih hrest
      · rcases List.mem_append.mp hs with hs | hs
        · exact .inr ⟨e, List.mem_cons_self, s, hs, hd⟩
        · exact .inl ⟨s, List.mem_cons_of_mem r hs, hd⟩
      · exact .inr ⟨b, List.mem_cons_of_mem e hb, hbd⟩

end Graph

namespace Catalogue

variable {c : Catalogue} {d : Definition}

/-! ### Ancestors -/

/-- The definitions with what they refer to: their super types, and then their interfaces. -/
def references (c : Catalogue) : Graph TypeExpr Definition :=
  { c.heritage with edges := fun e => e.superTypes ++ e.interfaces }

theorem references_eq (c : Catalogue) : c.references = c.heritage :=
  rfl

/-- A list of all that a definition inherits from: known definitions of different names, to
each of which a chain of references leads that does not come back to the name it starts
from.  One that the definition does not refer to comes after one that does. -/
structure Enumerates (c : Catalogue) (d : Definition) (found : List Definition) : Prop where
  distinct : (found.map Definition.name).Nodup
  mem_iff : ∀ a, a ∈ found ↔
    Relation.TransGen (fun x y => c.references.Edge x y ∧ y.name ≠ d.name) d a
  known : ∀ a ∈ found, c.find? a.name = some a
  other : ∀ a ∈ found, a.name ≠ d.name
  ordered : ∀ before a after, found = before ++ a :: after →
    ¬c.references.Edge d a → ∃ b ∈ before, c.references.Edge b a

theorem enumerates_ancestors (c : Catalogue) (d : Definition) :
    c.Enumerates d (c.ancestors d) where
  distinct := c.heritage.visit_keys_nodup _ _
  mem_iff _ := mem_ancestors_iff
  known _ ha := (mem_ancestors_iff.mp ha).find?.1
  other _ ha := (mem_ancestors_iff.mp ha).find?.2
  ordered _ _ _ h hd := (Graph.exists_edge_of_visit_eq h).resolve_left hd

/-- **Ancestors**: the search from the super types and the interfaces of a definition, its
own name seen before, comes to an end in any catalogue, with one list that holds all that
is inherited from. -/
theorem ancestors_exact (c : Catalogue) (d : Definition) :
    (∀ found,
      (∃ seen, c.references.Finishes (d.superTypes ++ d.interfaces) [d.name] found seen) ↔
        found = c.ancestors d) ∧
    c.Enumerates d (c.ancestors d) := by
  rw [references_eq]
  refine ⟨fun found => ⟨?_, ?_⟩, c.enumerates_ancestors d⟩
  · rintro ⟨seen, h⟩
    exact h.eq_visit.1
  · rintro rfl
    exact ⟨_, Graph.finishes_iff.mpr ⟨rfl, rfl⟩⟩

/-- A class that is part of a ring. -/
def hen : Definition :=
  { Definition.empty .classType (.simple "a.Hen") with superTypes := [.simple "a.Bird"] }

/-- A class with a super type that is unknown. -/
def bird : Definition :=
  { Definition.empty .classType (.simple "a.Bird") with
    superTypes := [.simple "b.Animal"]
    interfaces := [.simple "a.Layer"] }

/-- The interface that closes the ring, and a smaller one. -/
def layer : Definition :=
  { Definition.empty .interface (.simple "a.Layer") with
    superTypes := [.simple "a.Hen", .simple "a.Bird"] }

def henhouse : Catalogue := { roots := [layer, bird, hen] }

/-- The layer refers to the hen again, but the hen is not above itself. -/
theorem ancestors_exact_hen :
    henhouse.ancestors hen = [bird, layer] ∧ hen ∉ henhouse.ancestors hen ∧
    henhouse.references.Edge bird layer ∧ henhouse.references.Edge layer hen := by
  obtain ⟨hends, henumerates⟩ := ancestors_exact henhouse hen
  have hlayer : henhouse.references.Finishes [.simple "a.Hen", .simple "a.Bird"]
      ["a.Layer", "a.Bird", "a.Hen"] [] ["a.Layer", "a.Bird", "a.Hen"] :=
    .met rfl (by decide) (.met rfl (by decide) .nil)
  have hbird : henhouse.references.Finishes [.simple "b.Animal", .simple "a.Layer"]
      ["a.Bird", "a.Hen"] (layer :: [] ++ []) ["a.Layer", "a.Bird", "a.Hen"] :=
    .unknown rfl (.new rfl (by decide) hlayer .nil)
  have hhen : henhouse.references.Finishes [.simple "a.Bird"] ["a.Hen"] (bird :: [layer] ++ [])
      ["a.Layer", "a.Bird", "a.Hen"] :=
    .new rfl (by decide) hbird .nil
  have hancestors := (hends [bird, layer]).mp ⟨_, hhen⟩
  have hnot : ¬henhouse.references.Edge hen layer := by
    rintro ⟨t, ht, hfind⟩
    obtain rfl := List.mem_singleton.mp ht
    exact absurd (congrArg (Option.map Definition.name) hfind) (by decide)
  obtain ⟨b, hb, hedge⟩ := henumerates.ordered [bird] layer [] hancestors.symm hnot
  obtain rfl := List.mem_singleton.mp hb
  exact ⟨hancestors.symm, fun h => henumerates.other hen h rfl, hedge, _, List.mem_cons_self, rfl⟩

end Catalogue

end Ambient

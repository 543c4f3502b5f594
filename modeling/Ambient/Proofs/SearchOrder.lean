/-
The order of a depth-first search.

Several paths may lead to a node, and a search comes to it by one of them.  In a graph
without cycles this is the path that takes, at each node, the first reference that
leads there at all:

* `visit_append` — what the first references lead to comes first;
* `Graph.FirstStep` — the first reference of a node that leads to the target;
* `Ahead.mem_before_iff` — the nodes that are visited before the target, and from which it
  could be reached, are those on the path of first steps.

The other paths are of no account: a node on one of them comes after the target, even
if the target is far below it.
-/
import Mathlib.Data.List.Basic
import Mathlib.Data.List.Nodup
import Ambient.Proofs.Traversal

namespace Ambient.Graph

variable {ρ δ : Type} {g : Graph ρ δ}

/-! ### One reference after the other -/

/-- The references are searched one after the other, the later ones without what the
others have led to. -/
theorem visit_append (ts us : List ρ) (seen : List String) :
    g.visit (ts ++ us) seen =
      g.visit ts seen ++ g.visit us (((g.visit ts seen).map g.key).reverse ++ seen) := by
  fun_induction visit g ts seen with
  | case1 seen => rfl
  | case2 r todo seen hf ih => rw [List.cons_append, visit_cons_none g hf, ih]
  | case3 r todo seen e hf he ih => rw [List.cons_append, visit_cons_seen g hf he, ih]
  | case4 r todo seen e hf he _ ih =>
    have hkeys : ((e :: g.visit (g.edges e ++ todo) (g.key e :: seen)).map g.key).reverse ++ seen =
        ((g.visit (g.edges e ++ todo) (g.key e :: seen)).map g.key).reverse ++
          g.key e :: seen := by
      rw [List.map_cons, List.reverse_cons, List.append_assoc, List.singleton_append]
    rw [List.cons_append, visit_cons_new g hf he, ← List.append_assoc, ih, hkeys,
      List.cons_append]

/-- Some reference leads to whatever is visited. -/
theorem exists_find_of_mem_visit {todo : List ρ} {seen : List String} {d : δ}
    (h : d ∈ g.visit todo seen) : ∃ r, g.find r = some d := by
  obtain ⟨r, -, e, he, -, hp⟩ := reaches_of_mem_visit h
  cases hp with
  | refl => exact ⟨r, he⟩
  | tail _ hlast =>
    obtain ⟨⟨s, -, hs⟩, -⟩ := hlast
    exact ⟨s, hs⟩

/-! ### First steps -/

variable {seen : List String} {p : δ}

/-- A path from the one node to the other, on which no node has been seen. -/
def Leads (g : Graph ρ δ) (seen : List String) (d p : δ) : Prop :=
  g.key d ∉ seen ∧ Relation.ReflTransGen (fun a b => g.Edge a b ∧ g.key b ∉ seen) d p

/-- A path to another node goes through one of the references. -/
theorem Leads.reaches {d : δ} (h : g.Leads seen d p) (hne : d ≠ p) :
    g.Reaches (g.edges d) seen p := by
  obtain hp | ⟨e, ⟨⟨r, hr, he⟩, hn⟩, hp⟩ := Relation.ReflTransGen.cases_head h.2
  · exact absurd hp hne
  · exact ⟨r, hr, e, he, hn, hp⟩

/-- The first reference of the one node that leads to `p` is to the other. -/
def FirstStep (g : Graph ρ δ) (seen : List String) (p d e : δ) : Prop :=
  ∃ before r after, g.edges d = before ++ r :: after ∧ ¬g.Reaches before seen p ∧
    g.find r = some e ∧ g.Leads seen e p

theorem FirstStep.edge {d e : δ} (h : g.FirstStep seen p d e) : g.Edge d e := by
  obtain ⟨before, r, after, hr, -, he, -⟩ := h
  exact ⟨r, hr ▸ List.mem_append_right _ List.mem_cons_self, he⟩

theorem FirstStep.leads {d e : δ} (h : g.FirstStep seen p d e) : g.Leads seen e p := by
  obtain ⟨_, _, _, -, -, -, hl⟩ := h
  exact hl

open Classical in
theorem firstStep_iff {d e : δ} : g.FirstStep seen p d e ↔
    ∃ r, (g.edges d).find? (fun r => g.Reaches [r] seen p) = some r ∧ g.find r = some e := by
  simp only [List.find?_eq_some_iff_append, decide_eq_true_eq, Bool.not_eq_true',
    decide_eq_false_iff_not]
  constructor
  · rintro ⟨before, r, after, hr, hbefore, he, hl⟩
    refine ⟨r, ⟨⟨r, List.mem_singleton_self r, e, he, hl⟩, before, after, hr, ?_⟩, he⟩
    exact fun s hs ⟨t, ht, hl⟩ => hbefore ⟨s, hs, List.mem_singleton.mp ht ▸ hl⟩
  · rintro ⟨r, ⟨⟨s, hs, f, hf, hl⟩, before, after, hr, hbefore⟩, he⟩
    obtain rfl := List.mem_singleton.mp hs
    obtain rfl : f = e := Option.some.inj (hf.symm.trans he)
    refine ⟨before, s, after, hr, ?_, he, hl⟩
    rintro ⟨t, ht, hl⟩
    exact hbefore t ht ⟨t, List.mem_singleton_self t, hl⟩

/-- If some reference leads to a node, then one of them is the first. -/
theorem exists_firstStep {d : δ} (h : g.Reaches (g.edges d) seen p) :
    ∃ e, g.FirstStep seen p d e := by
  classical
  obtain ⟨r, hr, hl⟩ := h
  have hsome : ((g.edges d).find? fun r => g.Reaches [r] seen p).isSome :=
    List.find?_isSome.mpr ⟨r, hr, decide_eq_true ⟨r, List.mem_singleton_self r, hl⟩⟩
  obtain ⟨s, hs⟩ := Option.isSome_iff_exists.mp hsome
  have hreaches : g.Reaches [s] seen p := by simpa using List.find?_some hs
  obtain ⟨t, ht, e, he, -⟩ := hreaches
  exact ⟨e, firstStep_iff.mpr ⟨s, hs, List.mem_singleton.mp ht ▸ he⟩⟩

theorem FirstStep.unique {d e f : δ} (he : g.FirstStep seen p d e)
    (hf : g.FirstStep seen p d f) : e = f := by
  obtain ⟨r, hr, he⟩ := firstStep_iff.mp he
  obtain ⟨s, hs, hf⟩ := firstStep_iff.mp hf
  obtain rfl : r = s := Option.some.inj (hr.symm.trans hs)
  exact Option.some.inj (he.symm.trans hf)

/-- The path of first steps goes on from the first of them. -/
theorem FirstStep.transGen_iff {d e q : δ} (h : g.FirstStep seen p d e) :
    Relation.TransGen (g.FirstStep seen p) d q ↔
      q = e ∨ Relation.TransGen (g.FirstStep seen p) e q := by
  rw [Relation.TransGen.head'_iff, ← Relation.reflTransGen_iff_eq_or_transGen]
  constructor
  · rintro ⟨f, hf, hq⟩
    exact h.unique hf ▸ hq
  · exact fun hq => ⟨e, h, hq⟩

/-- There are no steps on from the target, since these would lead back to it. -/
theorem not_firstStep_self (hacyclic : ∀ d, ¬Relation.TransGen g.Edge d d) {e : δ} :
    ¬g.FirstStep seen p p e := by
  intro h
  have hep : Relation.ReflTransGen g.Edge e p :=
    Relation.ReflTransGen.mono (fun _ _ hab => hab.1) _ _ h.leads.2
  exact hacyclic p (.head' h.edge hep)

/-! ### What comes first -/

/-- A node is visited once, so what comes before it can be read off any splitting. -/
theorem visit_split_unique {todo : List ρ} {before after before' after' : List δ}
    (h : g.visit todo seen = before ++ p :: after)
    (h' : g.visit todo seen = before' ++ p :: after') : before = before' := by
  have hnodup : (before ++ p :: after).Nodup := h ▸ (g.visit_keys_nodup _ _).of_map
  obtain ⟨-, hafter, hdisjoint⟩ := List.nodup_append.mp hnodup
  have hpb : p ∉ before := fun hp => hdisjoint p hp p List.mem_cons_self rfl
  have hpa : p ∉ after := (List.nodup_cons.mp hafter).1
  exact ((List.append_cons_inj_of_notMem hpb hpa).mp (h.symm.trans h')).1

/-- Nothing below a node that leads to `p` has been met, except what is passed over
anyway. -/
structure Ahead (g : Graph ρ δ) (seen : List String) (p d : δ) (met : List String) : Prop where
  subset : seen ⊆ met
  unmet : ∀ e, Relation.TransGen g.Edge d e → g.Leads seen e p → g.key e ∉ met

/-- Then a path to `p` is left. -/
theorem Ahead.reaches {d : δ} {met : List String} (h : g.Ahead seen p d met)
    (hp : g.Reaches (g.edges d) seen p) : g.Reaches (g.edges d) met p := by
  have hrest : ∀ e, Relation.TransGen g.Edge d e →
      Relation.ReflTransGen (fun a b => g.Edge a b ∧ g.key b ∉ seen) e p →
      Relation.ReflTransGen (fun a b => g.Edge a b ∧ g.key b ∉ met) e p := by
    intro e he hep
    induction hep using Relation.ReflTransGen.head_induction_on with
    | refl => exact .refl
    | head hstep hp ih =>
      have he' := he.tail hstep.1
      exact .head ⟨hstep.1, h.unmet _ he' ⟨hstep.2, hp⟩⟩ (ih he')
  obtain ⟨r, hr, e, he, hl⟩ := hp
  have hde : Relation.TransGen g.Edge d e := .single ⟨r, hr, he⟩
  exact ⟨r, hr, e, he, h.unmet e hde hl, hrest e hde hl.2⟩

/-- No path leads to `p` from what the search visits if none of the references does. -/
theorem not_leads_of_mem_visit {todo : List ρ} {met : List String} {d : δ} (hs : seen ⊆ met)
    (hp : ¬g.Reaches todo seen p) (hd : d ∈ g.visit todo met) : ¬g.Leads seen d p := by
  intro hl
  obtain ⟨r, hr, e, he, hn, hed⟩ := (reaches_of_mem_visit hd).mono (List.Subset.refl todo) hs
  exact hp ⟨r, hr, e, he, hn, hed.trans hl.2⟩

variable (hk : g.KeysTell) (hacyclic : ∀ d, ¬Relation.TransGen g.Edge d d)
include hk hacyclic

/-- The search below a node comes to its first step, and goes on below that. -/
theorem Ahead.visit_eq {d e : δ} {met : List String} (h : g.Ahead seen p d met)
    (hstep : g.FirstStep seen p d e) :
    ∃ before met' after, g.visit (g.edges d) met =
        before ++ e :: (g.visit (g.edges e) met' ++ after) ∧
      (∀ q ∈ before, ¬g.Leads seen q p) ∧ g.Ahead seen p e met' := by
  obtain ⟨rs, r, ss, hr, hrs, he, hl⟩ := hstep
  have hde : g.Edge d e := ⟨r, hr ▸ List.mem_append_right _ List.mem_cons_self, he⟩
  have hbefore : ∀ q ∈ g.visit rs met, ¬g.Leads seen q p :=
    fun q hq => not_leads_of_mem_visit h.subset hrs hq
  have hfound : ∀ f, Relation.TransGen g.Edge d f → ∃ t, g.find t = some f := by
    intro f hf
    obtain ⟨_, -, t, -, ht⟩ := Relation.TransGen.tail'_iff.mp hf
    exact ⟨t, ht⟩
  -- Whatever leads from `d` to `p` has not been met by the time `e` is.
  have hunmet : ∀ f, Relation.TransGen g.Edge d f → g.Leads seen f p →
      g.key f ∉ ((g.visit rs met).map g.key).reverse ++ met := by
    intro f hf hfl hmem
    rcases List.mem_append.mp hmem with hmem | hmem
    · obtain ⟨q, hq, hkey⟩ := List.mem_map.mp (List.mem_reverse.mp hmem)
      obtain ⟨s, hs⟩ := exists_find_of_mem_visit hq
      obtain ⟨t, ht⟩ := hfound f hf
      exact hbefore q hq (hk hs ht hkey ▸ hfl)
    · exact h.unmet f hf hfl hmem
  have hvisit := visit_append (g := g) rs (r :: ss) met
  rw [← hr, visit_cons_new g he (hunmet e (.single hde) hl), visit_append] at hvisit
  refine ⟨_, _, _, hvisit, hbefore, ?_, ?_⟩
  · exact fun k hks => List.mem_cons_of_mem _ (List.mem_append_right _ (h.subset hks))
  · intro f hef hfl hmem
    have hdf : Relation.TransGen g.Edge d f := .head hde hef
    rcases List.mem_cons.mp hmem with hkey | hmem
    · -- Nothing below `e` is `e` itself.
      obtain ⟨t, ht⟩ := hfound f hdf
      exact hacyclic e (hk ht he hkey ▸ hef)
    · exact hunmet f hdf hfl hmem

/-- **What a search visits before a node** and has a path to it lies on the path of first
steps, if the graph has no cycles. -/
theorem Ahead.mem_before_iff {d : δ} {met : List String} {before after : List δ}
    (h : g.Ahead seen p d met) (hv : g.visit (g.edges d) met = before ++ p :: after) {q : δ} :
    q ∈ before ∧ g.Leads seen q p ↔
      Relation.TransGen (g.FirstStep seen p) d q ∧ q ≠ p := by
  induction hn : before.length using Nat.strongRecOn generalizing d met before after with
  | ind n ih =>
    have hmem : p ∈ g.visit (g.edges d) met := hv ▸ List.mem_append_right _ List.mem_cons_self
    have hreaches := (reaches_of_mem_visit hmem).mono (List.Subset.refl _) h.subset
    obtain ⟨e, hstep⟩ := exists_firstStep hreaches
    obtain ⟨rs, met', ss, heq, hrs, he⟩ := h.visit_eq hk hacyclic hstep
    rw [hstep.transGen_iff]
    by_cases hep : e = p
    · subst hep
      have hend : ¬Relation.TransGen (g.FirstStep seen e) e q := by
        intro hq
        obtain ⟨f, hf, -⟩ := Relation.TransGen.head'_iff.mp hq
        exact not_firstStep_self hacyclic hf
      rw [visit_split_unique hv heq]
      constructor
      · rintro ⟨hq, hl⟩
        exact absurd hl (hrs q hq)
      · rintro ⟨rfl | hq, hne⟩
        · exact absurd rfl hne
        · exact absurd hq hend
    · -- The target is visited below `e`, which is visited before it.
      have hreaches' := he.reaches (hstep.leads.reaches hep)
      obtain ⟨before', after', hv'⟩ := List.append_of_mem ((mem_visit_iff hk).mpr hreaches')
      have hsplit : g.visit (g.edges d) met = (rs ++ e :: before') ++ p :: (after' ++ ss) := by
        rw [heq, hv']
        simp only [List.append_assoc, List.cons_append]
      have hbefore : before = rs ++ e :: before' := visit_split_unique hv hsplit
      have hlt : before'.length < n := by
        rw [← hn, hbefore, List.length_append, List.length_cons]
        omega
      have hih := ih before'.length hlt he hv' rfl
      rw [hbefore, List.mem_append, List.mem_cons, or_and_right, or_and_right, hih, or_and_right]
      constructor
      · rintro (⟨hq, hl⟩ | ⟨rfl, -⟩ | hq)
        · exact absurd hl (hrs q hq)
        · exact .inl ⟨rfl, hep⟩
        · exact .inr hq
      · rintro (⟨rfl, -⟩ | hq)
        · exact .inr (.inl ⟨rfl, hstep.leads⟩)
        · exact .inr (.inr hq)

end Ambient.Graph

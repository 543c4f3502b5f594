/-
Depth-first search through a graph that may have cycles.

* `Graph` — nodes that refer to each other by references of some type, and the look-up of these;
* `Graph.visit` — the nodes reached from some references, each once, in the order in which a
  depth-first search meets them; nodes that have been seen before are passed over;
* `visit_not_seen`, `visit_keys_nodup` — no node is visited that was seen before, and none twice.
-/

namespace Ambient

/-- A graph whose edges are references that may lead nowhere. -/
structure Graph (ρ δ : Type) where
  nodes : List δ
  /-- What tells nodes apart. -/
  key : δ → String
  find : ρ → Option δ
  edges : δ → List ρ
  find_mem : ∀ {r d}, find r = some d → d ∈ nodes

namespace Graph

variable {ρ δ : Type} (g : Graph ρ δ)

/-- How many nodes have not been seen. -/
def unseen (seen : List String) : Nat :=
  g.nodes.countP fun d => g.key d ∉ seen

/-- Seeing a new node leaves fewer unseen. -/
theorem unseen_cons_lt {r : ρ} {d : δ} {seen : List String} (hf : g.find r = some d)
    (hd : g.key d ∉ seen) : g.unseen (g.key d :: seen) < g.unseen seen := by
  have hm := g.find_mem hf
  unfold unseen
  generalize g.nodes = nodes at hm
  -- More seen nodes never leave more unseen ones; at `d` itself there is one less.
  have mono : ∀ nodes : List δ,
      nodes.countP (fun e => g.key e ∉ g.key d :: seen) ≤
        nodes.countP fun e => g.key e ∉ seen :=
    fun nodes => List.countP_mono_left fun e _ => by simp
  induction nodes with
  | nil => cases hm
  | cons e es ih =>
    rw [List.countP_cons, List.countP_cons]
    rcases List.mem_cons.mp hm with rfl | hm
    · have := mono es
      simp only [List.mem_cons, true_or, not_true_eq_false, decide_false, hd, not_false_eq_true,
        decide_true]
      simp only [List.mem_cons] at this
      simpa using Nat.lt_succ_of_le this
    · have := ih hm
      by_cases h : g.key e ∈ seen
      · simpa [h] using this
      · by_cases h' : g.key e = g.key d
        · simp only [h', List.mem_cons, true_or, not_true_eq_false, decide_false, hd,
            not_false_eq_true, decide_true] at this ⊢
          simpa using Nat.lt_succ_of_lt this
        · simpa [h, h'] using this

/-- The nodes reached from the references, in the order of a depth-first search. -/
def visit : (todo : List ρ) → (seen : List String) → List δ
  | [], _ => []
  | r :: todo, seen =>
    match h : g.find r with
    | none => visit todo seen
    | some d =>
      if hd : g.key d ∈ seen then visit todo seen
      else
        have := g.unseen_cons_lt h hd
        d :: visit (g.edges d ++ todo) (g.key d :: seen)
termination_by todo seen => (g.unseen seen, todo.length)

@[simp]
theorem visit_nil (seen : List String) : g.visit [] seen = [] := by
  rw [visit]

theorem visit_cons_none {r : ρ} {todo : List ρ} {seen : List String} (h : g.find r = none) :
    g.visit (r :: todo) seen = g.visit todo seen := by
  rw [visit]
  split
  · rfl
  · simp_all

theorem visit_cons_seen {r : ρ} {d : δ} {todo : List ρ} {seen : List String}
    (h : g.find r = some d) (hd : g.key d ∈ seen) :
    g.visit (r :: todo) seen = g.visit todo seen := by
  rw [visit]
  split
  · simp_all
  · simp_all

theorem visit_cons_new {r : ρ} {d : δ} {todo : List ρ} {seen : List String}
    (h : g.find r = some d) (hd : g.key d ∉ seen) :
    g.visit (r :: todo) seen = d :: g.visit (g.edges d ++ todo) (g.key d :: seen) := by
  rw [visit]
  split
  · simp_all
  next e he =>
    obtain rfl : e = d := Option.some.inj (he.symm.trans h)
    simp [hd]

/-- Nothing is visited that has been seen before. -/
theorem visit_not_seen {todo : List ρ} {seen : List String} {d : δ}
    (h : d ∈ g.visit todo seen) : g.key d ∉ seen := by
  fun_induction visit g todo seen with
  | case1 => cases h
  | case2 seen r todo hf ih => exact ih h
  | case3 seen r todo e hf he ih => exact ih h
  | case4 seen r todo e hf he _ ih =>
    rcases List.mem_cons.mp h with rfl | h
    · exact he
    · exact fun hm => ih h (List.mem_cons_of_mem _ hm)

/-- No two visited nodes have one key. -/
theorem visit_keys_nodup (todo : List ρ) (seen : List String) :
    ((g.visit todo seen).map g.key).Nodup := by
  fun_induction visit g todo seen with
  | case1 => simp
  | case2 seen r todo hf ih => exact ih
  | case3 seen r todo e hf he ih => exact ih
  | case4 seen r todo e hf he _ ih =>
    rw [List.map_cons, List.nodup_cons]
    refine ⟨fun hm => ?_, ih⟩
    obtain ⟨d, hd, hk⟩ := List.mem_map.mp hm
    exact g.visit_not_seen hd (hk ▸ List.mem_cons_self)

end Graph

end Ambient

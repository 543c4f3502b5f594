/-
Grouping a list by a key.

`groupBy key` gathers the elements with one key, the groups in the order in which their keys first
occur and the elements in theirs.

* `distinct` — a list without later repetitions;
* `mem_distinct`, `nodup_distinct` — it has the same elements, each once;
* `length_distinct_eq_iff` — it is as long only if there were no repetitions;
* `distinct_concat` — what one more element at the end adds;
* `distinct_filter`, `distinct_map_distinct` — what is left out, or made equal, before or after;
* `pairwise_idxOf_distinct`, `eq_of_pairwise_idxOf` — the elements keep the order of their first
  occurrences, which there is one list of;
* `keys_groupBy` — there is one group for each key, in the order of first occurrence;
* `mem_groupBy_iff` — each group holds exactly the elements with its key.
-/

namespace Ambient.Grouping

variable {α κ : Type} [DecidableEq κ]

/-- The elements without later repetitions. -/
def distinct : List κ → List κ
  | [] => []
  | k :: ks => k :: (distinct ks).filter (· ≠ k)

/-- The elements by key. -/
def groupBy (key : α → κ) (as : List α) : List (κ × List α) :=
  (distinct (as.map key)).map fun k => (k, as.filter (key · = k))

@[simp]
theorem mem_distinct {k : κ} {ks : List κ} : k ∈ distinct ks ↔ k ∈ ks := by
  induction ks with
  | nil => rfl
  | cons l ks ih =>
    by_cases h : k = l <;> simp [distinct, ih, h]

theorem nodup_distinct (ks : List κ) : (distinct ks).Nodup := by
  induction ks with
  | nil => exact List.nodup_nil
  | cons k ks ih =>
    rw [distinct, List.nodup_cons]
    exact ⟨by simp, ih.filter _⟩

theorem distinct_eq_self {ks : List κ} (h : ks.Nodup) : distinct ks = ks := by
  induction ks with
  | nil => rfl
  | cons k ks ih =>
    obtain ⟨hk, hks⟩ := List.nodup_cons.mp h
    rw [distinct, ih hks, List.filter_eq_self.mpr fun l hl => ?_]
    exact decide_eq_true fun h : l = k => hk (h ▸ hl)

theorem distinct_sublist (ks : List κ) : (distinct ks).Sublist ks := by
  induction ks with
  | nil => exact .slnil
  | cons k ks ih => exact (List.filter_sublist.trans ih).cons_cons k

/-- Nothing is left out of a list in which nothing is repeated, and of no other. -/
theorem length_distinct_eq_iff {ks : List κ} : (distinct ks).length = ks.length ↔ ks.Nodup := by
  constructor
  · intro h
    rw [← (distinct_sublist ks).eq_of_length h]
    exact nodup_distinct ks
  · intro h
    rw [distinct_eq_self h]

/-- An element at the end is added unless it has occurred before. -/
theorem distinct_concat (ks : List κ) (k : κ) :
    distinct (ks ++ [k]) = if k ∈ ks then distinct ks else distinct ks ++ [k] := by
  induction ks with
  | nil => rfl
  | cons l ks ih =>
    rw [List.cons_append, distinct, ih, distinct]
    by_cases hl : k = l
    · subst hl
      rw [if_pos List.mem_cons_self]
      split
      · rfl
      · simp
    · have hmem : k ∈ l :: ks ↔ k ∈ ks := by rw [List.mem_cons, or_iff_right hl]
      simp only [hmem]
      split
      · rfl
      · simp [hl]

theorem distinct_filter (p : κ → Bool) (ks : List κ) :
    distinct (ks.filter p) = (distinct ks).filter p := by
  induction ks with
  | nil => rfl
  | cons k ks ih =>
    by_cases hk : p k
    · rw [List.filter_cons_of_pos hk, distinct, distinct, List.filter_cons_of_pos hk, ih]
      rw [List.filter_filter, List.filter_filter]
      simp only [Bool.and_comm]
    · rw [List.filter_cons_of_neg hk, distinct, List.filter_cons_of_neg hk, ih,
        List.filter_filter]
      refine List.filter_congr fun l _ => ?_
      -- A key that passes the test is not the one that does not.
      have hne : p l → l ≠ k := by
        rintro hl rfl
        exact hk hl
      by_cases hl : p l
      · simp [hl, hne hl]
      · simp [hl]

/-- Elements that a function makes equal may be repeated before it is applied or not. -/
theorem distinct_map_distinct {ι : Type} [DecidableEq ι] (f : κ → ι) (ks : List κ) :
    distinct ((distinct ks).map f) = distinct (ks.map f) := by
  induction ks with
  | nil => rfl
  | cons k ks ih =>
    -- What has another image than `k` is not `k`.
    have hothers : ∀ ls : List κ,
        ((ls.filter (· ≠ k)).map f).filter (· ≠ f k) = (ls.map f).filter (· ≠ f k) := by
      intro ls
      rw [List.filter_map, List.filter_map, List.filter_filter]
      refine congrArg _ (List.filter_congr fun l _ => ?_)
      by_cases hl : l = k <;> simp [hl]
    rw [distinct, List.map_cons, List.map_cons, distinct, distinct, ← distinct_filter, hothers,
      distinct_filter, ih]

/-- The elements are in the order of their first occurrences. -/
theorem pairwise_idxOf_distinct (ks : List κ) :
    (distinct ks).Pairwise fun k l => ks.idxOf k < ks.idxOf l := by
  induction ks with
  | nil => exact .nil
  | cons k ks ih =>
    have hplace : ∀ l ∈ (distinct ks).filter (· ≠ k), (k :: ks).idxOf l = ks.idxOf l + 1 := by
      intro l hl
      have hne : l ≠ k := of_decide_eq_true (List.mem_filter.mp hl).2
      simp [List.idxOf_cons, beq_false_of_ne hne.symm]
    rw [distinct, List.pairwise_cons]
    constructor
    · intro l hl
      rw [List.idxOf_cons_self, hplace l hl]
      exact Nat.succ_pos _
    · refine (ih.filter _).imp_of_mem fun {l m} hl hm h => ?_
      rw [hplace l hl, hplace m hm]
      exact Nat.succ_lt_succ h

/-- There is one list of some elements in the order of their first occurrences. -/
theorem eq_of_pairwise_idxOf {ks ls ms : List κ}
    (hls : ls.Pairwise fun k l => ks.idxOf k < ks.idxOf l)
    (hms : ms.Pairwise fun k l => ks.idxOf k < ks.idxOf l) (h : ∀ k, k ∈ ls ↔ k ∈ ms) :
    ls = ms := by
  have hnodup : ∀ {ls : List κ},
      (ls.Pairwise fun k l => ks.idxOf k < ks.idxOf l) → ls.Nodup := by
    intro ls hls
    refine hls.imp fun hlt => ?_
    rintro rfl
    exact absurd hlt (Nat.lt_irrefl _)
  have hperm : ls.Perm ms := (List.perm_ext_iff_of_nodup (hnodup hls) (hnodup hms)).mpr h
  exact hperm.eq_of_pairwise (fun k l _ _ hkl hlk => absurd hkl (Nat.lt_asymm hlk)) hls hms

/-- One group for each key. -/
theorem keys_groupBy (key : α → κ) (as : List α) :
    (groupBy key as).map Prod.fst = distinct (as.map key) := by
  simp [groupBy, Function.comp_def]

/-- A group holds the elements with its key, of which there is at least one. -/
theorem mem_groupBy_iff {key : α → κ} {as : List α} {k : κ} {group : List α} :
    (k, group) ∈ groupBy key as ↔ k ∈ as.map key ∧ group = as.filter (key · = k) := by
  simp only [groupBy, List.mem_map, mem_distinct, Prod.mk.injEq]
  constructor
  · rintro ⟨l, hl, rfl, rfl⟩
    exact ⟨hl, rfl⟩
  · rintro ⟨hk, rfl⟩
    exact ⟨k, hk, rfl, rfl⟩

/-- Elements may be changed before they are grouped or after, if their keys stay. -/
theorem groupBy_map {β : Type} {key : α → κ} {key' : β → κ} {f : α → β}
    (h : ∀ a, key' (f a) = key a) (as : List α) :
    groupBy key' (as.map f) = (groupBy key as).map fun (k, group) => (k, group.map f) := by
  have hkeys : (as.map f).map key' = as.map key := by
    rw [List.map_map]
    exact List.map_congr_left fun a _ => h a
  rw [groupBy, hkeys, groupBy, List.map_map]
  refine List.map_congr_left fun k _ => ?_
  simp only [Function.comp_apply, List.filter_map, Prod.mk.injEq, true_and]
  refine congrArg _ (List.filter_congr fun a _ => ?_)
  rw [Function.comp_apply, h]

end Ambient.Grouping

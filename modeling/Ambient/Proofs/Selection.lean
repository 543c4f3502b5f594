/-
The choice of new methods.

Copies are chosen from a list of methods, the first of each signature that is not known.
Repeated signatures are dropped in the same way.  All that is said of the choice comes
from one equivalence:

* `mem_selectNew_iff` — a method is chosen if its signature is not known and it is the
  first that is allowed and has it (`mem_selectNew_name_iff` if names decide);
* `signature_mem_of_allowed` — every signature that is allowed is known or chosen;
* `nodup_signatures_selectNew`, `selectNew_sublist` — each is chosen once, and in order.
-/
import Ambient.Hierarchy.Inheritance

namespace Ambient

variable {isAllowed : Method → Bool} {known : List Signature} {ms : List Method} {m : Method}

/-- Methods that are left out beforehand are methods that are not allowed. -/
theorem selectNew_filter (p isAllowed : Method → Bool) (known : List Signature)
    (ms : List Method) :
    selectNew isAllowed known (ms.filter p) =
      selectNew (fun m => isAllowed m && p m) known ms := by
  induction ms generalizing known with
  | nil => rfl
  | cons m ms ih =>
    rw [selectNew]
    -- A known method is passed over on both sides, whether it is left out or not.
    by_cases hk : m.signature ∈ known
    · rw [if_pos hk, List.filter_cons]
      split
      · rw [selectNew, if_pos hk, ih]
      · exact ih known
    · rw [if_neg hk, List.filter_cons]
      cases hp : p m with
      | true =>
        simp only [if_true, Bool.and_true]
        rw [selectNew, if_neg hk, ih, ih]
      | false =>
        simp only [Bool.and_false, Bool.false_eq_true, if_false]
        exact ih known

/-- **What is chosen**: the first method that is allowed of each signature that is not
known. -/
theorem mem_selectNew_iff : m ∈ selectNew isAllowed known ms ↔
    m.signature ∉ known ∧
      ms.find? (fun o => isAllowed o && o.signature = m.signature) = some m := by
  induction ms generalizing known with
  | nil => simp [selectNew]
  | cons o ms ih =>
    rw [selectNew, List.find?_cons]
    by_cases hs : o.signature = m.signature
    · -- The method before it has the signature, so `m` is only chosen if it is that method
      -- or that method is not allowed.
      rw [decide_eq_true hs, Bool.and_true]
      split
      next hknown => simp [ih, ← hs, hknown]
      next hknown =>
        cases isAllowed o with
        | true => simp [ih, ← hs, hknown, eq_comm (a := o)]
        | false => simp [ih]
    · rw [decide_eq_false hs, Bool.and_false]
      have hne : m ≠ o := fun h => hs (h ▸ rfl)
      split
      · exact ih
      · split
        · simp [ih, hne, Ne.symm hs]
        · exact ih

/-- Methods of one signature have one name, so where names decide what is allowed, the
first method of the signature is chosen. -/
theorem mem_selectNew_name_iff {mayTake : String → Bool} :
    m ∈ selectNew (fun o => mayTake o.name) known ms ↔
      mayTake m.name = true ∧ m.signature ∉ known ∧
        ms.find? (·.signature = m.signature) = some m := by
  have hname : ∀ o : Method, (mayTake o.name && o.signature = m.signature) =
      (mayTake m.name && o.signature = m.signature) := by
    intro o
    by_cases hs : o.signature = m.signature
    · have hon : o.name = m.name := congrArg Signature.name hs
      rw [hon]
    · rw [decide_eq_false hs, Bool.and_false, Bool.and_false]
  rw [mem_selectNew_iff]
  simp only [hname]
  cases mayTake m.name with
  | true => simp
  | false => simp [List.find?_eq_none.mpr]

/-- Only methods that are allowed are chosen. -/
theorem mem_of_mem_selectNew (h : m ∈ selectNew isAllowed known ms) :
    m ∈ ms ∧ isAllowed m = true := by
  have hfirst := (mem_selectNew_iff.mp h).2
  have hallowed := List.find?_some hfirst
  exact ⟨List.mem_of_find?_eq_some hfirst, (Bool.and_eq_true_iff.mp hallowed).1⟩

/-- The signature of a method that is allowed is known already or chosen. -/
theorem signature_mem_of_allowed (hm : m ∈ ms) (ha : isAllowed m = true) :
    m.signature ∈ known ++ (selectNew isAllowed known ms).map Method.signature := by
  by_cases hk : m.signature ∈ known
  · exact List.mem_append_left _ hk
  · have hsome : (ms.find? fun o => isAllowed o && o.signature = m.signature).isSome :=
      List.find?_isSome.mpr ⟨m, hm, by simp [ha]⟩
    obtain ⟨f, hf⟩ := Option.isSome_iff_exists.mp hsome
    have hfound := List.find?_some hf
    have hs : f.signature = m.signature := of_decide_eq_true (Bool.and_eq_true_iff.mp hfound).2
    rw [← hs] at hk hf ⊢
    exact List.mem_append_right _ (List.mem_map_of_mem (mem_selectNew_iff.mpr ⟨hk, hf⟩))

/-- Nothing is chosen if the signatures of all that are allowed are known. -/
theorem selectNew_eq_nil (h : ∀ m ∈ ms, isAllowed m = true → m.signature ∈ known) :
    selectNew isAllowed known ms = [] := by
  refine List.eq_nil_iff_forall_not_mem.mpr fun m hm => ?_
  obtain ⟨hmem, hallowed⟩ := mem_of_mem_selectNew hm
  exact (mem_selectNew_iff.mp hm).1 (h m hmem hallowed)

/-- Only what is known matters, not in which order. -/
theorem selectNew_congr {known known' : List Signature} (h : ∀ s, s ∈ known ↔ s ∈ known')
    (ms : List Method) : selectNew isAllowed known ms = selectNew isAllowed known' ms := by
  induction ms generalizing known known' with
  | nil => rfl
  | cons m ms ih =>
    have hcons : ∀ s, s ∈ m.signature :: known ↔ s ∈ m.signature :: known' := by
      intro s
      rw [List.mem_cons, List.mem_cons, h]
    simp only [selectNew, h, ih h, ih hcons]

/-- What has been chosen is known from then on. -/
theorem selectNew_append (known : List Signature) (ms os : List Method) :
    selectNew isAllowed known (ms ++ os) =
      selectNew isAllowed known ms ++
        selectNew isAllowed (known ++ (selectNew isAllowed known ms).map Method.signature) os := by
  induction ms generalizing known with
  | nil => rw [selectNew, List.map_nil, List.append_nil, List.nil_append, List.nil_append]
  | cons m ms ih =>
    rw [List.cons_append, selectNew, selectNew]
    split
    · exact ih known
    · split
      · rw [ih, List.cons_append, List.map_cons]
        refine congrArg _ (congrArg _ (selectNew_congr (fun s => ?_) os))
        simp only [List.mem_append, List.mem_cons]
        exact or_left_comm
      · exact ih known

/-- No two of the chosen methods have one signature. -/
theorem nodup_signatures_selectNew (isAllowed : Method → Bool) (known : List Signature)
    (ms : List Method) : ((selectNew isAllowed known ms).map Method.signature).Nodup := by
  induction ms generalizing known with
  | nil => exact List.nodup_nil
  | cons o ms ih =>
    rw [selectNew]
    split
    · exact ih known
    · split
      · rw [List.map_cons, List.nodup_cons]
        refine ⟨fun hm => ?_, ih _⟩
        obtain ⟨m, hm, hs⟩ := List.mem_map.mp hm
        exact (mem_selectNew_iff.mp hm).1 (hs ▸ List.mem_cons_self)
      · exact ih known

/-- What is chosen keeps its order. -/
theorem selectNew_sublist (isAllowed : Method → Bool) (known : List Signature)
    (ms : List Method) : (selectNew isAllowed known ms).Sublist ms := by
  induction ms generalizing known with
  | nil => exact .refl _
  | cons o ms ih =>
    rw [selectNew]
    split
    · exact (ih known).cons o
    · split
      · exact (ih _).cons_cons o
      · exact (ih known).cons o

end Ambient

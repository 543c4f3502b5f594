/-
What module grouping does with the definitions of a list.

Every definition that is not builtin is meant to be put, once and as it is, into the
module of its name.  What a builtin type holds is left out together with it, though,
so a definition nested in a builtin one is put nowhere.

* `Grouping.perm_flatMap_groupBy` — groups hold what was grouped, each as often;
* `Definition.lasting` — a definition and those nested in it, without builtin ones;
* `Definition.declared_eq_lasting_iff` — when these are what is declared;
* `Placed` — every lasting definition of a list is put where it belongs;
* `placed_modulesOf_iff` — when it is;
* `not_placed_characters` — a definition that is lost.
-/
import Mathlib.Data.List.Perm.Basic
import Mathlib.Data.List.Perm.Subperm
import Ambient.Proofs.Nesting
import Ambient.Proofs.Refinement

namespace Ambient

/-! ### Groups -/

namespace Grouping

variable {α κ : Type} [DecidableEq κ]

/-- The first occurrences of the elements of a list. -/
theorem distinct_eq_eraseDups : (ks : List κ) → distinct ks = ks.eraseDups
  | [] => rfl
  | k :: ks => by
    have ih := distinct_eq_eraseDups (ks.filter (· ≠ k))
    rw [distinct, ← distinct_filter, ih, List.eraseDups_cons]
    refine congrArg (fun l => k :: List.eraseDups l) (List.filter_congr fun l _ => ?_)
    by_cases hl : l = k <;> simp [hl]
termination_by ks => ks.length
decreasing_by exact Nat.lt_succ_of_le (List.length_filter_le _ _)

/-- The parts of a list by key, for different keys among which all of its keys are. -/
theorem perm_flatMap_filter {key : α → κ} {ks : List κ} {as : List α} (hks : ks.Nodup)
    (has : ∀ a ∈ as, key a ∈ ks) : (ks.flatMap fun k => as.filter (key · = k)).Perm as := by
  induction ks generalizing as with
  | nil =>
    cases as with
    | nil => exact .refl _
    | cons a as => cases has a List.mem_cons_self
  | cons k ks ih =>
    obtain ⟨hk, hks⟩ := List.nodup_cons.mp hks
    have hothers : ∀ a ∈ as.filter (fun a => !decide (key a = k)), key a ∈ ks := by
      intro a ha
      obtain ⟨ha, hne⟩ := List.mem_filter.mp ha
      exact (List.mem_cons.mp (has a ha)).resolve_left (by simpa using hne)
    have hsame : (ks.flatMap fun l => as.filter (key · = l)) =
        ks.flatMap fun l => (as.filter fun a => !decide (key a = k)).filter (key · = l) := by
      refine List.flatMap_congr fun l hl => ?_
      rw [List.filter_filter]
      refine List.filter_congr fun a _ => ?_
      have hne : key a = l → key a ≠ k := by
        rintro rfl rfl
        exact hk hl
      by_cases ha : key a = l
      · simp [ha, ha ▸ hne ha]
      · simp [ha]
    rw [List.flatMap_cons, hsame]
    exact ((ih hks hothers).append_left _).trans (List.filter_append_perm _ as)

/-- What has been grouped is in the groups, as often as before. -/
theorem perm_flatMap_groupBy (key : α → κ) (as : List α) :
    ((groupBy key as).flatMap Prod.snd).Perm as := by
  rw [groupBy, List.flatMap_map]
  refine perm_flatMap_filter (nodup_distinct _) fun a ha => ?_
  exact mem_distinct.mpr (List.mem_map_of_mem ha)

end Grouping

/-! ### What is declared -/

theorem flatMap_sublist {α β : Type} {f g : α → List β} {l : List α}
    (h : ∀ a ∈ l, (f a).Sublist (g a)) : (l.flatMap f).Sublist (l.flatMap g) := by
  induction l with
  | nil => exact .refl _
  | cons a l ih =>
    obtain ⟨ha, hl⟩ := List.forall_mem_cons.mp h
    exact ha.append (ih hl)

/-- Parts of lists make up all of the lists only if each part is its list. -/
theorem flatMap_eq_flatMap_iff {α β : Type} {f g : α → List β} {l : List α}
    (h : ∀ a ∈ l, (f a).Sublist (g a)) :
    l.flatMap f = l.flatMap g ↔ ∀ a ∈ l, f a = g a := by
  refine ⟨fun heq => ?_, fun heq => List.flatMap_congr heq⟩
  induction l with
  | nil => simp
  | cons a l ih =>
    obtain ⟨ha, hl⟩ := List.forall_mem_cons.mp h
    rw [List.flatMap_cons, List.flatMap_cons] at heq
    have hlength := congrArg List.length heq
    rw [List.length_append, List.length_append] at hlength
    have hfirst : f a = g a := by
      refine ha.eq_of_length ?_
      have h₁ := ha.length_le
      have h₂ := (flatMap_sublist hl).length_le
      omega
    rw [hfirst] at heq
    exact List.forall_mem_cons.mpr ⟨hfirst, ih hl (List.append_cancel_left heq)⟩

namespace Definition

/-- The definition and those nested in it at any depth, each before the ones inside it,
without the builtin ones. -/
def lasting (d : Definition) : List Definition :=
  d.withNested.filter (!·.type.isBuiltin)

/-- Only builtin definitions are nested in a builtin one. -/
def HoldsNothing (d : Definition) : Prop :=
  d.type.isBuiltin → d.Everywhere (·.type.isBuiltin)

theorem lasting_eq (d : Definition) :
    d.lasting = (if d.type.isBuiltin then [] else [d]) ++ d.nested.flatMap lasting := by
  rw [lasting, withNested_eq_cons, List.filter_cons, List.filter_flatMap]
  cases d.type.isBuiltin <;> rfl

theorem declared_eq_nested (d : Definition) :
    d.declared = if d.type.isBuiltin then [] else d :: d.nested.flatMap declared := by
  rw [declared_eq, declaredAmong_eq_flatMap]
  rfl

theorem declared_sublist (d : Definition) : d.declared.Sublist d.lasting := by
  induction d using nesting_induction with
  | step d ih =>
    rw [declared_eq_nested, lasting_eq]
    cases d.type.isBuiltin with
    | true => exact List.nil_sublist _
    | false => exact (flatMap_sublist ih).cons_cons d

/-- All that lasts is declared exactly if no builtin definition holds any of it. -/
theorem declared_eq_lasting_iff (d : Definition) :
    d.declared = d.lasting ↔ d.Everywhere HoldsNothing := by
  induction d using nesting_induction with
  | step d ih =>
    have hnested : d.nested.flatMap declared = d.nested.flatMap lasting ↔
        ∀ e ∈ d.nested, e.Everywhere HoldsNothing := by
      rw [flatMap_eq_flatMap_iff fun e _ => e.declared_sublist]
      exact forall₂_congr ih
    rw [everywhere_iff, declared_eq_nested]
    by_cases hd : d.type.isBuiltin
    · rw [if_pos hd]
      constructor
      · intro h
        have hall : d.Everywhere (·.type.isBuiltin) := by
          intro e he
          have hnot := List.filter_eq_nil_iff.mp h.symm e he
          simpa using hnot
        -- What is builtin everywhere holds nothing anywhere.
        refine ⟨fun _ => hall, fun e he f hf _ g hg => ?_⟩
        have hfd : f ∈ d.withNested := mem_withNested_iff.mpr (.inr ⟨e, he, hf⟩)
        exact hall g (mem_withNested_trans hg hfd)
      · rintro ⟨h, -⟩
        refine (List.filter_eq_nil_iff.mpr fun e he => ?_).symm
        simp [h hd e he]
    · rw [if_neg hd, lasting_eq, if_neg hd, List.singleton_append, List.cons_inj_right, hnested]
      exact ⟨fun h => ⟨fun hb => absurd hb hd, h⟩, fun h => h.2⟩

end Definition

/-! ### Modules -/

/-- Every definition of the list that is not builtin, at any depth, is in the module of
its name, and nothing else is anywhere. -/
structure Placed (ds : List Definition) (modules : List (String × List Definition)) : Prop where
  /-- Each is in one module once, as it is. -/
  once : (modules.flatMap Prod.snd).Perm (ds.flatMap Definition.lasting)
  /-- The module is that of the name. -/
  home : ∀ p ∈ modules, ∀ d ∈ p.2, d.moduleName = p.1
  /-- A module has the order of the list, with each definition before the ones inside it. -/
  ordered : ∀ p ∈ modules, p.2.Sublist (ds.flatMap Definition.withNested)
  /-- The modules have the order of their first definitions. -/
  first : modules.map Prod.fst =
    ((ds.flatMap Definition.lasting).map Definition.moduleName).eraseDups

/-- **No declaration is lost or duplicated** by putting definitions into modules, unless
a builtin definition holds one that is not. -/
theorem placed_modulesOf_iff (ds : List Definition) :
    Placed ds (modulesOf ds) ↔ ∀ d ∈ ds, d.Everywhere Definition.HoldsNothing := by
  have hsublist := flatMap_sublist fun d (_ : d ∈ ds) => d.declared_sublist
  have hdeclared : ds.flatMap Definition.declared = ds.flatMap Definition.lasting ↔
      ∀ d ∈ ds, d.Everywhere Definition.HoldsNothing := by
    rw [flatMap_eq_flatMap_iff fun d _ => d.declared_sublist]
    exact forall₂_congr fun d _ => d.declared_eq_lasting_iff
  have hperm := Grouping.perm_flatMap_groupBy Definition.moduleName
    (ds.flatMap Definition.declared)
  rw [← hdeclared]
  constructor
  · intro h
    exact hsublist.eq_of_length (hperm.symm.trans h.once).length_eq
  · intro h
    refine ⟨h ▸ hperm, fun p hp d hd => ?_, fun p hp => ?_, ?_⟩
    · obtain ⟨-, hgroup⟩ := Grouping.mem_groupBy_iff.mp hp
      rw [hgroup] at hd
      simpa using (List.mem_filter.mp hd).2
    · obtain ⟨-, hgroup⟩ := Grouping.mem_groupBy_iff.mp hp
      rw [hgroup, h]
      refine List.filter_sublist.trans (flatMap_sublist fun d _ => ?_)
      exact List.filter_sublist
    · rw [modulesOf, Grouping.keys_groupBy, Grouping.distinct_eq_eraseDups, h]

/-- A class of blocks of characters. -/
def unicodeBlock : Definition :=
  Definition.empty .classType (.simple "java.lang.Character.UnicodeBlock")

/-- The class of characters, which stands for a primitive type, with the blocks inside. -/
def characters : Definition :=
  { Definition.empty .classType (.named "java.lang.Character") with
    members := [.nested unicodeBlock] }

/-- The blocks are put into no module. -/
theorem not_placed_characters :
    unicodeBlock ∈ characters.lasting ∧ modulesOf [characters] = [] ∧
    ¬Placed [characters] (modulesOf [characters]) := by
  refine ⟨List.mem_cons_self, rfl, fun h => ?_⟩
  have hlength := h.once.length_eq
  revert hlength
  decide +kernel

end Ambient

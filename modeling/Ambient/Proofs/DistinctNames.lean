/-
Distinct local names.

Local names are given one at a time, and only some ways of giving one look at
the names that are taken.  This file says exactly when different names get
different local names.

* `Fresh`, `fresh_bindAll_iff` — the local names of imports differ from each other
  and from all names of the module, unless an alias was taken when it was given;
* `not_aliasTaken_of_no_underscore` — which it never is among names without
  underscores;
* `KeepsApart`, `keepsApart_iff` — when names stay distinct: no alias was taken,
  no import has the local name of something that needs none, and no name without
  a scope is the simple name of one from the module;
* `keepsApart_alias` — two names with one alias.
-/
import Mathlib.Data.List.Induction
import Ambient.Proofs.LocalNames

namespace Ambient.Scope

open QualifiedName

variable {s : Scope} {n m : String}

/-! ### Distinct local names -/

/-- The name gets an alias, and that stands for something else already. -/
def AliasTaken (s : Scope) (n : String) : Prop :=
  s.IsForeign n ∧ n ∉ s.imports.map Prod.fst ∧ simple n ∈ s.taken ∧ aliasOf n ∈ s.taken

/-- The local names of the imports differ from each other and from other names. -/
structure Fresh (s : Scope) (others : List String) : Prop where
  nodup : (s.imports.map Prod.snd).Nodup
  notMem : ∀ x ∈ s.imports.map Prod.snd, x ∉ others

theorem importName_mem_taken_iff :
    s.importName n ∈ s.taken ↔ simple n ∈ s.taken ∧ aliasOf n ∈ s.taken := by
  unfold importName
  by_cases h : simple n ∈ s.taken <;> simp [h]

section
variable (hs : s.imports = [])
include hs

/-- One more import is fresh, unless it gets an alias that is taken. -/
theorem fresh_bindAll_concat {ns : List String} :
    (s.bindAll (ns ++ [n])).Fresh s.taken ↔
      (s.bindAll ns).Fresh s.taken ∧ ¬(s.bindAll ns).AliasTaken n := by
  set t := s.bindAll ns with ht
  rw [bindAll_concat, ← ht]
  obtain ⟨hk, heq⟩ | ⟨hf, hx, -, heq⟩ := bind_cases t n
  · have hfree : ¬t.AliasTaken n := fun h => h.2.1 (knows_iff.mp hk h.1)
    rw [heq, and_iff_left hfree]
  · have hkey := lookup_eq_none_iff_notMem.mp hx
    have htaken : t.AliasTaken n ↔
        t.importName n ∈ t.imports.map Prod.snd ∨ t.importName n ∈ s.taken := by
      rw [AliasTaken, ← importName_mem_taken_iff, and_iff_right hf, and_iff_right hkey, ht,
        mem_taken_bindAll_iff hs]
    have hnames : (t.extend [(n, t.importName n)]).imports.map Prod.snd =
        t.imports.map Prod.snd ++ [t.importName n] := by simp
    rw [heq, htaken, not_or]
    constructor
    · rintro ⟨hnd, hnot⟩
      rw [hnames, ← List.concat_eq_append, List.nodup_concat] at hnd
      rw [hnames, List.forall_mem_append] at hnot
      exact ⟨⟨hnd.2, hnot.1⟩, hnd.1, hnot.2 _ (List.mem_singleton_self _)⟩
    · rintro ⟨⟨hnd, hnot⟩, hnew, hfree⟩
      constructor
      · rw [hnames, ← List.concat_eq_append]
        exact hnd.concat hnew
      · rw [hnames, List.forall_mem_append]
        exact ⟨hnot, List.forall_mem_singleton.mpr hfree⟩

/-- All imports are fresh if no alias was taken when it was given. -/
theorem fresh_bindAll_iff {ns : List String} :
    (s.bindAll ns).Fresh s.taken ↔
      ∀ before n, before ++ [n] <+: ns → ¬(s.bindAll before).AliasTaken n := by
  induction ns using List.reverseRecOn with
  | nil =>
    refine iff_of_true ⟨?_, ?_⟩ ?_
    · simp [hs]
    · simp [hs]
    · intro before n h
      simp at h
  | append_singleton ns k ih =>
    rw [fresh_bindAll_concat hs, ih]
    constructor
    · rintro ⟨h, hk⟩ before n hpre
      obtain heq | hpre := List.prefix_concat_iff.mp hpre
      · obtain ⟨rfl, rfl⟩ : before = ns ∧ n = k := by simpa using heq
        exact hk
      · exact h before n hpre
    · intro h
      exact ⟨fun before n hpre => h before n (hpre.trans (List.prefix_append ns [k])),
        h ns k (List.prefix_refl _)⟩

end

/-! ### Names without underscores -/

/-- Underscores turned back into dots make a name of its alias. -/
theorem map_aliasOf (h : scope n ≠ "") (hn : '_' ∉ n.toList) :
    (aliasOf n).map (fun c => if c = '_' then '.' else c) = n := by
  have hchars : n.toList = (scope n).toList ++ '.' :: (simple n).toList := by
    conv_lhs => rw [← scope_append_simple_of_ne h]
    simp
  rw [hchars, List.mem_append, List.mem_cons, not_or, not_or] at hn
  obtain ⟨hscope, -, hsimple⟩ := hn
  have hpath : (scope n).toList.map ((fun c => if c = '_' then '.' else c) ∘
      fun c => if c = '.' then '_' else c) = (scope n).toList := by
    refine (List.map_congr_left fun c hc => ?_).trans (List.map_id _)
    have hc : c ≠ '_' := fun e => hscope (e ▸ hc)
    by_cases hdot : c = '.' <;> simp [hdot, hc]
  have hlast : (simple n).toList.map (fun c => if c = '_' then '.' else c) =
      (simple n).toList := by
    refine (List.map_congr_left fun c hc => ?_).trans (List.map_id _)
    exact if_neg fun e : c = '_' => hsimple (e ▸ hc)
  apply String.toList_inj.mp
  rw [hchars]
  simp [aliasOf, hpath, hlast]

theorem underscore_mem_aliasOf (n : String) : '_' ∈ (aliasOf n).toList := by
  simp [aliasOf]

/-- An import has the simple name or the alias. -/
theorem importName_eq (s : Scope) (n : String) :
    s.importName n = simple n ∨ s.importName n = aliasOf n := by
  by_cases h : simple n ∈ s.taken <;> simp [importName, h]

theorem mem_imports_bindAll_eq (hs : s.imports = []) {ns : List String} {x : String}
    (h : (n, x) ∈ (s.bindAll ns).imports) : x = simple n ∨ x = aliasOf n := by
  induction ns using List.reverseRecOn with
  | nil => simp [hs] at h
  | append_singleton ns k ih =>
    rw [bindAll_concat] at h
    obtain ⟨-, heq⟩ | ⟨-, -, -, heq⟩ := bind_cases (s.bindAll ns) k
    · exact ih (heq ▸ h)
    · rw [heq, extend_imports, List.mem_append, List.mem_singleton] at h
      obtain h | h := h
      · exact ih h
      · obtain ⟨rfl, rfl⟩ := Prod.mk.inj h
        exact importName_eq _ n

/-- Among names without underscores no alias is ever taken. -/
theorem not_aliasTaken_of_no_underscore (hs : s.imports = []) {ns : List String}
    (htaken : ∀ x ∈ s.taken, '_' ∉ x.toList) (hns : ∀ m ∈ ns, '_' ∉ m.toList)
    (hn : '_' ∉ n.toList) : ¬(s.bindAll ns).AliasTaken n := by
  rintro ⟨hf, hnew, -, halias⟩
  obtain halias | halias := (mem_taken_bindAll_iff hs).mp halias
  · obtain ⟨⟨m, x⟩, hm, rfl⟩ := List.mem_map.mp halias
    obtain ⟨hmem, hfm, -⟩ := (mem_imports_bindAll_iff hs).mp hm
    obtain heq | heq := mem_imports_bindAll_eq hs hm
    · have hsimple : '_' ∈ (simple m).toList := heq ▸ underscore_mem_aliasOf n
      refine hns m hmem ?_
      rw [← scope_append_simple_of_ne hfm.1]
      simp [hsimple]
    · have hmn : m = n := by
        rw [← map_aliasOf hfm.1 (hns m hmem), ← map_aliasOf hf.1 hn, ← heq]
      exact hnew (hmn ▸ List.mem_map_of_mem hm)
  · exact htaken _ halias (underscore_mem_aliasOf n)

/-! ### When names stay apart -/

/-- The names with their local names, as they are used one after the other. -/
def localNames (s : Scope) (ns : List String) : List (String × String) :=
  ns.zip ((ns.mapM Scoped.localName).run s).1

/-- Different names get different local names, and an import gets none that was
taken before. -/
structure KeepsApart (s : Scope) (ns : List String) : Prop where
  eq_of_eq : ∀ n m x, (n, x) ∈ s.localNames ns → (m, x) ∈ s.localNames ns → n = m
  notMem_taken : ∀ n x, (n, x) ∈ ((ns.mapM Scoped.localName).run s).2.imports → x ∉ s.taken

theorem mem_localNames_iff {ns : List String} {x : String} :
    (n, x) ∈ s.localNames ns ↔ n ∈ ns ∧ (s.bindAll ns).nameOf n = x := by
  rw [localNames, run_mapM_localName, ← List.map_prod_left_eq_zip, List.mem_map]
  simp

theorem keepsApart_iff_nameOf (hs : s.imports = []) {ns : List String} :
    s.KeepsApart ns ↔
      (∀ n ∈ ns, ∀ m ∈ ns, (s.bindAll ns).nameOf n = (s.bindAll ns).nameOf m → n = m) ∧
      ∀ n ∈ ns, s.IsForeign n → (s.bindAll ns).nameOf n ∉ s.taken := by
  constructor
  · rintro ⟨heq, hfree⟩
    rw [run_mapM_localName] at hfree
    refine ⟨?_, ?_⟩
    · intro n hn m hm h
      exact heq n m _ (mem_localNames_iff.mpr ⟨hn, rfl⟩) (mem_localNames_iff.mpr ⟨hm, h.symm⟩)
    · intro n hn hf
      exact hfree n _ ((mem_imports_bindAll_iff hs).mpr ⟨hn, hf, rfl⟩)
  · rintro ⟨heq, hfree⟩
    refine ⟨?_, ?_⟩
    · intro n m x hn hm
      obtain ⟨hn, hx⟩ := mem_localNames_iff.mp hn
      obtain ⟨hm, hy⟩ := mem_localNames_iff.mp hm
      exact heq n hn m hm (hx.trans hy.symm)
    · rw [run_mapM_localName]
      intro n x h
      obtain ⟨hn, hf, rfl⟩ := (mem_imports_bindAll_iff hs).mp h
      exact hfree n hn hf

/-- What it means for the names that are imported that all imports are fresh. -/
theorem fresh_iff_nameOf (hs : s.imports = []) {ns : List String} :
    (s.bindAll ns).Fresh s.taken ↔
      (∀ n ∈ ns, ∀ m ∈ ns, s.IsForeign n → s.IsForeign m →
        (s.bindAll ns).nameOf n = (s.bindAll ns).nameOf m → n = m) ∧
      ∀ n ∈ ns, s.IsForeign n → (s.bindAll ns).nameOf n ∉ s.taken := by
  constructor
  · rintro ⟨hnd, hfree⟩
    refine ⟨?_, ?_⟩
    · intro n hn m hm hfn hfm h
      have hn' := (mem_imports_bindAll_iff hs).mpr ⟨hn, hfn, h⟩
      have hm' := (mem_imports_bindAll_iff hs).mpr ⟨hm, hfm, rfl⟩
      exact (Prod.mk.inj (List.inj_on_of_nodup_map hnd hn' hm' rfl)).1
    · intro n hn hf
      exact hfree _ ((mem_names_bindAll_iff hs).mpr ⟨n, hn, hf, rfl⟩)
  · rintro ⟨heq, hfree⟩
    refine ⟨?_, ?_⟩
    · refine (List.Nodup.of_map _ (wellKeyed_bindAll hs ns).nodup).map_on ?_
      rintro ⟨n, x⟩ hn ⟨m, y⟩ hm rfl
      obtain ⟨hn, hfn, hx⟩ := (mem_imports_bindAll_iff hs).mp hn
      obtain ⟨hm, hfm, hy⟩ := (mem_imports_bindAll_iff hs).mp hm
      rw [heq n hn m hm hfn hfm (hx.trans hy.symm)]
    · intro x hx
      obtain ⟨n, hn, hf, rfl⟩ := (mem_names_bindAll_iff hs).mp hx
      exact hfree n hn hf

theorem nameOf_bindAll_of_home {ns : List String} (hn : ¬s.IsForeign n) :
    (s.bindAll ns).nameOf n = homeName n := by
  rw [nameOf, bind_of_home (isForeign_bindAll.not.mpr hn)]

/-- Names that need no import differ in their local names, unless a name without a
scope is the simple name of one from the module. -/
theorem homeName_inj {ns : List String}
    (hbare : ∀ n ∈ ns, ∀ m ∈ ns, scope n = "" → scope m ≠ "" → scope m = s.module →
      simple m ≠ n)
    (hn : n ∈ ns) (hm : m ∈ ns) (hhn : ¬s.IsForeign n) (hhm : ¬s.IsForeign m)
    (h : homeName n = homeName m) : n = m := by
  simp only [IsForeign, not_and, not_not] at hhn hhm
  unfold homeName at h
  by_cases hsn : scope n = "" <;> by_cases hsm : scope m = ""
  · simpa [hsn, hsm] using h
  · rw [if_pos hsn, if_neg hsm] at h
    exact absurd h.symm (hbare n hn m hm hsn hsm (hhm hsm))
  · rw [if_neg hsn, if_pos hsm] at h
    exact absurd h (hbare m hm n hn hsm hsn (hhn hsn))
  · rw [if_neg hsn, if_neg hsm] at h
    exact eq_of_scope_eq_of_simple_eq hsm ((hhn hsn).trans (hhm hsm).symm) h

/-- **Distinct names.** In a module with some names taken, any sequence of uses gives
different names different local names, and imports none that was taken, exactly if
no import gets an alias that is taken by then, no name that needs no import (and
is not among the taken ones) is the local name of one, and no name without a scope
is the simple name of one from the module. -/
theorem keepsApart_iff (module : String) (taken ns : List String) :
    KeepsApart { module, taken } ns ↔
      (∀ before n, before ++ [n] <+: ns → ¬(bindAll { module, taken } before).AliasTaken n) ∧
      (∀ n ∈ ns, ¬IsForeign { module, taken } n → homeName n ∉ taken →
        homeName n ∉ (bindAll { module, taken } ns).imports.map Prod.snd) ∧
      (∀ n ∈ ns, ∀ m ∈ ns, scope n = "" → scope m ≠ "" → scope m = module → simple m ≠ n) := by
  set s : Scope := { module, taken } with hs
  have hnil : s.imports = [] := rfl
  rw [← fresh_bindAll_iff hnil, fresh_iff_nameOf hnil, keepsApart_iff_nameOf hnil]
  constructor
  · rintro ⟨heq, hfree⟩
    refine ⟨⟨fun n hn m hm _ _ => heq n hn m hm, hfree⟩, ?_, ?_⟩
    · intro n hn hhome _ hx
      obtain ⟨m, hm, hf, hname⟩ := (mem_names_bindAll_iff hnil).mp hx
      obtain rfl := heq n hn m hm ((nameOf_bindAll_of_home hhome).trans hname.symm)
      exact hhome hf
    · intro n hn m hm hsn hsm hown hsimple
      have hhn : ¬s.IsForeign n := fun h => h.1 hsn
      have hhm : ¬s.IsForeign m := fun h => h.2 hown
      have hname : homeName n = homeName m := by
        rw [homeName, if_pos hsn, homeName, if_neg hsm, hsimple]
      obtain rfl := heq n hn m hm (by
        rw [nameOf_bindAll_of_home hhn, nameOf_bindAll_of_home hhm, hname])
      exact hsm hsn
  · rintro ⟨⟨heq, hfree⟩, himport, hbare⟩
    -- No import has the local name of something that needs none.
    have hmixed : ∀ n ∈ ns, ∀ m ∈ ns, s.IsForeign n → ¬s.IsForeign m →
        (s.bindAll ns).nameOf n ≠ (s.bindAll ns).nameOf m := by
      intro n hn m hm hf hhome h
      rw [nameOf_bindAll_of_home hhome] at h
      by_cases ht : homeName m ∈ taken
      · exact hfree n hn hf (h ▸ ht)
      · exact himport m hm hhome ht ((mem_names_bindAll_iff hnil).mpr ⟨n, hn, hf, h⟩)
    refine ⟨fun n hn m hm h => ?_, hfree⟩
    by_cases hfn : s.IsForeign n <;> by_cases hfm : s.IsForeign m
    · exact heq n hn m hm hfn hfm h
    · exact absurd h (hmixed n hn m hm hfn hfm)
    · exact absurd h.symm (hmixed m hm n hn hfm hfn)
    · rw [nameOf_bindAll_of_home hfn, nameOf_bindAll_of_home hfm] at h
      exact homeName_inj hbare hn hm hfn hfm h

/-- The aliases of different names can be one and the same. -/
theorem keepsApart_alias :
    ¬KeepsApart { module := "m", taken := ["Dog"] } ["a.b.Dog", "a_b.Dog"] := by
  intro h
  have hnames : localNames { module := "m", taken := ["Dog"] } ["a.b.Dog", "a_b.Dog"] =
      [("a.b.Dog", "a_b_Dog"), ("a_b.Dog", "a_b_Dog")] := by decide +kernel
  have heq := h.eq_of_eq "a.b.Dog" "a_b.Dog" "a_b_Dog" (by simp [hnames]) (by simp [hnames])
  exact absurd heq (by decide)

end Ambient.Scope

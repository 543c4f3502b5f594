/-
Import statements.

The names that are used in a module are imported as they come, and put into statements by
module when all is written.  This file says what stands in these statements after any
sequence of uses, from a module without imports on:

* `keys_bindAll`, `imports_bindAll` — the imports are the foreign names that were used, in
  the order of their first uses, each with the local name that it has throughout;
* `Gathers`, `Gathers.unique` — foreign names by the modules they come from, modules and
  names in the order of their first uses, which is one list of groups;
* `importLines_exact` — the statements, one for each module and one entry for each name.
-/
import Ambient.Proofs.LocalNames

namespace Ambient.Scope

open QualifiedName

variable {s : Scope}

/-! ### The imports in their order -/

/-- The names that are imported: those from before, and then the foreign ones among those
that are used. -/
theorem keys_bindAll (s : Scope) (ns : List String) :
    (s.bindAll ns).imports.map Prod.fst = s.imports.map Prod.fst ++
      (Grouping.distinct (ns.filter s.IsForeign)).filter (· ∉ s.imports.map Prod.fst) := by
  induction ns generalizing s with
  | nil => simp [Grouping.distinct]
  | cons n ns ih =>
    rw [bindAll_cons, ih]
    obtain ⟨hk, hs⟩ | ⟨hf, hx, -, hs⟩ := bind_cases s n
    · rw [hs]
      refine congrArg _ ?_
      by_cases hf : s.IsForeign n
      · have hkey := knows_iff.mp hk hf
        rw [List.filter_cons, if_pos (decide_eq_true hf), Grouping.distinct, List.filter_cons,
          if_neg (by simpa using hkey), List.filter_filter]
        refine List.filter_congr fun m _ => ?_
        by_cases hm : m = n <;> simp [hm, hkey]
      · rw [List.filter_cons, if_neg (by simpa using hf)]
    · have hkey := lookup_eq_none_iff_notMem.mp hx
      have hkeys : (s.extend [(n, s.importName n)]).imports.map Prod.fst =
          s.imports.map Prod.fst ++ [n] := by simp
      rw [hs, hkeys, List.filter_cons, if_pos (decide_eq_true hf), Grouping.distinct,
        List.filter_cons, if_pos (decide_eq_true hkey), List.filter_filter, List.append_assoc]
      refine congrArg (fun l => s.imports.map Prod.fst ++ n :: l)
        (List.filter_congr fun m _ => ?_)
      simp only [List.mem_append, List.mem_singleton, not_or, Bool.decide_and, ne_eq]

/-- From no imports on, the imports are the foreign names in the order of their first
uses, each with the local name that it has in the end. -/
theorem imports_bindAll (hs : s.imports = []) (ns : List String) :
    (s.bindAll ns).imports =
      (Grouping.distinct (ns.filter s.IsForeign)).map fun n =>
        (n, (s.bindAll ns).nameOf n) := by
  have hkeys : (s.bindAll ns).imports.map Prod.fst =
      Grouping.distinct (ns.filter s.IsForeign) := by
    rw [keys_bindAll, hs]
    simp
  rw [← hkeys, List.map_map]
  refine ((List.map_congr_left ?_).trans (List.map_id _)).symm
  rintro ⟨n, x⟩ hn
  exact Prod.ext rfl ((mem_imports_bindAll_iff hs).mp hn).2.2

/-! ### The statements -/

/-- A statement that imports from a module, given what it says of each name. -/
def importLine (module : String) (specifiers : List String) : String :=
  "import \x7b " ++ ", ".intercalate specifiers ++ " \x7d from '" ++ module ++ "';"

/-- The foreign names among those that are used, by the modules that they come from.
Modules and names stand in the order of their first uses, so that each is there once. -/
structure Gathers (s : Scope) (ns : List String) (groups : List (String × List String)) :
    Prop where
  mem_modules_iff : ∀ m, m ∈ groups.map Prod.fst ↔ ∃ n ∈ ns, s.IsForeign n ∧ scope n = m
  modules_ordered : (groups.map Prod.fst).Pairwise fun m k =>
    (ns.map scope).idxOf m < (ns.map scope).idxOf k
  mem_names_iff : ∀ m names, (m, names) ∈ groups → ∀ n, n ∈ names ↔ n ∈ ns ∧ scope n = m
  names_ordered : ∀ m names, (m, names) ∈ groups →
    names.Pairwise fun n k => ns.idxOf n < ns.idxOf k

/-- The foreign names that are used, by module. -/
def foreignGroups (s : Scope) (ns : List String) : List (String × List String) :=
  Grouping.groupBy scope (Grouping.distinct (ns.filter s.IsForeign))

/-- Whether names of a scope are foreign is told from the scope. -/
theorem filter_map_scope (s : Scope) (ns : List String) :
    (ns.filter s.IsForeign).map scope = (ns.map scope).filter fun m => m ≠ "" ∧ m ≠ s.module := by
  rw [List.filter_map]
  rfl

theorem gathers_foreignGroups (s : Scope) (ns : List String) :
    s.Gathers ns (s.foreignGroups ns) where
  mem_modules_iff m := by
    rw [foreignGroups, Grouping.keys_groupBy, Grouping.mem_distinct, List.mem_map]
    simp only [Grouping.mem_distinct, List.mem_filter, decide_eq_true_eq, and_assoc]
  modules_ordered := by
    rw [foreignGroups, Grouping.keys_groupBy, Grouping.distinct_map_distinct, filter_map_scope,
      Grouping.distinct_filter]
    exact (Grouping.pairwise_idxOf_distinct _).filter _
  mem_names_iff := by
    intro m names h n
    obtain ⟨hm, rfl⟩ := Grouping.mem_groupBy_iff.mp h
    obtain ⟨k, hk, rfl⟩ := List.mem_map.mp hm
    rw [Grouping.mem_distinct, List.mem_filter, decide_eq_true_eq] at hk
    rw [List.mem_filter, Grouping.mem_distinct, List.mem_filter, decide_eq_true_eq,
      decide_eq_true_eq, and_assoc]
    -- A name from the module of a foreign name is foreign as well.
    refine and_congr_right fun _ => and_iff_right_of_imp fun hn => ?_
    rw [IsForeign, hn]
    exact hk.2
  names_ordered := by
    intro m names h
    obtain ⟨-, rfl⟩ := Grouping.mem_groupBy_iff.mp h
    rw [Grouping.distinct_filter]
    exact ((Grouping.pairwise_idxOf_distinct ns).filter _).filter _

/-- There is one such list of groups. -/
theorem Gathers.unique {ns : List String} {groups groups' : List (String × List String)}
    (h : s.Gathers ns groups) (h' : s.Gathers ns groups') : groups = groups' := by
  have hmodules : groups.map Prod.fst = groups'.map Prod.fst :=
    Grouping.eq_of_pairwise_idxOf h.modules_ordered h'.modules_ordered fun m =>
      (h.mem_modules_iff m).trans (h'.mem_modules_iff m).symm
  have hnames : ∀ m names names', (m, names) ∈ groups → (m, names') ∈ groups' →
      names = names' := fun m names names' hm hm' =>
    Grouping.eq_of_pairwise_idxOf (h.names_ordered m names hm) (h'.names_ordered m names' hm')
      fun n => (h.mem_names_iff m names hm n).trans (h'.mem_names_iff m names' hm' n).symm
  have hlength : groups.length = groups'.length := by simpa using congrArg List.length hmodules
  refine List.ext_getElem hlength fun i hi hi' => ?_
  have hmodule : groups[i].1 = groups'[i].1 := by
    have hget := List.getElem_of_eq hmodules (i := i) (by rwa [List.length_map])
    rwa [List.getElem_map, List.getElem_map] at hget
  refine Prod.ext hmodule (hnames groups[i].1 _ _ (List.getElem_mem hi) ?_)
  rw [hmodule]
  exact List.getElem_mem hi'

theorem importLines_bindAll (hs : s.imports = []) (ns : List String) :
    (s.bindAll ns).importLines = (s.foreignGroups ns).map fun (m, names) =>
      importLine m (names.map fun n => specifier (n, (s.bindAll ns).nameOf n)) := by
  rw [importLines, imports_bindAll hs, Grouping.groupBy_map (fun _ => rfl), List.map_map,
    foreignGroups]
  refine List.map_congr_left fun p _ => ?_
  simp only [Function.comp_apply, List.map_map]
  rfl

/-- **Import statements**: in any sequence of uses a name is given one local name, and the
statements at the end are one for each module that foreign names come from, with one entry
for each of these names: its simple name, and the local name after it if that is another
one.  All are in the order of first uses, and nothing else is imported. -/
theorem importLines_exact (module : String) (taken ns : List String) :
    ∃ (name : String → String) (groups : List (String × List String)),
      ((ns.mapM Scoped.localName).run { module, taken }).1 = ns.map name ∧
      Gathers { module, taken } ns groups ∧
      ((ns.mapM Scoped.localName).run { module, taken }).2.importLines =
        groups.map fun (m, names) => importLine m (names.map fun n =>
          if simple n = name n then simple n else simple n ++ " as " ++ name n) := by
  set s : Scope := { module, taken } with hs
  have hnil : s.imports = [] := rfl
  rw [run_mapM_localName]
  exact ⟨(s.bindAll ns).nameOf, s.foreignGroups ns, rfl, s.gathers_foreignGroups ns,
    importLines_bindAll hnil ns⟩

/-- Uses of names from two modules, where two are called alike and one is called like what is
in the module itself. -/
def petShop : List String :=
  ["b.Cage", "b.Dog", "c.Cage", "b.Keeper", "b.Cage"]

/-- A name from a module that has been imported from goes into the statement that is there. -/
theorem importLines_exact_petShop :
    ((petShop.mapM Scoped.localName).run { module := "a", taken := ["Dog"] }).1 =
      ["Cage", "b_Dog", "c_Cage", "Keeper", "Cage"] ∧
    ((petShop.mapM Scoped.localName).run { module := "a", taken := ["Dog"] }).2.importLines =
      ["import \x7b Cage, Dog as b_Dog, Keeper \x7d from 'b';",
       "import \x7b Cage as c_Cage \x7d from 'c';"] := by
  have hnames : ((petShop.mapM Scoped.localName).run { module := "a", taken := ["Dog"] }).1 =
      ["Cage", "b_Dog", "c_Cage", "Keeper", "Cage"] := by decide +kernel
  have hgroups : foreignGroups { module := "a", taken := ["Dog"] } petShop =
      [("b", ["b.Cage", "b.Dog", "b.Keeper"]), ("c", ["c.Cage"])] := by decide +kernel
  have hsimple : simple "b.Cage" = "Cage" ∧ simple "b.Dog" = "Dog" ∧
      simple "b.Keeper" = "Keeper" ∧ simple "c.Cage" = "Cage" := by decide +kernel
  obtain ⟨name, groups, hname, hgathers, hlines⟩ := importLines_exact "a" ["Dog"] petShop
  obtain rfl := hgathers.unique (gathers_foreignGroups _ petShop)
  refine ⟨hnames, ?_⟩
  rw [hnames] at hname
  obtain ⟨hcage, hdog, hcage', hkeeper, -⟩ : "Cage" = name "b.Cage" ∧ "b_Dog" = name "b.Dog" ∧
      "c_Cage" = name "c.Cage" ∧ "Keeper" = name "b.Keeper" ∧ "Cage" = name "b.Cage" := by
    simpa [petShop] using hname
  rw [hlines, hgroups]
  simp only [List.map_cons, List.map_nil, hsimple, ← hcage, ← hdog, ← hcage', ← hkeeper]
  decide +kernel

end Ambient.Scope

/-
The contents of output units.

Modules are put into units one after the other: each text goes to the end of the unit
with its key, and the first module with a key opens a unit at the end.

* `addText_map` — what one module does to the units there are;
* `gathered_eq` — after any number of modules there is one unit for each key, which
  holds the texts of that key and no others;
* `FirstOccurrences`, `FirstOccurrences.eq_distinct` — keys in the order in which they
  first occur, of which there is one list only;
* `unitsOf_exact` — all units, and the index that refers to them.
-/
import Ambient.Output.Units
import Mathlib.Data.List.Induction
import Mathlib.Data.List.Nodup
import Mathlib.Data.List.Perm.Basic

namespace Ambient

variable {groupsByModule : Bool}

/-! ### Gathering -/

/-- The texts of the modules with a key, in their order. -/
def textsOf (groupsByModule : Bool) (modules : List (String × String)) (key : String) :
    List String :=
  (modules.filter (unitKey groupsByModule ·.1 = key)).map Prod.snd

theorem textsOf_concat (modules : List (String × String)) (module text key : String) :
    textsOf groupsByModule (modules ++ [(module, text)]) key =
      if unitKey groupsByModule module = key then textsOf groupsByModule modules key ++ [text]
      else textsOf groupsByModule modules key := by
  unfold textsOf
  rw [List.filter_append, List.map_append]
  split
  next h => simp [h]
  next h => simp [h]

theorem textsOf_eq_nil {modules : List (String × String)} {key : String}
    (h : key ∉ modules.map fun m => unitKey groupsByModule m.1) :
    textsOf groupsByModule modules key = [] := by
  rw [textsOf, List.map_eq_nil_iff, List.filter_eq_nil_iff]
  intro m hm hkey
  exact h (List.mem_map.mpr ⟨m, hm, of_decide_eq_true hkey⟩)

theorem joined_concat (texts : List String) (text : String) :
    joined (texts ++ [text]) = extended (joined texts) text :=
  List.foldl_append

/-- A text is put after those of its key, or into a unit of its own at the end. -/
theorem addText_map {keys : List String} (hkeys : keys.Nodup) (contents : String → String)
    (key text : String) :
    addText key text (keys.map fun k => (k, contents k)) =
      if key ∈ keys then
        keys.map fun k => (k, if k = key then extended (contents k) text else contents k)
      else keys.map (fun k => (k, contents k)) ++ [(key, text)] := by
  induction keys with
  | nil => rfl
  | cons l keys ih =>
    obtain ⟨hl, hkeys⟩ := List.nodup_cons.mp hkeys
    rw [List.map_cons, addText, ih hkeys]
    by_cases h : l = key
    · -- The key does not come again, so that all that follows stays.
      subst h
      have hrest : keys.map (fun k => (k, if k = l then extended (contents k) text
          else contents k)) = keys.map fun k => (k, contents k) :=
        List.map_congr_left fun k hk => by rw [if_neg (ne_of_mem_of_not_mem hk hl)]
      rw [if_pos rfl, if_pos List.mem_cons_self, List.map_cons, hrest, if_pos rfl]
    · have hmem : key ∈ l :: keys ↔ key ∈ keys := by
        rw [List.mem_cons, or_iff_right (Ne.symm h)]
      rw [if_neg h]
      by_cases hk : key ∈ keys
      · rw [if_pos hk, if_pos (hmem.mpr hk), List.map_cons, if_neg h]
      · rw [if_neg hk, if_neg (mt hmem.mp hk), List.cons_append]

theorem gathered_concat (modules : List (String × String)) (module text : String) :
    gathered groupsByModule (modules ++ [(module, text)]) =
      addText (unitKey groupsByModule module) text (gathered groupsByModule modules) :=
  List.foldl_append

/-- What is gathered is what has been grouped by key. -/
theorem gathered_eq (groupsByModule : Bool) (modules : List (String × String)) :
    gathered groupsByModule modules =
      (Grouping.distinct (modules.map fun m => unitKey groupsByModule m.1)).map fun k =>
        (k, joined (textsOf groupsByModule modules k)) := by
  induction modules using List.reverseRecOn with
  | nil => rfl
  | append_singleton modules m ih =>
    obtain ⟨module, text⟩ := m
    rw [gathered_concat, ih, addText_map (Grouping.nodup_distinct _), List.map_append,
      List.map_singleton, Grouping.distinct_concat]
    simp only [Grouping.mem_distinct]
    -- The key has a unit already, or the text opens one.
    split
    next h =>
      refine List.map_congr_left fun k _ => ?_
      rw [textsOf_concat]
      by_cases hk : k = unitKey groupsByModule module
      · rw [if_pos hk, if_pos hk.symm, joined_concat]
      · rw [if_neg hk, if_neg (Ne.symm hk)]
    next h =>
      rw [List.map_append, List.map_singleton, textsOf_concat, if_pos rfl, textsOf_eq_nil h]
      refine congrArg (· ++ [_]) (List.map_congr_left fun k hk => ?_)
      have hne : unitKey groupsByModule module ≠ k := by
        rintro rfl
        exact h (Grouping.mem_distinct.mp hk)
      rw [textsOf_concat, if_neg hne]

theorem keys_gathered (groupsByModule : Bool) (modules : List (String × String)) :
    (gathered groupsByModule modules).map Prod.fst =
      Grouping.distinct (modules.map fun m => unitKey groupsByModule m.1) := by
  rw [gathered_eq, List.map_map]
  exact List.map_id _

/-! ### Units -/

/-- The elements of a list, each once, in the order in which they first occur. -/
structure FirstOccurrences (ks keys : List String) : Prop where
  mem_iff : ∀ k, k ∈ keys ↔ k ∈ ks
  ordered : keys.Pairwise fun k l => ks.idxOf k < ks.idxOf l

theorem firstOccurrences_distinct (ks : List String) :
    FirstOccurrences ks (Grouping.distinct ks) :=
  ⟨fun _ => Grouping.mem_distinct, Grouping.pairwise_idxOf_distinct ks⟩

/-- There is one order of first occurrences. -/
theorem FirstOccurrences.eq_distinct {ks keys : List String} (h : FirstOccurrences ks keys) :
    keys = Grouping.distinct ks :=
  Grouping.eq_of_pairwise_idxOf h.ordered (Grouping.pairwise_idxOf_distinct ks) fun k =>
    (h.mem_iff k).trans Grouping.mem_distinct.symm

/-- The unit with a key and some texts. -/
def unitOf (key : String) (texts : List String) : OutputUnit where
  name := key ++ ".d.ts"
  contents := "\n".intercalate texts

/-- **Nothing is lost** when modules are put into units: there is one unit for each key,
in the order in which the keys first occur, and it holds exactly the texts of that key
in their order, with one line end between any two.  The index, if there is one, comes
last and refers to these units in their order. -/
theorem unitsOf_exact (s : Settings) (modules : List (String × String))
    (h : ∀ m ∈ modules, m.2 ≠ "") :
    ∃ keys, FirstOccurrences (modules.map fun m => unitKey s.groupsByModule m.1) keys ∧
      unitsOf s modules =
        (keys.map fun key => unitOf key (textsOf s.groupsByModule modules key)) ++
        if s.buildsIndex then
          [⟨"index.d.ts", "// auto-generated references to packages\n" ++
            String.join (keys.map fun key =>
              "/// <reference path='" ++ (key ++ ".d.ts") ++ "' />\n")⟩]
        else [] := by
  refine ⟨_, firstOccurrences_distinct _, ?_⟩
  have htexts : ∀ key, joined (textsOf s.groupsByModule modules key) =
      "\n".intercalate (textsOf s.groupsByModule modules key) := by
    intro key
    refine joined_eq_intercalate fun text ht => ?_
    obtain ⟨m, hm, rfl⟩ := List.mem_map.mp ht
    exact h m (List.mem_of_mem_filter hm)
  rw [unitsOf, keys_gathered, gathered_eq, List.map_map]
  simp only [Function.comp_def, htexts]
  cases s.buildsIndex with
  | false => exact (List.append_nil _).symm
  | true => rfl

/-- Modules of two keys, one between the others. -/
def packages : List (String × String) :=
  [("com.acme.a", "A\n"), ("org.x", "X\n"), ("com.acme.b", "B\n")]

theorem unitsOf_exact_packages :
    (∀ m ∈ packages, m.2 ≠ "") ∧
    unitsOf { buildsIndex := true } packages =
      [⟨"com_acme.d.ts", "A\n\nB\n"⟩, ⟨"org_x.d.ts", "X\n"⟩,
        ⟨"index.d.ts", "// auto-generated references to packages\n" ++
          "/// <reference path='com_acme.d.ts' />\n/// <reference path='org_x.d.ts' />\n"⟩] := by
  have htexts : ∀ m ∈ packages, m.2 ≠ "" := by decide
  obtain ⟨keys, hkeys, hunits⟩ := unitsOf_exact { buildsIndex := true } packages htexts
  have hdistinct : keys = ["com_acme", "org_x"] := hkeys.eq_distinct.trans (by decide +kernel)
  refine ⟨htexts, ?_⟩
  rw [hunits, hdistinct]
  decide +kernel

end Ambient

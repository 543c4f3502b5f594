/-
Local names.

A module knows its own definitions by their simple names, names without a scope
as they stand, and whatever else by an import.  This file follows the scope of a
module through any number of uses of names: a use changes nothing but to append
an import, so a name that is known once is known by the same local name ever
after.

* `Scope.extend`, `exists_bindAll_eq_extend` — all that uses do to a scope;
* `run_mapM_localName` — the local names of several names are those in the scope
  at the end;
* `WellKeyed`, `mem_imports_bindAll_iff` — the imports as a table: one entry for
  each name that was used and needs one.
-/
import Ambient.Declaration.Scope
import Mathlib.Data.List.Basic
import Mathlib.Data.List.Nodup

namespace Ambient

open QualifiedName

namespace Scope

variable {s : Scope} {n m : String}

/-! ### One use of a name -/

/-- The name is one of another module and has to be imported. -/
def IsForeign (s : Scope) (n : String) : Prop :=
  scope n ≠ "" ∧ scope n ≠ s.module

instance (s : Scope) (n : String) : Decidable (s.IsForeign n) :=
  inferInstanceAs (Decidable (_ ∧ _))

/-- The local name of what needs no import. -/
def homeName (n : String) : String :=
  if scope n = "" then n else simple n

/-- The scope after further imports. -/
def extend (s : Scope) (added : List (String × String)) : Scope :=
  { s with
    taken := (added.map Prod.snd).reverse ++ s.taken
    imports := s.imports ++ added }

@[simp]
theorem extend_module (s : Scope) (added : List (String × String)) :
    (s.extend added).module = s.module := rfl

@[simp]
theorem extend_taken (s : Scope) (added : List (String × String)) :
    (s.extend added).taken = (added.map Prod.snd).reverse ++ s.taken := rfl

@[simp]
theorem extend_imports (s : Scope) (added : List (String × String)) :
    (s.extend added).imports = s.imports ++ added := rfl

@[simp]
theorem extend_nil (s : Scope) : s.extend [] = s := by
  simp [extend]

@[simp]
theorem extend_extend (s : Scope) (as bs : List (String × String)) :
    (s.extend as).extend bs = s.extend (as ++ bs) := by
  simp [extend]

@[simp]
theorem isForeign_extend {added : List (String × String)} :
    (s.extend added).IsForeign n ↔ s.IsForeign n := Iff.rfl

theorem bind_of_home (h : ¬s.IsForeign n) : s.bind n = (homeName n, s) := by
  unfold bind homeName
  by_cases hscope : scope n = ""
  · simp [hscope]
  · have hown : scope n = s.module := by simpa [IsForeign, hscope] using h
    rw [if_neg hscope, if_pos hown, if_neg hscope]

theorem bind_of_imported {x : String} (h : s.IsForeign n) (hx : s.imports.lookup n = some x) :
    s.bind n = (x, s) := by
  simp [bind, h.1, h.2, hx]

theorem bind_of_new (h : s.IsForeign n) (hx : s.imports.lookup n = none) :
    s.bind n = (s.importName n, s.extend [(n, s.importName n)]) := by
  simp [bind, extend, h.1, h.2, hx]

/-- The name can be used as it is: it needs no import, or has one. -/
def Knows (s : Scope) (n : String) : Prop :=
  s.IsForeign n → ∃ x, s.imports.lookup n = some x

/-- The local name of a name. -/
def nameOf (s : Scope) (n : String) : String :=
  (s.bind n).1

/-- What one use of a name does: nothing if the name is known, else it adds an
import. -/
theorem bind_cases (s : Scope) (n : String) :
    (s.Knows n ∧ (s.bind n).2 = s) ∨
    (s.IsForeign n ∧ s.imports.lookup n = none ∧ s.nameOf n = s.importName n ∧
      (s.bind n).2 = s.extend [(n, s.importName n)]) := by
  by_cases h : s.IsForeign n
  · cases hx : s.imports.lookup n with
    | some x => exact .inl ⟨fun _ => ⟨x, hx⟩, by rw [bind_of_imported h hx]⟩
    | none => exact .inr ⟨h, rfl, by rw [nameOf, bind_of_new h hx], by rw [bind_of_new h hx]⟩
  · exact .inl ⟨fun hf => absurd hf h, by rw [bind_of_home h]⟩

theorem Knows.bind_eq (h : s.Knows n) : s.bind n = (s.nameOf n, s) := by
  by_cases hf : s.IsForeign n
  · obtain ⟨x, hx⟩ := h hf
    rw [nameOf, bind_of_imported hf hx]
  · rw [nameOf, bind_of_home hf]

/-- A known name stays known, and by the same local name. -/
theorem Knows.extend (h : s.Knows n) (added : List (String × String)) :
    (s.extend added).Knows n ∧ (s.extend added).nameOf n = s.nameOf n := by
  by_cases hf : s.IsForeign n
  · obtain ⟨x, hx⟩ := h hf
    have hx' : (s.extend added).imports.lookup n = some x := by
      simp [List.lookup_append, hx]
    exact ⟨fun _ => ⟨x, hx'⟩, by
      rw [nameOf, nameOf, bind_of_imported (isForeign_extend.mpr hf) hx', bind_of_imported hf hx]⟩
  · have hf' : ¬(s.extend added).IsForeign n := hf
    exact ⟨fun hf'' => absurd hf'' hf', by
      rw [nameOf, nameOf, bind_of_home hf', bind_of_home hf]⟩

/-- A name is known once it is used. -/
theorem knows_bind (s : Scope) (n : String) :
    (s.bind n).2.Knows n ∧ (s.bind n).2.nameOf n = s.nameOf n := by
  obtain ⟨hk, hs⟩ | ⟨hf, hx, hname, hs⟩ := bind_cases s n
  · rw [hs]
    exact ⟨hk, rfl⟩
  · have hx' : (s.extend [(n, s.importName n)]).imports.lookup n = some (s.importName n) := by
      simp [List.lookup_append, hx]
    rw [hs, hname, nameOf, bind_of_imported (isForeign_extend.mpr hf) hx']
    exact ⟨fun _ => ⟨_, hx'⟩, rfl⟩

theorem exists_bind_eq_extend (s : Scope) (n : String) :
    ∃ added, (s.bind n).2 = s.extend added := by
  obtain ⟨-, hs⟩ | ⟨-, -, -, hs⟩ := bind_cases s n
  · exact ⟨[], by rw [hs, extend_nil]⟩
  · exact ⟨_, hs⟩

/-! ### Any number of uses -/

/-- The scope after some names are used, one after the other. -/
def bindAll (s : Scope) (ns : List String) : Scope :=
  ns.foldl (fun s n => (s.bind n).2) s

@[simp]
theorem bindAll_nil (s : Scope) : s.bindAll [] = s := rfl

@[simp]
theorem bindAll_cons (s : Scope) (n : String) (ns : List String) :
    s.bindAll (n :: ns) = (s.bind n).2.bindAll ns := rfl

theorem bindAll_append (s : Scope) (ns ms : List String) :
    s.bindAll (ns ++ ms) = (s.bindAll ns).bindAll ms :=
  List.foldl_append

theorem bindAll_concat (s : Scope) (ns : List String) (n : String) :
    s.bindAll (ns ++ [n]) = ((s.bindAll ns).bind n).2 :=
  bindAll_append s ns [n]

/-- Uses of names add imports, and do nothing else. -/
theorem exists_bindAll_eq_extend (s : Scope) (ns : List String) :
    ∃ added, s.bindAll ns = s.extend added := by
  induction ns generalizing s with
  | nil => exact ⟨[], (extend_nil s).symm⟩
  | cons n ns ih =>
    obtain ⟨as, has⟩ := exists_bind_eq_extend s n
    obtain ⟨bs, hbs⟩ := ih (s.bind n).2
    exact ⟨as ++ bs, by rw [bindAll_cons, hbs, has, extend_extend]⟩

@[simp]
theorem bindAll_module (s : Scope) (ns : List String) : (s.bindAll ns).module = s.module := by
  obtain ⟨added, h⟩ := exists_bindAll_eq_extend s ns
  rw [h, extend_module]

@[simp]
theorem isForeign_bindAll {ns : List String} : (s.bindAll ns).IsForeign n ↔ s.IsForeign n := by
  simp [IsForeign]

/-- A known name stays known through any number of uses. -/
theorem Knows.bindAll (h : s.Knows n) (ns : List String) :
    (s.bindAll ns).Knows n ∧ (s.bindAll ns).nameOf n = s.nameOf n := by
  obtain ⟨added, hs⟩ := exists_bindAll_eq_extend s ns
  rw [hs]
  exact h.extend added

/-- A name is known by the local name it got at its first use. -/
theorem nameOf_bindAll_cons (s : Scope) (n : String) (ns : List String) :
    (s.bindAll (n :: ns)).Knows n ∧ (s.bindAll (n :: ns)).nameOf n = s.nameOf n := by
  obtain ⟨hk, hname⟩ := knows_bind s n
  obtain ⟨hk', hname'⟩ := hk.bindAll ns
  exact ⟨hk', hname'.trans hname⟩

/-- All names that were used are known. -/
theorem knows_bindAll {ns : List String} (h : n ∈ ns) : (s.bindAll ns).Knows n := by
  induction ns generalizing s with
  | nil => cases h
  | cons k ns ih =>
    obtain rfl | h := List.mem_cons.mp h
    · exact (nameOf_bindAll_cons s n ns).1
    · exact ih h

/-- Uses of known names do nothing. -/
theorem bindAll_eq_self {ns : List String} (h : ∀ n ∈ ns, s.Knows n) : s.bindAll ns = s := by
  induction ns with
  | nil => rfl
  | cons n ns ih =>
    obtain ⟨hn, hns⟩ := List.forall_mem_cons.mp h
    rw [bindAll_cons, hn.bind_eq, ih hns]

/-- The local names of several names are those in the scope at the end. -/
theorem run_mapM_localName (s : Scope) (ns : List String) :
    (ns.mapM Scoped.localName).run s = (ns.map (s.bindAll ns).nameOf, s.bindAll ns) := by
  induction ns generalizing s with
  | nil => rfl
  | cons n ns ih =>
    have hname := (nameOf_bindAll_cons s n ns).2
    rw [List.map_cons, hname]
    simp only [List.mapM_cons, StateT.run_bind, ih, StateT.run_pure]
    rfl

/-! ### The imports -/

/-- A name is not found in a table if it is none of the keys. -/
theorem lookup_eq_none_iff_notMem {table : List (String × String)} :
    table.lookup n = none ↔ n ∉ table.map Prod.fst := by
  rw [List.lookup_eq_none_iff, List.mem_map]
  constructor
  · rintro h ⟨p, hp, rfl⟩
    simpa using h p hp
  · intro h p hp
    simpa using fun hn : n = p.1 => h ⟨p, hp, hn.symm⟩

/-- A table with one entry for each key is searched by membership. -/
theorem lookup_eq_some_iff_mem {table : List (String × String)}
    (h : (table.map Prod.fst).Nodup) {x : String} :
    table.lookup n = some x ↔ (n, x) ∈ table := by
  constructor
  · intro hx
    obtain ⟨l, r, rfl, -⟩ := List.lookup_eq_some_iff.mp hx
    exact List.mem_append_right l List.mem_cons_self
  · intro hx
    cases hy : table.lookup n with
    | none => exact absurd (List.mem_map_of_mem hx) (lookup_eq_none_iff_notMem.mp hy)
    | some y =>
      obtain ⟨l, r, rfl, -⟩ := List.lookup_eq_some_iff.mp hy
      have hy : (n, y) ∈ l ++ (n, y) :: r := List.mem_append_right l List.mem_cons_self
      rw [(Prod.mk.inj (List.inj_on_of_nodup_map h hx hy rfl)).2]

/-- Every import is of a name that needs one, and there is one import for each. -/
structure WellKeyed (s : Scope) : Prop where
  nodup : (s.imports.map Prod.fst).Nodup
  isForeign : ∀ n ∈ s.imports.map Prod.fst, s.IsForeign n

theorem WellKeyed.bind (h : s.WellKeyed) (n : String) : (s.bind n).2.WellKeyed := by
  obtain ⟨-, hs⟩ | ⟨hf, hx, -, hs⟩ := bind_cases s n
  · rwa [hs]
  · have hkeys : (s.extend [(n, s.importName n)]).imports.map Prod.fst =
        s.imports.map Prod.fst ++ [n] := by simp
    rw [hs]
    constructor
    · rw [hkeys, ← List.concat_eq_append]
      exact h.nodup.concat (lookup_eq_none_iff_notMem.mp hx)
    · rw [hkeys, List.forall_mem_append]
      exact ⟨h.isForeign, List.forall_mem_singleton.mpr hf⟩

theorem WellKeyed.bindAll (h : s.WellKeyed) (ns : List String) : (s.bindAll ns).WellKeyed := by
  induction ns generalizing s with
  | nil => exact h
  | cons n ns ih => exact ih (h.bind n)

/-- An import is of a known name that needs one, with its local name. -/
theorem WellKeyed.mem_imports_iff (h : s.WellKeyed) {x : String} :
    (n, x) ∈ s.imports ↔ s.IsForeign n ∧ s.Knows n ∧ s.nameOf n = x := by
  rw [← lookup_eq_some_iff_mem h.nodup]
  constructor
  · intro hx
    have hf := h.isForeign n (List.mem_map_of_mem ((lookup_eq_some_iff_mem h.nodup).mp hx))
    exact ⟨hf, fun _ => ⟨x, hx⟩, by rw [nameOf, bind_of_imported hf hx]⟩
  · rintro ⟨hf, hk, rfl⟩
    obtain ⟨x, hx⟩ := hk hf
    rw [nameOf, bind_of_imported hf hx, hx]

/-- A name that needs an import is known if there is one. -/
theorem knows_iff : s.Knows n ↔ (s.IsForeign n → n ∈ s.imports.map Prod.fst) := by
  simp only [Knows, ← Option.isSome_iff_exists, Option.isSome_iff_ne_none, ne_eq,
    lookup_eq_none_iff_notMem, not_not]

/-- The imported names are those used that need an import. -/
theorem mem_keys_bindAll {ns : List String} :
    n ∈ (s.bindAll ns).imports.map Prod.fst ↔
      n ∈ s.imports.map Prod.fst ∨ n ∈ ns ∧ s.IsForeign n := by
  constructor
  · induction ns generalizing s with
    | nil => exact .inl
    | cons k ns ih =>
      intro h
      rw [bindAll_cons] at h
      obtain h | ⟨h, hf⟩ := ih h
      · obtain ⟨-, hs⟩ | ⟨hk, -, -, hs⟩ := bind_cases s k
        · exact .inl (hs ▸ h)
        · rw [hs, extend_imports, List.map_append, List.mem_append] at h
          refine h.imp_right fun h => ?_
          obtain rfl : n = k := by simpa using h
          exact ⟨List.mem_cons_self, hk⟩
      · obtain ⟨added, hs⟩ := exists_bind_eq_extend s k
        rw [hs, isForeign_extend] at hf
        exact .inr ⟨List.mem_cons_of_mem k h, hf⟩
  · rintro (h | ⟨h, hf⟩)
    · obtain ⟨added, hs⟩ := exists_bindAll_eq_extend s ns
      rw [hs, extend_imports, List.map_append]
      exact List.mem_append_left _ h
    · exact knows_iff.mp (knows_bindAll h) (isForeign_bindAll.mpr hf)

/-! ### From no imports on -/

section
variable (hs : s.imports = [])
include hs

theorem taken_bindAll (ns : List String) :
    (s.bindAll ns).taken = ((s.bindAll ns).imports.map Prod.snd).reverse ++ s.taken := by
  obtain ⟨added, h⟩ := exists_bindAll_eq_extend s ns
  rw [h, extend_taken, extend_imports, hs, List.nil_append]

theorem mem_taken_bindAll_iff {ns : List String} {x : String} :
    x ∈ (s.bindAll ns).taken ↔ x ∈ (s.bindAll ns).imports.map Prod.snd ∨ x ∈ s.taken := by
  rw [taken_bindAll hs, List.mem_append, List.mem_reverse]

theorem wellKeyed_bindAll (ns : List String) : (s.bindAll ns).WellKeyed := by
  refine WellKeyed.bindAll ⟨?_, ?_⟩ ns <;> simp [hs]

/-- The imports are the names used that need one, with their local names. -/
theorem mem_imports_bindAll_iff {ns : List String} {x : String} :
    (n, x) ∈ (s.bindAll ns).imports ↔
      n ∈ ns ∧ s.IsForeign n ∧ (s.bindAll ns).nameOf n = x := by
  rw [(wellKeyed_bindAll hs ns).mem_imports_iff, isForeign_bindAll]
  constructor
  · rintro ⟨hf, hk, hx⟩
    have hkey := knows_iff.mp hk (isForeign_bindAll.mpr hf)
    obtain h | ⟨h, -⟩ := mem_keys_bindAll.mp hkey
    · simp [hs] at h
    · exact ⟨h, hf, hx⟩
  · rintro ⟨h, hf, hx⟩
    exact ⟨hf, knows_bindAll h, hx⟩

/-- The local names of the imports. -/
theorem mem_names_bindAll_iff {ns : List String} {x : String} :
    x ∈ (s.bindAll ns).imports.map Prod.snd ↔
      ∃ n ∈ ns, s.IsForeign n ∧ (s.bindAll ns).nameOf n = x := by
  constructor
  · intro h
    obtain ⟨⟨n, x⟩, hn, rfl⟩ := List.mem_map.mp h
    obtain ⟨hmem, hf, hx⟩ := (mem_imports_bindAll_iff hs).mp hn
    exact ⟨n, hmem, hf, hx⟩
  · rintro ⟨n, hmem, hf, hx⟩
    exact List.mem_map.mpr ⟨(n, x), (mem_imports_bindAll_iff hs).mpr ⟨hmem, hf, hx⟩, rfl⟩

end

end Scope

end Ambient

/-
The keys of output units.

Modules are grouped by their names, or by as much of these as the first two segments, and
the key of a group is its name with underscores for dots.  Names may hold underscores as
well, so that two groups can have one key.

* `groupName`, `SameGroup` — the groups and their names;
* `unitKey_eq` — keys are names of groups with underscores for dots;
* `Confusable` — names that differ in nothing but dots against underscores;
* `unitKey_eq_iff`, `length_unitsOf_eq_iff` — which modules are put together;
* `keysSeparate_iff` — keys tell groups apart unless their names are confusable;
* `not_keysSeparate_underscore` — two modules in one unit although each is to have its own.
-/
import Ambient.Proofs.UnitNames
import Mathlib.Data.List.Forall2

namespace Ambient

namespace Text

/-- Pieces without the separator are found again in the text that they are joined to. -/
theorem splitOn_intercalate {sep : Char} {pieces : List (List Char)} (hne : pieces ≠ [])
    (h : ∀ piece ∈ pieces, sep ∉ piece) : splitOn sep ([sep].intercalate pieces) = pieces := by
  induction pieces with
  | nil => exact absurd rfl hne
  | cons p pieces ih =>
    obtain ⟨hp, hpieces⟩ := List.forall_mem_cons.mp h
    cases pieces with
    | nil => simpa [List.intercalate] using splitOn_of_notMem hp
    | cons q pieces =>
      rw [List.intercalate_cons_cons, List.append_assoc, List.singleton_append,
        splitOn_append_cons, splitOn_of_notMem hp, ih (List.cons_ne_nil _ _) hpieces]
      rfl

/-- The text with underscores for dots. -/
def underscored (text : String) : String :=
  text.map fun c => if c = '.' then '_' else c

theorem map_intercalate {pieces : List (List Char)} (h : ∀ piece ∈ pieces, '.' ∉ piece) :
    (['.'].intercalate pieces).map (fun c => if c = '.' then '_' else c) =
      ['_'].intercalate pieces := by
  have hmap : ∀ piece ∈ pieces, piece.map (fun c => if c = '.' then '_' else c) = piece := by
    intro piece hpiece
    refine (List.map_congr_left fun c hc => ?_).trans (List.map_id _)
    exact if_neg (ne_of_mem_of_not_mem hc (h piece hpiece))
  clear h
  induction pieces with
  | nil => rfl
  | cons p pieces ih =>
    obtain ⟨hp, hpieces⟩ := List.forall_mem_cons.mp hmap
    cases pieces with
    | nil => simpa [List.intercalate] using hp
    | cons q pieces =>
      rw [List.intercalate_cons_cons, List.intercalate_cons_cons, List.map_append,
        List.map_append, hp, ih hpieces]
      rfl

end Text

open Text

variable {groupsByModule : Bool} {a b : String}

/-! ### Groups -/

/-- What a module is grouped by: its name, or as much of it as the first two segments. -/
def groupName (groupsByModule : Bool) (module : String) : String :=
  if groupsByModule then module
  else String.ofList (['.'].intercalate ((splitOn '.' module.toList).take 2))

theorem notMem_groupName {module : String} {c : Char} (hc : c ≠ '.') (h : c ∉ module.toList) :
    c ∉ (groupName groupsByModule module).toList := by
  cases groupsByModule with
  | true => exact h
  | false =>
    have hsep : c ∉ ['.'] := by simpa using hc
    rw [← joined_splitOn '.' module.toList, mem_intercalate_iff hsep] at h
    rw [groupName, if_neg Bool.false_ne_true, String.toList_ofList, mem_intercalate_iff hsep]
    rintro ⟨piece, hpiece, hmem⟩
    exact h ⟨piece, List.mem_of_mem_take hpiece, hmem⟩

/-- The two modules are the same, or they begin with the same segments, of which two count. -/
def SameGroup (groupsByModule : Bool) (a b : String) : Prop :=
  if groupsByModule then a = b
  else (splitOn '.' a.toList).take 2 = (splitOn '.' b.toList).take 2

theorem sameGroup_iff :
    SameGroup groupsByModule a b ↔ groupName groupsByModule a = groupName groupsByModule b := by
  cases groupsByModule with
  | true => exact Iff.rfl
  | false =>
    have hsplit : ∀ n : String, splitOn '.' (['.'].intercalate ((splitOn '.' n.toList).take 2)) =
        (splitOn '.' n.toList).take 2 := by
      intro n
      refine splitOn_intercalate ?_ fun piece hpiece => ?_
      · simp [List.take_eq_nil_iff, splitOn_ne_nil]
      · exact notMem_of_mem_splitOn (List.mem_of_mem_take hpiece)
    show _ = _ ↔ String.ofList _ = String.ofList _
    rw [String.ofList_inj]
    constructor
    · exact fun h => congrArg _ h
    · intro h
      rw [← hsplit a, h, hsplit b]

/-- The key of a unit is the name of its group with underscores for dots. -/
theorem unitKey_eq (groupsByModule : Bool) (module : String) :
    unitKey groupsByModule module = underscored (groupName groupsByModule module) := by
  apply String.toList_inj.mp
  rw [unitKey, underscored, String.toList_ofList, String.toList_map]
  cases groupsByModule with
  | true =>
    rw [groupName, if_pos rfl, if_pos rfl]
    conv_rhs => rw [← joined_splitOn '.' module.toList]
    exact (map_intercalate fun piece => notMem_of_mem_splitOn).symm
  | false =>
    rw [groupName, if_neg Bool.false_ne_true, if_neg Bool.false_ne_true, String.toList_ofList]
    exact (map_intercalate fun piece hpiece =>
      notMem_of_mem_splitOn (List.mem_of_mem_take hpiece)).symm

/-! ### Groups with one key -/

/-- The same characters, or a dot and an underscore. -/
def Alike (c d : Char) : Prop :=
  c = d ∨ c = '.' ∧ d = '_' ∨ c = '_' ∧ d = '.'

/-- The names differ, but only in that one has a dot where the other has an underscore. -/
def Confusable (a b : String) : Prop :=
  a ≠ b ∧ List.Forall₂ Alike a.toList b.toList

theorem alike_iff {c d : Char} :
    Alike c d ↔ (if c = '.' then '_' else c) = if d = '.' then '_' else d := by
  unfold Alike
  by_cases hc : c = '.' <;> by_cases hd : d = '.'
  · simp [hc, hd]
  · simp [hc, hd, eq_comm]
  · simp [hc, hd]
  · simp [hc, hd]

theorem underscored_eq_iff : underscored a = underscored b ↔ a = b ∨ Confusable a b := by
  have hagree : underscored a = underscored b ↔ List.Forall₂ Alike a.toList b.toList := by
    rw [← String.toList_inj, underscored, underscored, String.toList_map, String.toList_map,
      ← List.forall₂_eq_eq_eq, List.forall₂_map_left_iff, List.forall₂_map_right_iff]
    exact ⟨fun h => h.imp fun _ _ => alike_iff.mpr, fun h => h.imp fun _ _ => alike_iff.mp⟩
  rw [hagree, Confusable]
  by_cases h : a = b
  · subst h
    exact iff_of_true (List.forall₂_same.mpr fun c _ => .inl rfl) (.inl rfl)
  · rw [or_iff_right h, and_iff_right h]

/-- Two modules have one key if they are of one group or of confusable groups. -/
theorem unitKey_eq_iff :
    unitKey groupsByModule a = unitKey groupsByModule b ↔
      SameGroup groupsByModule a b ∨
      Confusable (groupName groupsByModule a) (groupName groupsByModule b) := by
  rw [unitKey_eq, unitKey_eq, underscored_eq_iff, sameGroup_iff]

/-- Without underscores there is nothing to confuse. -/
theorem eq_of_alike {cs ds : List Char} (h : List.Forall₂ Alike cs ds) (hcs : '_' ∉ cs)
    (hds : '_' ∉ ds) : cs = ds := by
  induction h with
  | nil => rfl
  | cons h _ ih =>
    obtain ⟨hc, hcs'⟩ := not_or.mp (List.mem_cons.not.mp hcs)
    obtain ⟨hd, hds'⟩ := not_or.mp (List.mem_cons.not.mp hds)
    obtain rfl | ⟨-, rfl⟩ | ⟨rfl, -⟩ := h
    · rw [ih hcs' hds']
    · exact absurd rfl hd
    · exact absurd rfl hc

/-! ### As many units as groups -/

/-- There are as many images as elements if no two elements have the same image. -/
theorem Grouping.length_distinct_map_iff {κ ι : Type} [DecidableEq κ] [DecidableEq ι] (f : κ → ι)
    (ks : List κ) :
    (distinct (ks.map f)).length = (distinct ks).length ↔
      ∀ k ∈ ks, ∀ l ∈ ks, f k = f l → k = l := by
  have hlength : (distinct ((distinct ks).map f)).length = ((distinct ks).map f).length ↔
      ((distinct ks).map f).Nodup := length_distinct_eq_iff
  rw [distinct_map_distinct, List.length_map] at hlength
  rw [hlength, List.nodup_map_iff_inj_on (nodup_distinct ks)]
  simp only [mem_distinct]

theorem length_unitsOf (s : Settings) (modules : List (String × String)) :
    (unitsOf s modules).length =
      (Grouping.distinct (modules.map fun m => unitKey s.groupsByModule m.1)).length +
        if s.buildsIndex then 1 else 0 := by
  have h := congrArg List.length (names_unitsOf s modules)
  rw [List.length_map, List.length_append, List.length_map] at h
  rw [h]
  cases s.buildsIndex <;> rfl

/-- There is one unit for each group if no two of the groups are confusable. -/
theorem length_unitsOf_eq_iff (s : Settings) (modules : List (String × String)) :
    (unitsOf s modules).length =
        (Grouping.distinct (modules.map fun m => groupName s.groupsByModule m.1)).length +
          (if s.buildsIndex then 1 else 0) ↔
      ∀ m ∈ modules, ∀ k ∈ modules,
        ¬Confusable (groupName s.groupsByModule m.1) (groupName s.groupsByModule k.1) := by
  have hkeys : (modules.map fun m => unitKey s.groupsByModule m.1) =
      (modules.map fun m => groupName s.groupsByModule m.1).map underscored := by
    rw [List.map_map]
    exact List.map_congr_left fun m _ => unitKey_eq _ _
  rw [length_unitsOf, Nat.add_right_cancel_iff, hkeys, Grouping.length_distinct_map_iff,
    List.forall_mem_map]
  refine forall₂_congr fun m _ => ?_
  rw [List.forall_mem_map]
  refine forall₂_congr fun k _ => ?_
  rw [underscored_eq_iff]
  exact ⟨fun h hc => hc.1 (h (.inr hc)), fun h hor => hor.resolve_right h⟩

/-! ### Keys as names of groups -/

/-- Two modules have one key exactly if they are of one group. -/
def KeysSeparate (groupsByModule : Bool) (a b : String) : Prop :=
  unitKey groupsByModule a = unitKey groupsByModule b ↔ SameGroup groupsByModule a b

/-- Among names without underscores keys tell groups apart. -/
theorem keysSeparate_of_no_underscore (ha : '_' ∉ a.toList) (hb : '_' ∉ b.toList) :
    KeysSeparate groupsByModule a b := by
  have ha' : '_' ∉ (groupName groupsByModule a).toList := notMem_groupName (by decide) ha
  have hb' : '_' ∉ (groupName groupsByModule b).toList := notMem_groupName (by decide) hb
  rw [KeysSeparate, unitKey_eq_iff]
  exact or_iff_left fun hc => hc.1 (String.toList_inj.mp (eq_of_alike hc.2 ha' hb'))

/-- **Keys tell groups apart** unless the names of these differ only in that one has dots
where the other has underscores; and there is one unit for each group, which with units
by module is each module, exactly if no two of the groups are like this. -/
theorem keysSeparate_iff (s : Settings) :
    (∀ a b, KeysSeparate s.groupsByModule a b ↔
      ¬Confusable (groupName s.groupsByModule a) (groupName s.groupsByModule b)) ∧
    ∀ modules : List (String × String),
      (unitsOf s modules).length =
          (Grouping.distinct (modules.map fun m => groupName s.groupsByModule m.1)).length +
            (if s.buildsIndex then 1 else 0) ↔
        ∀ m ∈ modules, ∀ k ∈ modules,
          ¬Confusable (groupName s.groupsByModule m.1) (groupName s.groupsByModule k.1) := by
  refine ⟨fun a b => ?_, length_unitsOf_eq_iff s⟩
  rw [KeysSeparate, unitKey_eq_iff, or_iff_left_iff_imp]
  constructor
  · intro h hc
    exact hc.1 (sameGroup_iff.mp (h hc))
  · exact fun h hc => absurd hc h

/-- Two modules are put into one unit, and this also if each is to have its own. -/
theorem not_keysSeparate_underscore :
    ¬KeysSeparate true "a.b" "a_b" ∧ ¬KeysSeparate false "a.b" "a_b" ∧
    unitsOf { groupsByModule := true } [("a.b", "A\n"), ("a_b", "B\n")] =
      [⟨"a_b.d.ts", "A\n\nB\n"⟩] := by
  refine ⟨fun h => ?_, fun h => ?_, by decide +kernel⟩
  · exact absurd (h.mp (by decide +kernel)) (by decide +kernel : ¬"a.b" = "a_b")
  · have hgroup := sameGroup_iff.mp (h.mp (by decide +kernel))
    revert hgroup
    decide +kernel

end Ambient

/-
When a list of definitions can be looked up by name.

`Catalogue.ofList` compares each definition with what has been added so far and
adds it only after everything nested in it, so a definition is never compared
with the ones around it.  This file says what that comes to:

* `Clash` — a name that two definitions have of which neither is nested in the
  other;
* `Catalogue.indexed` — the catalogue of some definitions, written down at once;
* `ofList_eq_ok_iff` — a catalogue is made exactly if there is no clash, and it
  is the indexed one;
* `clash_of_ofList_error` — a refusal names a clash;
* `ofList_duplicates` — how this compares with all names being different.
-/
import Mathlib.Data.List.Nodup
import Ambient.Catalogue
import Ambient.Proofs.Nesting

namespace Ambient

open Definition (names)

/-- A name in two places: two of the definitions or of those nested in them have
it, and neither of the two is nested in the other. -/
inductive Clash (n : String) : List Definition → Prop where
  /-- The two are, or are nested in, different definitions of the list. -/
  | beside {d : Definition} {ds : List Definition} (hd : n ∈ d.names)
      (hds : n ∈ ds.flatMap names) : Clash n (d :: ds)
  /-- Both are nested in the first definition. -/
  | inside {d : Definition} {ds : List Definition} (h : Clash n d.nested) : Clash n (d :: ds)
  | later {d : Definition} {ds : List Definition} (h : Clash n ds) : Clash n (d :: ds)

namespace Clash

variable {n : String} {d : Definition} {ds es : List Definition}

theorem not_nil : ¬Clash n [] := nofun

theorem cons_iff :
    Clash n (d :: ds) ↔
      (n ∈ d.names ∧ n ∈ ds.flatMap names) ∨ Clash n d.nested ∨ Clash n ds := by
  constructor
  · intro h
    cases h with
    | beside hd hds => exact .inl ⟨hd, hds⟩
    | inside h => exact .inr (.inl h)
    | later h => exact .inr (.inr h)
  · rintro (⟨hd, hds⟩ | h | h)
    · exact .beside hd hds
    · exact .inside h
    · exact .later h

theorem singleton_iff : Clash n [d] ↔ Clash n d.nested := by
  rw [cons_iff]
  simp [not_nil]

/-- Leaving definitions out makes no new clash. -/
theorem of_sublist (hs : es.Sublist ds) (h : Clash n es) : Clash n ds := by
  induction hs with
  | slnil => exact h
  | cons d _ ih => exact .later (ih h)
  | cons_cons d hs ih =>
    -- What `d` clashes with among fewer definitions is there among more.
    rcases cons_iff.mp h with ⟨hd, hes⟩ | h | h
    · refine .beside hd ?_
      obtain ⟨e, he, hn⟩ := List.mem_flatMap.mp hes
      exact List.mem_flatMap.mpr ⟨e, hs.subset he, hn⟩
    · exact .inside h
    · exact .later (ih h)

/-- A clash inside one definition of a list is one of the list. -/
theorem of_mem (hd : d ∈ ds) (h : Clash n d.nested) : Clash n ds := by
  obtain ⟨l, r, rfl⟩ := List.append_of_mem hd
  exact of_sublist (List.sublist_append_right l _) (.inside h)

end Clash

namespace Catalogue

/-! ### The catalogue at once -/

/-- The names of all definitions that can be found. -/
def names (c : Catalogue) : List String :=
  c.definitions.map Definition.name

theorem mem_names_iff {c : Catalogue} {n : String} :
    n ∈ c.names ↔ (∃ d ∈ c.roots, d.name = n) ∨ ∃ e ∈ c.nested, e.definition.name = n := by
  simp [names, definitions]

/-- A name is known exactly if some definition has it. -/
theorem contains_iff {c : Catalogue} {n : String} : c.contains n = true ↔ n ∈ c.names := by
  rw [mem_names_iff, contains, find?, root?, nested?]
  simp

mutual

/-- The entries of a nested definition and of those nested in it, the latest
first. -/
def entries (owner : String) : Definition → List NestedEntry
  | ⟨kind, type, superTypes, interfaces, members, doc, isPublic, isStatic⟩ =>
    ⟨owner, ⟨kind, type, superTypes, interfaces, members, doc, isPublic, isStatic⟩⟩
      :: entriesAmong owner members

/-- The entries of the definitions among some members. -/
def entriesAmong (owner : String) : List Member → List NestedEntry
  | [] => []
  | .nested d :: members => entriesAmong owner members ++ entries owner d
  | .method _ :: members => entriesAmong owner members
  | .field _ :: members => entriesAmong owner members

end

/-- The entries of what is nested in a top-level definition. -/
def nestedEntries (d : Definition) : List NestedEntry :=
  entriesAmong d.name d.members

/-- The catalogue of some definitions, if their names allow it. -/
def indexed (ds : List Definition) : Catalogue where
  roots := ds
  nested := ds.reverse.flatMap nestedEntries

theorem entriesAmong_eq_flatMap (owner : String) (ms : List Member) :
    entriesAmong owner ms = (ms.filterMap Member.nested?).reverse.flatMap (entries owner) := by
  induction ms with
  | nil => rfl
  | cons m ms ih =>
    cases m <;> simp [entriesAmong, List.filterMap_cons, Member.nested?, ih]

theorem entries_eq_cons (owner : String) (d : Definition) :
    entries owner d = ⟨owner, d⟩ :: d.nested.reverse.flatMap (entries owner) := by
  have h : entries owner d = ⟨owner, d⟩ :: entriesAmong owner d.members := by
    cases d
    rfl
  rw [h, entriesAmong_eq_flatMap]
  rfl

theorem nestedEntries_eq (d : Definition) :
    nestedEntries d = d.nested.reverse.flatMap (entries d.name) := by
  rw [nestedEntries, entriesAmong_eq_flatMap]
  rfl

/-- There is one entry for the definition and for each nested in it. -/
theorem mem_entries_iff {owner : String} {d : Definition} {e : NestedEntry} :
    e ∈ entries owner d ↔ e.owner = owner ∧ e.definition ∈ d.withNested := by
  induction d using Definition.nesting_induction with
  | step d ih =>
    rw [entries_eq_cons, List.mem_cons, Definition.mem_withNested_iff]
    simp only [List.mem_flatMap, List.mem_reverse]
    constructor
    · rintro (rfl | ⟨f, hf, he⟩)
      · exact ⟨rfl, .inl rfl⟩
      · obtain ⟨ho, he⟩ := (ih f hf).mp he
        exact ⟨ho, .inr ⟨f, hf, he⟩⟩
    · rintro ⟨ho, hd | ⟨f, hf, he⟩⟩
      · exact .inl (by rw [← ho, ← hd])
      · exact .inr ⟨f, hf, (ih f hf).mpr ⟨ho, he⟩⟩

/-- The entries of a top-level definition are its own, for what is nested in it. -/
theorem mem_nestedEntries_iff {d : Definition} {e : NestedEntry} :
    e ∈ nestedEntries d ↔
      e.owner = d.name ∧ ∃ f ∈ d.nested, e.definition ∈ f.withNested := by
  simp only [nestedEntries_eq, List.mem_flatMap, List.mem_reverse, mem_entries_iff]
  constructor
  · rintro ⟨f, hf, ho, he⟩
    exact ⟨ho, f, hf, he⟩
  · rintro ⟨ho, f, hf, he⟩
    exact ⟨f, hf, ho, he⟩

/-! ### Adding definitions -/

/-- What adding some definitions may come to: the grown catalogue, if all names
are new and do not clash; else a name that is known already or clashes. -/
def Outcome (ds : List Definition) (c grown : Catalogue) :
    Except DuplicateType Catalogue → Prop
  | .ok c' => c' = grown ∧ (∀ n ∈ ds.flatMap Definition.names, n ∉ c.names) ∧ ∀ n, ¬Clash n ds
  | .error e => (e.name ∈ ds.flatMap Definition.names ∧ e.name ∈ c.names) ∨ Clash e.name ds

/-- If each definition of a list is added as it should be, so is the list.  Any
name of an earlier definition is known when a later one is added: that is where
clashes between the two are seen. -/
theorem foldlM_outcome {add : Catalogue → Definition → Except DuplicateType Catalogue}
    (grow : Catalogue → Definition → Catalogue)
    (hgrow : ∀ c d n, n ∈ (grow c d).names ↔ n ∈ d.names ∨ n ∈ c.names)
    {ds : List Definition} (hadd : ∀ d ∈ ds, ∀ c, Outcome [d] c (grow c d) (add c d))
    (c : Catalogue) : Outcome ds c (ds.foldl grow c) (ds.foldlM add c) := by
  induction ds generalizing c with
  | nil => exact ⟨rfl, by simp, fun n => Clash.not_nil⟩
  | cons d ds ih =>
    have hd := hadd d List.mem_cons_self c
    rw [List.foldlM_cons, List.foldl_cons]
    cases h : add c d with
    | error e =>
      rw [h] at hd
      rcases hd with ⟨hn, hc⟩ | hclash
      · exact .inl ⟨by simp_all, hc⟩
      · exact .inr (.inside (Clash.singleton_iff.mp hclash))
    | ok c₁ =>
      rw [h] at hd
      obtain ⟨rfl, hnew, hclash⟩ := hd
      have hds := ih (fun e he => hadd e (List.mem_cons_of_mem _ he)) (grow c d)
      show Outcome (d :: ds) c (ds.foldl grow (grow c d)) (ds.foldlM add (grow c d))
      cases h' : ds.foldlM add (grow c d) with
      | error e =>
        rw [h'] at hds
        rcases hds with ⟨hn, hc⟩ | hclash
        · -- A name that is known from `d` alone is in two places of the list.
          rcases (hgrow c d e.name).mp hc with hd | hc
          · exact .inr (.beside hd hn)
          · exact .inl ⟨List.mem_append_right _ hn, hc⟩
        · exact .inr (.later hclash)
      | ok c₂ =>
        rw [h'] at hds
        obtain ⟨rfl, hnew', hclash'⟩ := hds
        refine ⟨rfl, fun n hn => ?_, fun n hn => ?_⟩
        · rcases List.mem_append.mp hn with hn | hn
          · exact hnew n (by simpa using hn)
          · exact fun hc => hnew' n hn ((hgrow c d n).mpr (.inr hc))
        · rcases Clash.cons_iff.mp hn with ⟨hd, hds⟩ | hn | hn
          · exact hnew' n hds ((hgrow c d n).mpr (.inl hd))
          · exact hclash n (Clash.singleton_iff.mpr hn)
          · exact hclash' n hn

/-- Adding a definition by its name and then what is nested in it. -/
theorem outcome_of_nested {d : Definition} {c grown : Catalogue} {finish : Catalogue → Catalogue}
    {inner : Except DuplicateType Catalogue} {c₁ : Catalogue}
    (hinner : Outcome d.nested c c₁ inner) (hfinish : finish c₁ = grown) :
    Outcome [d] c grown
      (if c.contains d.name then .error ⟨d.name⟩ else do return finish (← inner)) := by
  by_cases hc : c.contains d.name = true
  · rw [if_pos hc]
    exact .inl ⟨by simpa using d.mem_names_self, contains_iff.mp hc⟩
  · rw [if_neg hc]
    cases inner with
    | error e =>
      rcases hinner with ⟨hn, he⟩ | hclash
      · refine .inl ⟨?_, he⟩
        simp only [List.flatMap_cons, List.flatMap_nil, List.append_nil]
        rw [Definition.names_eq_cons]
        exact List.mem_cons_of_mem _ hn
      · exact .inr (.inside hclash)
    | ok c' =>
      obtain ⟨rfl, hnew, hclash⟩ := hinner
      refine ⟨hfinish, fun n hn => ?_, fun n hn => hclash n (Clash.singleton_iff.mp hn)⟩
      simp only [List.flatMap_cons, List.flatMap_nil, List.append_nil] at hn
      rw [Definition.names_eq_cons] at hn
      rcases List.mem_cons.mp hn with rfl | hn
      · exact fun h => hc (contains_iff.mpr h)
      · exact hnew n hn

/-- The catalogue with the entries of one more nested definition. -/
def withEntries (owner : String) (c : Catalogue) (d : Definition) : Catalogue :=
  { c with nested := entries owner d ++ c.nested }

/-- The catalogue with one more top-level definition and its entries. -/
def withRoot (c : Catalogue) (d : Definition) : Catalogue where
  roots := c.roots ++ [d]
  nested := nestedEntries d ++ c.nested

theorem foldl_withEntries (owner : String) (ds : List Definition) (c : Catalogue) :
    ds.foldl (withEntries owner) c =
      { c with nested := ds.reverse.flatMap (entries owner) ++ c.nested } := by
  induction ds generalizing c with
  | nil => rfl
  | cons d ds ih => simp [ih, withEntries]

theorem foldl_withRoot (ds : List Definition) (c : Catalogue) :
    ds.foldl withRoot c =
      { roots := c.roots ++ ds, nested := ds.reverse.flatMap nestedEntries ++ c.nested } := by
  induction ds generalizing c with
  | nil => simp
  | cons d ds ih => simp [ih, withRoot]

theorem mem_names_withEntries {owner : String} {c : Catalogue} {d : Definition} {n : String} :
    n ∈ (withEntries owner c d).names ↔ n ∈ d.names ∨ n ∈ c.names := by
  have h : (∃ e ∈ entries owner d, e.definition.name = n) ↔ n ∈ d.names := by
    rw [Definition.names, List.mem_map]
    constructor
    · rintro ⟨e, he, hn⟩
      exact ⟨e.definition, (mem_entries_iff.mp he).2, hn⟩
    · rintro ⟨f, hf, hn⟩
      exact ⟨⟨owner, f⟩, mem_entries_iff.mpr ⟨rfl, hf⟩, hn⟩
  simp only [mem_names_iff, withEntries, List.mem_append, or_and_right, exists_or, h]
  exact or_left_comm

theorem mem_names_withRoot {c : Catalogue} {d : Definition} {n : String} :
    n ∈ (withRoot c d).names ↔ n ∈ d.names ∨ n ∈ c.names := by
  have h : (∃ e ∈ nestedEntries d, e.definition.name = n) ↔ ∃ e ∈ d.nested, n ∈ e.names := by
    simp only [Definition.names, List.mem_map]
    constructor
    · rintro ⟨e, he, hn⟩
      obtain ⟨-, f, hf, he⟩ := mem_nestedEntries_iff.mp he
      exact ⟨f, hf, e.definition, he, hn⟩
    · rintro ⟨f, hf, g, hg, hn⟩
      exact ⟨⟨d.name, g⟩, mem_nestedEntries_iff.mpr ⟨rfl, f, hf, hg⟩, hn⟩
  rw [Definition.mem_names_iff]
  simp only [mem_names_iff, withRoot, List.mem_append, List.mem_singleton, or_and_right,
    exists_or, h, exists_eq_left, eq_comm (a := n)]
  rw [or_comm (b := d.name = n)]
  exact or_or_or_comm

theorem addMembers_eq_foldlM (owner : String) (ms : List Member) (c : Catalogue) :
    addMembers owner ms c =
      (ms.filterMap Member.nested?).foldlM (fun c d => addNested owner d c) c := by
  induction ms generalizing c with
  | nil => rfl
  | cons m ms ih =>
    cases m with
    | method m => simpa [addMembers, List.filterMap_cons, Member.nested?] using ih c
    | field f => simpa [addMembers, List.filterMap_cons, Member.nested?] using ih c
    | nested d =>
      simp only [addMembers, List.filterMap_cons, Member.nested?, List.foldlM_cons]
      exact congrArg _ (funext ih)

/-- A nested definition is added as it should be. -/
theorem addNested_outcome (owner : String) (d : Definition) (c : Catalogue) :
    Outcome [d] c (withEntries owner c d) (addNested owner d c) := by
  induction d using Definition.nesting_induction generalizing c with
  | step d ih =>
    have hn := foldlM_outcome (withEntries owner) (fun _ _ _ => mem_names_withEntries)
      (fun e he c => ih e he c) c
    -- What is done for the members is done for the definitions among them.
    have h : addNested owner d c =
        if c.contains d.name then .error ⟨d.name⟩
        else do
          let c ← d.nested.foldlM (fun c d => addNested owner d c) c
          return { c with nested := ⟨owner, d⟩ :: c.nested } := by
      obtain ⟨kind, type, superTypes, interfaces, members, doc, isPublic, isStatic⟩ := d
      rw [addNested, addMembers_eq_foldlM]
      rfl
    rw [h]
    refine outcome_of_nested hn ?_
    rw [foldl_withEntries, withEntries, entries_eq_cons]
    rfl

/-- A top-level definition is added as it should be. -/
theorem add_outcome (c : Catalogue) (d : Definition) :
    Outcome [d] c (withRoot c d) (c.add d) := by
  have hnested : ∀ e ∈ d.nested, ∀ c, Outcome [e] c (withEntries d.name c e) _ :=
    fun e _ c => addNested_outcome d.name e c
  have hn := foldlM_outcome (withEntries d.name) (fun _ _ _ => mem_names_withEntries) hnested c
  rw [add, addMembers_eq_foldlM]
  refine outcome_of_nested hn ?_
  rw [foldl_withEntries, withRoot, nestedEntries_eq]

/-! ### Making a catalogue -/

theorem ofList_outcome (ds : List Definition) : Outcome ds {} (indexed ds) (ofList ds) := by
  have hadd : ∀ d ∈ ds, ∀ c, Outcome [d] c (withRoot c d) _ := fun d _ c => add_outcome c d
  have h := foldlM_outcome withRoot (fun _ _ _ => mem_names_withRoot) hadd {}
  rw [foldl_withRoot] at h
  simpa [indexed, ofList] using h

/-- A catalogue is made exactly if no names clash, and it is the indexed one. -/
theorem ofList_eq_ok_iff {ds : List Definition} {c : Catalogue} :
    ofList ds = .ok c ↔ c = indexed ds ∧ ∀ n, ¬Clash n ds := by
  have h := ofList_outcome ds
  cases hc : ofList ds with
  | ok c' =>
    rw [hc] at h
    obtain ⟨rfl, -, hclash⟩ := h
    constructor
    · rintro hc
      exact ⟨(Except.ok.inj hc).symm, hclash⟩
    · rintro ⟨rfl, -⟩
      rfl
  | error e =>
    rw [hc] at h
    have hclash : Clash e.name ds := by simpa [Outcome, names, definitions] using h
    constructor
    · intro h
      cases h
    · rintro ⟨-, h⟩
      exact absurd hclash (h e.name)

/-- Definitions make a catalogue exactly if no names clash. -/
theorem exists_ofList_iff {ds : List Definition} :
    (∃ c, ofList ds = .ok c) ↔ ∀ n, ¬Clash n ds := by
  constructor
  · rintro ⟨c, hc⟩
    exact (ofList_eq_ok_iff.mp hc).2
  · intro h
    exact ⟨_, ofList_eq_ok_iff.mpr ⟨rfl, h⟩⟩

/-- A refusal names a clash. -/
theorem clash_of_ofList_error {ds : List Definition} {e : DuplicateType}
    (h : ofList ds = .error e) : Clash e.name ds := by
  have ho := ofList_outcome ds
  rw [h] at ho
  simpa [Outcome, names, definitions] using ho

end Catalogue

/-! ### Clashes and repeated names -/

open Definition (withNested)

/-- A clashing name occurs at least twice. -/
theorem Clash.two_le_count {n : String} {ds : List Definition} (h : Clash n ds) :
    2 ≤ (ds.flatMap names).count n := by
  induction h with
  | beside hd hds =>
    have h₁ := List.count_pos_iff.mpr hd
    have h₂ := List.count_pos_iff.mpr hds
    rw [List.flatMap_cons, List.count_append]
    omega
  | inside _ ih =>
    rw [List.flatMap_cons, List.count_append, Definition.names_eq_cons, List.count_cons]
    omega
  | later _ ih =>
    rw [List.flatMap_cons, List.count_append]
    omega

/-- The names in a nested definition are among those in the one around it. -/
theorem Definition.names_sublist {d e : Definition} (h : e ∈ d.withNested) :
    e.names.Sublist d.names := by
  induction d using Definition.nesting_induction with
  | step d ih =>
    rcases Definition.mem_withNested_iff.mp h with rfl | ⟨f, hf, he⟩
    · exact List.Sublist.refl _
    · rw [Definition.names_eq_cons (d := d)]
      refine ((ih f hf he).trans ?_).cons _
      exact List.sublist_flatten_of_mem (List.mem_map_of_mem hf)

/-- Names that neither clash nor are those of a definition around are different,
given that this is so inside each definition. -/
private theorem nodup_flatMap_names {ds : List Definition} (hd : ∀ d ∈ ds, d.names.Nodup)
    (hclash : ∀ n, ¬Clash n ds) : (ds.flatMap names).Nodup := by
  induction ds with
  | nil => exact List.nodup_nil
  | cons d ds ih =>
    rw [List.flatMap_cons, List.nodup_append]
    refine ⟨hd d List.mem_cons_self, ?_, ?_⟩
    · exact ih (fun e he => hd e (List.mem_cons_of_mem _ he)) fun n h => hclash n (.later h)
    · rintro n hn m hm rfl
      exact hclash n (.beside hn hm)

/-- Inside a definition all names differ if none clash and no definition has the
name of one around it. -/
theorem Definition.nodup_names {d : Definition} (hclash : ∀ n, ¬Clash n d.nested)
    (hself : ∀ e ∈ d.withNested, e.name ∉ e.nested.flatMap names) : d.names.Nodup := by
  induction d using Definition.nesting_induction with
  | step d ih =>
    rw [Definition.names_eq_cons, List.nodup_cons]
    refine ⟨hself d d.mem_withNested_self, nodup_flatMap_names (fun e he => ?_) hclash⟩
    refine ih e he (fun n hn => hclash n (.of_mem he hn)) fun f hf => ?_
    exact hself f (Definition.mem_withNested_iff.mpr (.inr ⟨e, he, hf⟩))

/-- All names differ exactly if none clash and no definition has the name of one
around it. -/
theorem nodup_names_iff {ds : List Definition} :
    (ds.flatMap names).Nodup ↔
      (∀ n, ¬Clash n ds) ∧ ∀ d ∈ ds.flatMap withNested, d.name ∉ d.nested.flatMap names := by
  constructor
  · intro h
    refine ⟨fun n hn => ?_, fun d hd => ?_⟩
    · -- A clashing name would occur twice.
      have h₁ := List.nodup_iff_count_le_one.mp h n
      have h₂ := hn.two_le_count
      omega
    · obtain ⟨e, he, hd⟩ := List.mem_flatMap.mp hd
      have he' : e.names.Sublist (ds.flatMap names) :=
        List.sublist_flatten_of_mem (List.mem_map_of_mem he)
      have hdup := h.sublist ((Definition.names_sublist hd).trans he')
      rw [Definition.names_eq_cons, List.nodup_cons] at hdup
      exact hdup.1
  · rintro ⟨hclash, hself⟩
    refine nodup_flatMap_names (fun d hd => ?_) hclash
    refine Definition.nodup_names (fun n hn => hclash n (.of_mem hd hn)) fun e he => ?_
    exact hself e (List.mem_flatMap.mpr ⟨d, hd, he⟩)

/-- **Which lists of definitions make a catalogue**: those without clashing
names; a refusal names one that at least two definitions have.  That all names
differ is the same for lists that hold a clash, and for lists in which no
definition has the name of one around it — and for no others. -/
theorem ofList_duplicates (ds : List Definition) :
    ((∃ c, Catalogue.ofList ds = .ok c) ↔ ∀ n, ¬Clash n ds) ∧
    (∀ e, Catalogue.ofList ds = .error e →
      Clash e.name ds ∧ 2 ≤ (ds.flatMap names).count e.name) ∧
    (((∃ c, Catalogue.ofList ds = .ok c) ↔ (ds.flatMap names).Nodup) ↔
      (∃ n, Clash n ds) ∨
        ∀ d ∈ ds.flatMap withNested, d.name ∉ d.nested.flatMap names) := by
  have hok : (∃ c, Catalogue.ofList ds = .ok c) ↔ ∀ n, ¬Clash n ds := Catalogue.exists_ofList_iff
  -- Given a clash both sides fail; without one they differ by the names of definitions around.
  refine ⟨hok, fun e he => ?_, ?_⟩
  · have h := Catalogue.clash_of_ofList_error he
    exact ⟨h, h.two_le_count⟩
  · rw [hok, nodup_names_iff]
    by_cases h : ∃ n, Clash n ds
    · have hn : ¬∀ n, ¬Clash n ds := fun hn => h.elim hn
      simp [h, hn]
    · have hn : ∀ n, ¬Clash n ds := fun n hc => h ⟨n, hc⟩
      simp [hn]

/-- A class that holds a class of its own name. -/
def namesake : Definition :=
  { Definition.empty .classType (.simple "a.A") with
    members := [.nested (.empty .classType (.simple "a.A"))] }

/-- Two definitions of one name make a catalogue, one being nested in the other. -/
theorem ofList_namesake :
    (∃ c, Catalogue.ofList [namesake] = .ok c) ∧ ¬([namesake].flatMap names).Nodup := by
  refine ⟨⟨_, rfl⟩, ?_⟩
  decide

end Ambient

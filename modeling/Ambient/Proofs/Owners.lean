/-
The top-level definitions that names belong to.

* `exists_of_rootOf?` — what a name belongs to is a definition of the list in
  which it occurs;
* `owner_of_find?` — what is found under a name is nested in the definition that
  the name belongs to, or is that one itself;
* `find?_of_mem` — if all names are different, each definition can be found.

What is said of the catalogue of a list, which `indexed` writes down, holds of
every catalogue that `ofList` makes.
-/
import Mathlib.Data.List.Nodup
import Ambient.Proofs.DuplicateNames

namespace Ambient.Catalogue

variable {ds : List Definition} {d : Definition} {n : String}

/-- A top-level name belongs to itself. -/
theorem rootOf?_of_root? {c : Catalogue} (h : c.root? n = some d) : c.rootOf? n = some n := by
  simp [rootOf?, h]

theorem rootOf?_of_root?_eq_none {c : Catalogue} (h : c.root? n = none) :
    c.rootOf? n = (c.nested? n).map (·.owner) := by
  simp [rootOf?, h]

/-! ### Names and definitions of a list -/

/-- A definition of the list is found under its name, or one before it is. -/
theorem exists_root?_of_mem (h : d ∈ ds) : ∃ e, (indexed ds).root? d.name = some e := by
  have hs : ((indexed ds).root? d.name).isSome := by
    rw [root?, List.find?_isSome]
    exact ⟨d, h, by simp⟩
  exact Option.isSome_iff_exists.mp hs

/-- Each entry comes from a definition of the list, which owns it. -/
theorem exists_of_mem_nested {e : NestedEntry} (h : e ∈ (indexed ds).nested) :
    ∃ d ∈ ds, e.owner = d.name ∧ ∃ f ∈ d.nested, e.definition ∈ f.withNested := by
  obtain ⟨d, hd, he⟩ := List.mem_flatMap.mp h
  exact ⟨d, List.mem_reverse.mp hd, mem_nestedEntries_iff.mp he⟩

/-- A name that belongs to a definition is its own or that of one nested in it. -/
theorem exists_of_rootOf? {x : String} (h : (indexed ds).rootOf? n = some x) :
    ∃ d ∈ ds, d.name = x ∧ n ∈ d.names := by
  cases hr : (indexed ds).root? n with
  | some d =>
    rw [rootOf?_of_root? hr] at h
    obtain rfl : n = x := Option.some.inj h
    obtain rfl := name_of_root? hr
    exact ⟨d, mem_roots_of_root? hr, rfl, d.mem_names_self⟩
  | none =>
    rw [rootOf?_of_root?_eq_none hr] at h
    obtain ⟨e, he, rfl⟩ := Option.map_eq_some_iff.mp h
    have hen : e.definition.name = n := by simpa using List.find?_some he
    obtain ⟨d, hd, ho, f, hf, hef⟩ := exists_of_mem_nested (List.mem_of_find?_eq_some he)
    have hn : n ∈ f.names := List.mem_map.mpr ⟨e.definition, hef, hen⟩
    exact ⟨d, hd, ho.symm, Definition.mem_names_iff.mpr (.inr ⟨f, hf, hn⟩)⟩

theorem exists_root?_of_rootOf? {x : String} (h : (indexed ds).rootOf? n = some x) :
    ∃ d, (indexed ds).root? x = some d := by
  obtain ⟨d, hd, rfl, -⟩ := exists_of_rootOf? h
  exact exists_root?_of_mem hd

/-! ### Names that do not clash -/

/-- A name occurs in one definition of the list at most. -/
theorem eq_of_mem_names (hclash : ∀ n, ¬Clash n ds) {e : Definition} (hd : d ∈ ds) (he : e ∈ ds)
    (hnd : n ∈ d.names) (hne : n ∈ e.names) : d = e := by
  induction ds with
  | nil => cases hd
  | cons a ds ih =>
    rcases List.mem_cons.mp hd with rfl | hd' <;> rcases List.mem_cons.mp he with rfl | he'
    · rfl
    · exact absurd (.beside hnd (List.mem_flatMap.mpr ⟨e, he', hne⟩)) (hclash n)
    · exact absurd (.beside hne (List.mem_flatMap.mpr ⟨d, hd', hnd⟩)) (hclash n)
    · exact ih (fun n hn => hclash n (.later hn)) hd' he'

/-- A definition of the list is found under its name. -/
theorem root?_of_mem (hclash : ∀ n, ¬Clash n ds) (hd : d ∈ ds) :
    (indexed ds).root? d.name = some d := by
  obtain ⟨e, he⟩ := exists_root?_of_mem hd
  have heds : e ∈ ds := mem_roots_of_root? he
  have hn : d.name ∈ e.names := name_of_root? he ▸ e.mem_names_self
  -- What is found has the name of `d`, as no other definition does.
  obtain rfl : e = d := eq_of_mem_names hclash heds hd hn d.mem_names_self
  exact he

theorem mem_names_indexed_iff : n ∈ (indexed ds).names ↔ n ∈ ds.flatMap Definition.names := by
  rw [mem_names_iff, List.mem_flatMap]
  constructor
  · rintro (⟨d, hd, rfl⟩ | ⟨e, he, rfl⟩)
    · exact ⟨d, hd, d.mem_names_self⟩
    · obtain ⟨d, hd, -, f, hf, hef⟩ := exists_of_mem_nested he
      exact ⟨d, hd, Definition.mem_names_iff.mpr (.inr ⟨f, hf, List.mem_map_of_mem hef⟩)⟩
  · rintro ⟨d, hd, hn⟩
    rcases Definition.mem_names_iff.mp hn with rfl | ⟨f, hf, hn⟩
    · exact .inl ⟨d, hd, rfl⟩
    · obtain ⟨e, he, rfl⟩ := List.mem_map.mp hn
      refine .inr ⟨⟨d.name, e⟩, List.mem_flatMap.mpr ⟨d, List.mem_reverse.mpr hd, ?_⟩, rfl⟩
      exact mem_nestedEntries_iff.mpr ⟨rfl, f, hf, he⟩

/-- What is found under a name is nested in the top-level definition that the
name belongs to, or is that one itself. -/
theorem owner_of_find? (hclash : ∀ n, ¬Clash n ds) (hd : (indexed ds).find? n = some d) :
    ∃ r, (indexed ds).root? r.name = some r ∧ (indexed ds).rootOf? n = some r.name ∧
      d ∈ r.withNested := by
  cases hr : (indexed ds).root? n with
  | some r =>
    obtain rfl := name_of_root? hr
    obtain rfl : r = d := by simpa [find?, hr] using hd
    exact ⟨r, hr, rootOf?_of_root? hr, r.mem_withNested_self⟩
  | none =>
    obtain ⟨e, he, rfl⟩ : ∃ e, (indexed ds).nested? n = some e ∧ e.definition = d := by
      simpa [find?, hr] using hd
    -- The entry tells its owner by name only, so the owner must be the one found under it.
    obtain ⟨r, hrds, ho, f, hf, hef⟩ := exists_of_mem_nested (List.mem_of_find?_eq_some he)
    refine ⟨r, root?_of_mem hclash hrds, ?_, Definition.mem_withNested_iff.mpr (.inr ⟨f, hf, hef⟩)⟩
    rw [rootOf?_of_root?_eq_none hr, he, ← ho]
    rfl

/-- If all names are different, each definition is found under its own. -/
theorem find?_of_mem (hn : (ds.flatMap Definition.names).Nodup)
    (hd : d ∈ ds.flatMap Definition.withNested) : (indexed ds).find? d.name = some d := by
  have hnames : (ds.flatMap Definition.withNested).map Definition.name =
      ds.flatMap Definition.names := List.map_flatMap
  have hclash : ∀ n, ¬Clash n ds := (nodup_names_iff.mp hn).1
  have hknown : (indexed ds).contains d.name = true := by
    rw [contains_iff, mem_names_indexed_iff, ← hnames]
    exact List.mem_map_of_mem hd
  obtain ⟨e, he⟩ := Option.isSome_iff_exists.mp hknown
  obtain ⟨r, hr, -, her⟩ := owner_of_find? hclash he
  have heds : e ∈ ds.flatMap Definition.withNested :=
    List.mem_flatMap.mpr ⟨r, mem_roots_of_root? hr, her⟩
  -- What is found has the name of `d`, as no other definition does.
  rw [← hnames] at hn
  obtain rfl : e = d := List.inj_on_of_nodup_map hn heds hd (name_of_find? he)
  exact he

end Ambient.Catalogue

/-
What a catalogue says of a name.

A catalogue looks a name up at the top level and then among the nested
definitions, each of which was entered on its own with the name of the
definition around it.  This file shows that all answers agree, whatever the
definitions that were added:

* `contains_eq`, `isSome_rootOf?` — the places that are looked at for each answer;
* `contains_iff_exists_named` — the known names are those of the definitions that
  were added and of all nested in them;
* `ofList_lookups` — what is found under a known name, and where the name belongs.

Entries need not differ in their names, since a definition may hold one of its own name.
So what is found is said to be inside the definition that the name belongs to, not to be
the only one of its name there.
-/
import Ambient.Proofs.Owners

namespace Ambient.Catalogue

variable {ds : List Definition} {c : Catalogue} {n : String}

/-! ### Where answers come from -/

/-- A name is known from the top level or from the nested definitions. -/
theorem contains_eq : c.contains n = ((c.root? n).isSome || (c.nested? n).isSome) := by
  rw [contains, find?]
  cases hr : c.root? n with
  | some d => rfl
  | none => exact Option.isSome_map

/-- A name belongs to a definition exactly if it is known. -/
theorem isSome_rootOf? : (c.rootOf? n).isSome = c.contains n := by
  rw [contains_eq]
  cases hr : c.root? n with
  | some d => rw [rootOf?_of_root? hr]; rfl
  | none =>
    rw [rootOf?_of_root?_eq_none hr]
    exact Option.isSome_map

/-- The known names are those of all definitions that were added. -/
theorem contains_iff_exists_named :
    (indexed ds).contains n = true ↔ ∃ d ∈ ds.flatMap Definition.withNested, d.name = n := by
  have hnames : ds.flatMap Definition.names =
      (ds.flatMap Definition.withNested).map Definition.name := List.map_flatMap.symm
  rw [contains_iff, mem_names_indexed_iff, hnames, List.mem_map]

/-! ### All answers -/

/-- **What a catalogue says of a name.**  The top-level definitions are those that were
added, in their order.  A name is known, stands for a definition and belongs to one if
some definition has it, at whatever depth, and not otherwise.  It then stands for a
definition of this name that is, or is nested in, the top-level definition to which the
name belongs; and that one is found under its own name, which belongs to itself. -/
theorem ofList_lookups (h : ofList ds = .ok c) :
    c.roots = ds ∧
    ∀ n,
      (c.contains n = true ↔ ∃ d ∈ ds.flatMap Definition.withNested, d.name = n) ∧
      ((c.find? n).isSome ↔ c.contains n = true) ∧
      ((c.rootOf? n).isSome ↔ c.contains n = true) ∧
      (c.contains n = true → ∃ d, ∃ r ∈ ds,
        c.find? n = some d ∧ d.name = n ∧
        c.rootOf? n = some r.name ∧ d ∈ r.withNested ∧
        c.find? r.name = some r ∧ c.rootOf? r.name = some r.name) := by
  obtain ⟨rfl, hclash⟩ := ofList_eq_ok_iff.mp h
  refine ⟨rfl, fun n => ⟨contains_iff_exists_named, Iff.rfl, ?_, fun hn => ?_⟩⟩
  · rw [isSome_rootOf?]
  · obtain ⟨d, hd⟩ := Option.isSome_iff_exists.mp hn
    -- The owner of an entry is known by name only; without clashes the name leads back to it.
    obtain ⟨r, hr, hroot, hdr⟩ := owner_of_find? hclash hd
    have hfound : (indexed ds).find? r.name = some r := by rw [find?, hr]; rfl
    exact ⟨d, r, mem_roots_of_root? hr, hd, name_of_find? hd, hroot, hdr, hfound,
      rootOf?_of_root? hr⟩

/-- A shelf with a box on it and a pen in the box, and a lamp. -/
def shelf : List Definition :=
  let pen := Definition.empty .classType (.simple "a.Shelf.Box.Pen")
  let box := { Definition.empty .classType (.simple "a.Shelf.Box") with members := [.nested pen] }
  [{ Definition.empty .classType (.simple "a.Shelf") with members := [.nested box] },
    .empty .interface (.simple "a.Lamp")]

/-- The pen belongs to the shelf, and nothing is known of an ink. -/
theorem ofList_lookups_shelf :
    ∃ c, ofList shelf = .ok c ∧ c.roots = shelf ∧
      c.contains "a.Shelf.Box.Pen" = true ∧ c.contains "a.Ink" = false ∧
      ∃ d, ∃ r ∈ shelf, c.find? "a.Shelf.Box.Pen" = some d ∧ d.name = "a.Shelf.Box.Pen" ∧
        c.rootOf? "a.Shelf.Box.Pen" = some r.name ∧ d ∈ r.withNested ∧
        c.rootOf? r.name = some r.name := by
  have hok : ofList shelf = .ok (indexed shelf) := rfl
  obtain ⟨hroots, hanswers⟩ := ofList_lookups hok
  have hpen : (indexed shelf).contains "a.Shelf.Box.Pen" = true := by decide
  obtain ⟨d, r, hr, hd, hn, hroot, hdr, -, hself⟩ := (hanswers "a.Shelf.Box.Pen").2.2.2 hpen
  exact ⟨_, hok, hroots, hpen, by decide, d, r, hr, hd, hn, hroot, hdr, hself⟩

end Ambient.Catalogue

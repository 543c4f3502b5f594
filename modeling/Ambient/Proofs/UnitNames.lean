/-
The names of output units.

The units of different keys have different names, but the index goes by the name of
the unit that a module called `index` is put into.

* `unitName_injective` — different keys make different names;
* `unitKey_eq_index_iff` — only the module `index` has that key;
* `names_unitsOf` — the names of all units, in order;
* `unitsOf_distinct` — when all names differ, and what is read back then from the
  directory that the units are written into;
* `unitsOf_index_collides` — the index written over a module.
-/
import Ambient.Proofs.UnitContents
import Ambient.Proofs.WrittenFiles

namespace Ambient

open Text

theorem unitName_injective : Function.Injective unitName := by
  intro k l h
  have htexts := congrArg String.toList h
  rw [unitName, unitName, String.toList_append, String.toList_append] at htexts
  exact String.toList_inj.mp (List.append_cancel_right htexts)

/-- The separator stands between any two pieces. -/
theorem mem_intercalate_of_two {sep : Char} {p q : List Char} {pieces : List (List Char)} :
    sep ∈ [sep].intercalate (p :: q :: pieces) := by
  simp [List.intercalate]

/-- Only the module `index` has the key of that name: a key of two segments or more has
an underscore. -/
theorem unitKey_eq_index_iff {groupsByModule : Bool} {module : String} :
    unitKey groupsByModule module = "index" ↔ module = "index" := by
  constructor
  · intro h
    obtain ⟨p, pieces, hp⟩ :=
      List.exists_cons_of_ne_nil (splitOn_ne_nil '.' module.toList)
    have htext := joined_splitOn '.' module.toList
    rw [unitKey, hp] at h
    rw [hp] at htext
    cases pieces with
    | nil =>
      have hkey : p = "index".toList := by
        cases groupsByModule <;> simpa [List.intercalate] using congrArg String.toList h
      have hmodule : module.toList = p := by simpa [List.intercalate] using htext.symm
      exact String.toList_inj.mp (hmodule.trans hkey)
    | cons q pieces =>
      exfalso
      have hunderscore : '_' ∈ "index".toList := by
        rw [← h]
        cases groupsByModule with
        | false => exact String.toList_ofList ▸ mem_intercalate_of_two
        | true => exact String.toList_ofList ▸ mem_intercalate_of_two
      revert hunderscore
      decide
  · rintro rfl
    cases groupsByModule <;> decide

/-- The units of the modules in the order of their keys, then the index. -/
theorem names_unitsOf (s : Settings) (modules : List (String × String)) :
    (unitsOf s modules).map OutputUnit.name =
      ((Grouping.distinct (modules.map fun m => unitKey s.groupsByModule m.1)).map unitName) ++
        if s.buildsIndex then ["index.d.ts"] else [] := by
  have hunits : ∀ {unit : String × String → OutputUnit},
      (∀ entry, (unit entry).name = unitName entry.1) → ∀ entries : List _,
      (entries.map unit).map OutputUnit.name = (entries.map Prod.fst).map unitName := by
    intro unit hunit entries
    simp [hunit]
  rw [unitsOf]
  split
  · rw [List.map_append, hunits fun _ => rfl, keys_gathered]
    rfl
  · rw [hunits fun _ => rfl, keys_gathered, List.append_nil]

theorem nodup_names_unitsOf_iff (s : Settings) (modules : List (String × String)) :
    ((unitsOf s modules).map OutputUnit.name).Nodup ↔
      (s.buildsIndex → "index" ∉ modules.map Prod.fst) := by
  set keys := Grouping.distinct (modules.map fun m => unitKey s.groupsByModule m.1) with hkeys
  have hnodup : (keys.map unitName).Nodup :=
    (Grouping.nodup_distinct _).map unitName_injective
  have hindex : "index.d.ts" ∈ keys.map unitName ↔ "index" ∈ modules.map Prod.fst := by
    have hname : "index.d.ts" = unitName "index" := rfl
    rw [hname, List.mem_map_of_injective unitName_injective, hkeys, Grouping.mem_distinct]
    simp only [List.mem_map, unitKey_eq_index_iff]
  rw [names_unitsOf, ← hkeys]
  cases s.buildsIndex with
  | false => simp [hnodup]
  | true =>
    simp only [if_true, forall_const]
    rw [← hindex]
    constructor
    · intro h hmem
      exact (List.disjoint_of_nodup_append h) hmem List.mem_cons_self
    · intro h
      exact hnodup.append (List.nodup_singleton _) (List.disjoint_singleton.mpr h)

/-! ### Units in a directory -/

/-- A text that ends like the name of a unit is the name of a file if no slash is in it. -/
theorem isFileName_unitName {key : String} (h : '/' ∉ key.toList) : IsFileName (unitName key) := by
  have hlength : 5 ≤ (unitName key).toList.length := by
    rw [unitName, String.toList_append, List.length_append]
    exact Nat.le_add_left 5 _
  refine ⟨?_, ?_, ?_, ?_⟩
  · rw [unitName, String.toList_append, List.mem_append, not_or]
    exact ⟨h, by decide⟩
  all_goals
    intro he
    rw [he] at hlength
    revert hlength
    decide

/-- What stands between separators comes from the pieces or from the separator. -/
theorem mem_intercalate_iff {c : Char} {sep : List Char} {pieces : List (List Char)}
    (h : c ∉ sep) : c ∈ sep.intercalate pieces ↔ ∃ p ∈ pieces, c ∈ p := by
  induction pieces with
  | nil => simp
  | cons p pieces ih =>
    cases pieces with
    | nil => simp
    | cons q pieces =>
      rw [List.intercalate_cons_cons, List.mem_append, List.mem_append, ih]
      simp [h]

theorem slash_notMem_unitKey {groupsByModule : Bool} {module : String}
    (h : '/' ∉ module.toList) : '/' ∉ (unitKey groupsByModule module).toList := by
  rw [← joined_splitOn '.' module.toList, mem_intercalate_iff (by decide)] at h
  rw [unitKey, String.toList_ofList, mem_intercalate_iff (by decide)]
  rintro ⟨p, hp, hslash⟩
  refine h ⟨p, ?_, hslash⟩
  cases groupsByModule with
  | false => exact List.mem_of_mem_take hp
  | true => exact hp

theorem isFileName_of_mem_unitsOf {s : Settings} {modules : List (String × String)}
    (h : ∀ module ∈ modules.map Prod.fst, '/' ∉ module.toList) :
    ∀ u ∈ unitsOf s modules, IsFileName u.name := by
  intro u hu
  have hname : u.name ∈ (unitsOf s modules).map OutputUnit.name := List.mem_map_of_mem hu
  rw [names_unitsOf, List.mem_append] at hname
  rcases hname with hname | hname
  · obtain ⟨key, hkey, hu⟩ := List.mem_map.mp hname
    obtain ⟨m, hm, rfl⟩ := List.mem_map.mp (Grouping.mem_distinct.mp hkey)
    rw [← hu]
    exact isFileName_unitName (slash_notMem_unitKey (h _ (List.mem_map_of_mem hm)))
  · have hindex : u.name = unitName "index" := by
      split at hname
      · exact List.mem_singleton.mp hname
      · cases hname
    rw [hindex]
    exact isFileName_unitName (by decide)

/-- **Units never collide** unless there is an index and a module called `index`: only
then do two of them have one name.  Otherwise, if their names are names of files, all
can be read back from the directory that they have been written into. -/
theorem unitsOf_distinct (s : Settings) (modules : List (String × String)) :
    (((unitsOf s modules).map OutputUnit.name).Nodup ↔
      (s.buildsIndex → "index" ∉ modules.map Prod.fst)) ∧
    ((s.buildsIndex → "index" ∉ modules.map Prod.fst) →
      (∀ module ∈ modules.map Prod.fst, '/' ∉ module.toList) →
      ∀ input dir t paths t',
        (Command.writeUnits (FileTree.host input) dir (unitsOf s modules)).run t =
          (.ok paths, t') →
        ∀ u ∈ unitsOf s modules, t'.read (Path.join dir u.name) = .ok u.contents) := by
  have hnodup := nodup_names_unitsOf_iff s modules
  refine ⟨hnodup, fun hindex hslash input dir t paths t' hrun => ?_⟩
  exact Command.read_of_writeUnits (isFileName_of_mem_unitsOf hslash) (hnodup.mpr hindex) hrun

/-- Names with a slash can differ and be names of one file. -/
example :
    let modules := [("a/b", "X\n"), ("a//b", "Y\n")]
    let written := (Command.writeUnits (FileTree.host "") "/" (unitsOf {} modules)).run
      { nodes := [(["a"], .directory)] }
    ((unitsOf {} modules).map OutputUnit.name).Nodup ∧
    written.1 = .ok ["/a/b.d.ts", "/a//b.d.ts"] ∧
    written.2.read "/a/b.d.ts" = .ok "Y\n" := by
  decide +kernel

/-- Two modules with their texts. -/
def zooModules : List (String × String) :=
  [("a.zoo", "Z\n"), ("b.index", "I\n")]

/-- Their units and the index, written into the root. -/
def zooFiles : Except Command.Failure (List String) × FileTree :=
  (Command.writeUnits (FileTree.host "") "/" (unitsOf { buildsIndex := true } zooModules)).run {}

theorem unitsOf_distinct_zoo :
    "index" ∉ zooModules.map Prod.fst ∧
    ((unitsOf { buildsIndex := true } zooModules).map OutputUnit.name).Nodup ∧
    zooFiles.1 = .ok ["/a_zoo.d.ts", "/b_index.d.ts", "/index.d.ts"] ∧
    zooFiles.2.read "/b_index.d.ts" = .ok "I\n" := by
  have hindex : "index" ∉ zooModules.map Prod.fst := by decide +kernel
  have hslash : ∀ module ∈ zooModules.map Prod.fst, '/' ∉ module.toList := by decide +kernel
  have hpaths : zooFiles.1 = .ok ["/a_zoo.d.ts", "/b_index.d.ts", "/index.d.ts"] := by
    decide +kernel
  have hrun : zooFiles = (.ok ["/a_zoo.d.ts", "/b_index.d.ts", "/index.d.ts"], zooFiles.2) := by
    rw [← hpaths]
  have hunit : ⟨"b_index.d.ts", "I\n"⟩ ∈ unitsOf { buildsIndex := true } zooModules := by
    decide +kernel
  have hjoin : Path.join "/" "b_index.d.ts" = "/b_index.d.ts" := by decide +kernel
  have h := unitsOf_distinct { buildsIndex := true } zooModules
  refine ⟨hindex, h.1.mpr fun _ => hindex, hpaths, ?_⟩
  have hread := h.2 (fun _ => hindex) hslash "" "/" {} _ zooFiles.2 hrun _ hunit
  rwa [hjoin] at hread

/-- The index is written over the unit of a module that is called like it. -/
theorem unitsOf_index_collides :
    let s : Settings := { buildsIndex := true }
    let modules := [("index", "I\n")]
    let written := (Command.writeUnits (FileTree.host "") "/" (unitsOf s modules)).run {}
    ¬((unitsOf s modules).map OutputUnit.name).Nodup ∧
    ⟨"index.d.ts", "I\n"⟩ ∈ unitsOf s modules ∧
    written.1 = .ok ["/index.d.ts", "/index.d.ts"] ∧
    written.2.nodes = [(["index.d.ts"], .file
      "// auto-generated references to packages\n/// <reference path='index.d.ts' />\n")] := by
  decide +kernel

end Ambient

/-
Links between modules.

A block uses names whose definitions may stand in other blocks of the output.
The module a definition is put into and the module its name is imported from are
found independently of each other.  This file shows that they are the same
wherever a name has a scope, so that every such use is linked.

* `Imports` — an import statement that binds a local name to a definition's;
* `Scope.exists_importLine` — each entry among the imports has a part in the
  statement for its module;
* `Generator.Linked` — every block that uses a name declared in another block
  imports it from there;
* `Generator.run_linked` — the output, use by use: all blocks are templates with
  local names filled in, and every name with a scope is linked;
* `Generator.not_linked_orphan` — a name without a scope need not be.
-/
import Ambient.Generator
import Ambient.Proofs.DuplicateNames
import Ambient.Proofs.Templates

namespace Ambient

open QualifiedName

/-- What an import statement says of one definition. -/
def binding (simple name : String) : String :=
  if simple = name then simple else simple ++ " as " ++ name

/-- The line imports the definition of this simple name from the module, under the
local name. -/
def Imports (line module simple name : String) : Prop :=
  ∃ before after : List String,
    line = "import \x7b " ++ ", ".intercalate (before ++ binding simple name :: after) ++
      " \x7d from '" ++ module ++ "';"

/-- Each import has a part in the statement for its module. -/
theorem Scope.exists_importLine {s : Scope} {n x : String} (h : (n, x) ∈ s.imports) :
    ∃ line ∈ s.importLines, Imports line (scope n) (simple n) x := by
  set group := s.imports.filter fun entry => scope entry.1 = scope n with hgroup
  have hmem : (n, x) ∈ group := by simp [hgroup, h]
  have hkey : scope n ∈ s.imports.map fun entry => scope entry.1 :=
    List.mem_map_of_mem (f := fun entry : String × String => scope entry.1) h
  obtain ⟨before, after, hsplit⟩ := List.append_of_mem hmem
  refine ⟨_, List.mem_map.mpr ⟨(scope n, group), ?_, rfl⟩, ?_⟩
  · exact Grouping.mem_groupBy_iff.mpr ⟨hkey, rfl⟩
  · refine ⟨before.map specifier, after.map specifier, ?_⟩
    simp [hsplit, specifier, binding]

/-! ### Where definitions are put -/

theorem mem_modulesOf_iff {ds : List Definition} {module : String} {es : List Definition} :
    (module, es) ∈ modulesOf ds ↔
      module ∈ (ds.flatMap Definition.declared).map Definition.moduleName ∧
      es = (ds.flatMap Definition.declared).filter (·.moduleName = module) :=
  Grouping.mem_groupBy_iff

/-- A definition whose name has a scope is put into the module of that name. -/
theorem Definition.moduleName_of_scope {d : Definition} (h : scope d.name ≠ "") :
    d.moduleName = scope d.name := by
  unfold moduleName
  split
  next hempty => exact absurd hempty h
  next => rfl

/-- A block is put under the scope of the names that it declares. -/
theorem module_eq_scope {ds : List Definition} {module : String} {es : List Definition}
    {d : Definition} (hes : (module, es) ∈ modulesOf ds) (hd : d ∈ es) (h : scope d.name ≠ "") :
    module = scope d.name := by
  rw [(mem_modulesOf_iff.mp hes).2, List.mem_filter] at hd
  have hmodule : d.moduleName = module := by simpa using hd.2
  rw [← hmodule, Definition.moduleName_of_scope h]

namespace Generator

variable (g : Generator) (c : Catalogue)

/-- The name is linked: every block that uses it, while the definition is in another
block, imports it from there under the name that is filled in. -/
def Linked (n : String) : Prop :=
  ∀ module ds, (module, ds) ∈ modulesOf (g.transform c) → n ∈ blockUses c g.settings ds →
  ∀ module' ds', (module', ds') ∈ modulesOf (g.transform c) → module' ≠ module →
  ∀ d ∈ ds', d.name = n →
    ∃ line ∈ (blockScope c g.settings module ds).importLines,
      Imports line module' d.simpleName ((blockScope c g.settings module ds).nameOf n)

theorem linked_of_scope {n : String} (hn : scope n ≠ "") : g.Linked c n := by
  rintro module ds hds huse module' ds' hds' hne d hd rfl
  have hmodule : module' = scope d.name := module_eq_scope hds' hd hn
  have himport : (d.name, (blockScope c g.settings module ds).nameOf d.name) ∈
      (blockScope c g.settings module ds).imports :=
    (Scope.mem_imports_bindAll_iff rfl).mpr ⟨huse, ⟨hn, hmodule ▸ hne⟩, rfl⟩
  obtain ⟨line, hline, h⟩ := Scope.exists_importLine himport
  exact ⟨line, hline, hmodule ▸ h⟩

/-- **Links.** The output consists of the blocks of all modules, each a template with
the local names of its scope filled in after the import statements of that scope,
and every name with a scope is linked. -/
theorem run_linked :
    g.run c = unitsOf g.settings ((modulesOf (g.transform c)).map fun (module, ds) =>
      (module, blockText module (blockScope c g.settings module ds).importLines
        ((blockTemplates c g.settings ds).map
          (Template.fill (blockScope c g.settings module ds).nameOf)))) ∧
    ∀ n, scope n ≠ "" → g.Linked c n := by
  refine ⟨?_, fun n => g.linked_of_scope c⟩
  simp only [run, moduleText_eq]

/-- A cat that knows another cat, of which it has a paw. -/
def cats : List Definition :=
  let field (name type : String) : Member := .field { name, type := .simple type }
  [{ Definition.empty .classType (.simple "house.Cat") with
      members := [field "other" "zoo.Cat", field "paw" "zoo.Cat.Paw"] },
   { Definition.empty .classType (.simple "zoo.Cat") with
      members := [.nested (Definition.empty .classType (.simple "zoo.Cat.Paw"))] }]

/-- A run with nothing but defaults. -/
def plainRun : Generator where
  settings := {}
  whitelist := {}

/-- The one cat imports the other under an alias. -/
theorem run_linked_cats :
    scope "zoo.Cat" ≠ "" ∧ Catalogue.ofList cats = .ok (Catalogue.indexed cats) ∧
    ∃ line ∈ (blockScope (Catalogue.indexed cats) {} "house" (cats.take 1)).importLines,
      Imports line "zoo" "Cat" "zoo_Cat" := by
  have hscope : scope "zoo.Cat" ≠ "" := by decide
  have hrun : plainRun.transform (Catalogue.indexed cats) = cats := by cbv
  have hblocks : modulesOf cats =
      [("house", cats.take 1), ("zoo", cats.drop 1),
       ("zoo.Cat", [Definition.empty .classType (.simple "zoo.Cat.Paw")])] := rfl
  have huse : "zoo.Cat" ∈ blockUses (Catalogue.indexed cats) plainRun.settings (cats.take 1) := by
    have huses : blockUses (Catalogue.indexed cats) plainRun.settings (cats.take 1) =
        ["zoo.Cat", "zoo.Cat.Paw"] := by decide +kernel
    rw [huses]
    exact List.mem_cons_self
  have hlinked := (plainRun.run_linked (Catalogue.indexed cats)).2 "zoo.Cat" hscope "house"
    (cats.take 1) (by simp [hrun, hblocks]) huse "zoo" (cats.drop 1) (by simp [hrun, hblocks])
    (by decide) _ List.mem_cons_self rfl
  have hname : (blockScope (Catalogue.indexed cats) {} "house" (cats.take 1)).nameOf "zoo.Cat" =
      "zoo_Cat" := by decide +kernel
  rw [← hname]
  exact ⟨hscope, rfl, hlinked⟩

/-- A class without a package, and one in a package that has a field of it. -/
def orphans : List Definition :=
  [Definition.empty .classType (.simple "Orphan"),
   { Definition.empty .classType (.simple "a.A") with
      members := [.field { name := "orphan", type := .simple "Orphan" }] }]

/-- A name without a scope is not imported from where its definition is. -/
theorem not_linked_orphan :
    Catalogue.ofList orphans = .ok (Catalogue.indexed orphans) ∧
    ¬plainRun.Linked (Catalogue.indexed orphans) "Orphan" := by
  refine ⟨rfl, fun h => ?_⟩
  have hrun : plainRun.transform (Catalogue.indexed orphans) = orphans := by cbv
  have hblocks : modulesOf orphans =
      [("default", orphans.take 1), ("a", orphans.drop 1)] := rfl
  have huse : "Orphan" ∈
      blockUses (Catalogue.indexed orphans) plainRun.settings (orphans.drop 1) := by
    have huses : blockUses (Catalogue.indexed orphans) plainRun.settings (orphans.drop 1) =
        ["Orphan"] := by decide +kernel
    rw [huses]
    exact List.mem_cons_self
  obtain ⟨line, hline, -⟩ := h "a" (orphans.drop 1) (by simp [hrun, hblocks]) huse
    "default" (orphans.take 1) (by simp [hrun, hblocks]) (by decide) _ List.mem_cons_self rfl
  have hnone : (blockScope (Catalogue.indexed orphans) plainRun.settings "a"
      (orphans.drop 1)).importLines = [] := by decide +kernel
  rw [hnone] at hline
  cases hline

end Generator

end Ambient

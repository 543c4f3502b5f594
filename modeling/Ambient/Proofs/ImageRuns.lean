/-
Runs over changed definitions.

A run selects definitions, completes them and puts them into modules.  For a
change that keeps names and nesting, this file leaves two things to be shown: that
completing a definition commutes with the change, and that the same is declared of
what comes out.

* `Generator.selected_map` — the same definitions are selected;
* `Catalogue.inheritedMethods_map`, `Generator.edgesLeft_map` — the same methods are
  inherited, and the same edges are left;
* `Definition.declared_map`, `modulesOf_map` — they are put into the same modules;
* `Generator.run_map` — the run is the same.
-/
import Ambient.Proofs.Copies
import Ambient.Proofs.Images

namespace Ambient

variable {f : Definition → Definition}

theorem Generator.selected_map (hname : ∀ d, (f d).name = d.name)
    (hmentions : ∀ d, Catalogue.simpleNames (f d).mentions = Catalogue.simpleNames d.mentions)
    (g : Generator) (c : Catalogue) : g.selected (c.map f) = (g.selected c).map f := by
  have hroots : (c.map f).roots = c.roots.map f := rfl
  rw [selected, selected]
  split
  · exact hroots
  · rw [hroots, List.filter_map, Catalogue.reachableRoots_map hname c hmentions]
    simp [Function.comp_def, hname]

/-! ### What is inherited

These take it that the ancestors are the changed ones: edges may be changed as well,
so this does not come from names and nesting alone. -/

section
variable {c : Catalogue} {d : Definition}
  (hancestors : (c.map f).ancestors (f d) = (c.ancestors d).map f)
include hancestors

theorem Catalogue.inheritedMethods_map {p : Method → Method}
    (hinheritable : ∀ e, (f e).inheritable = e.inheritable.map p) :
    (c.map f).inheritedMethods (f d) = (c.inheritedMethods d).map p := by
  rw [inheritedMethods, hancestors, inheritedMethods]
  exact flatMap_map_comm fun e _ => hinheritable e

/-- Whether an edge is left is told from the names of ancestors. -/
theorem Generator.edgesLeft_map (hname : ∀ e, (f e).name = e.name) {t : TypeExpr → TypeExpr}
    (ht : ∀ e, (t e).name = e.name) (g : Generator) (ts : List TypeExpr) :
    g.edgesLeft (c.map f) (f d) (ts.map t) = (g.edgesLeft c d ts).map t := by
  have hnames : ((c.map f).ancestors (f d)).map Definition.name =
      (c.ancestors d).map Definition.name := by
    rw [hancestors, List.map_map]
    exact List.map_congr_left fun e _ => hname e
  rw [edgesLeft, hnames, edgesLeft]
  split
  · rw [List.filter_map]
    simp only [Function.comp_def, ht]
  · rfl

end

/-! ### Modules -/

theorem Definition.declared_map (hf : KeepsNesting f)
    (hbuiltin : ∀ d, (f d).type.isBuiltin = d.type.isBuiltin) (d : Definition) :
    (f d).declared = d.declared.map f := by
  induction d using nesting_induction with
  | step d ih =>
    rw [declared_eq, declared_eq, hbuiltin]
    split
    · rfl
    · rw [declaredAmong_eq_flatMap, declaredAmong_eq_flatMap, List.map_cons]
      have hnested : (f d).nested.flatMap declared = (d.nested.flatMap declared).map f := by
        rw [hf.nested]
        exact flatMap_map_comm ih
      exact congrArg _ hnested

theorem modulesOf_map (hf : Definition.KeepsNesting f)
    (hbuiltin : ∀ d, (f d).type.isBuiltin = d.type.isBuiltin) (ds : List Definition) :
    modulesOf (ds.map f) = (modulesOf ds).map fun (module, es) => (module, es.map f) := by
  have hdeclared : (ds.map f).flatMap Definition.declared =
      (ds.flatMap Definition.declared).map f :=
    flatMap_map_comm fun d _ => d.declared_map hf hbuiltin
  rw [modulesOf, hdeclared, modulesOf]
  refine Grouping.groupBy_map (fun d => ?_) _
  rw [Definition.moduleName, hf.name, Definition.moduleName]

theorem moduleText_map (hname : ∀ d, (f d).name = d.name) {c c' : Catalogue} {s : Settings}
    (module : String) {ds : List Definition}
    (h : ∀ d ∈ ds, Declaration.lines c' s (f d) = Declaration.lines c s d) :
    moduleText c' s module (ds.map f) = moduleText c s module ds := by
  have hnames : (ds.map f).map Definition.simpleName = ds.map Definition.simpleName := by
    rw [List.map_map]
    exact List.map_congr_left fun d _ => congrArg QualifiedName.simple (hname d)
  have hlines : (ds.map f).mapM (Declaration.lines c' s) = ds.mapM (Declaration.lines c s) := by
    rw [List.mapM_map]
    exact mapM_congr h
  rw [moduleText, hnames, declarationLines, hlines, moduleText, declarationLines]

/-! ### Runs -/

/-- **A change of the definitions does not show** if it keeps names and nesting,
commutes with completing, and what is declared of completed definitions. -/
theorem Generator.run_map (hf : Definition.KeepsNesting f)
    (hbuiltin : ∀ d, (f d).type.isBuiltin = d.type.isBuiltin)
    (hmentions : ∀ d, Catalogue.simpleNames (f d).mentions = Catalogue.simpleNames d.mentions)
    {g : Generator} {c : Catalogue}
    (hrefine : ∀ d ∈ g.selected c, g.refine (c.map f) (f d) = f (g.refine c d))
    (hlines : ∀ d ∈ g.selected c, ∀ e ∈ d.withNested,
      Declaration.lines (c.map f) g.settings (f (g.refine c e)) =
        Declaration.lines c g.settings (g.refine c e)) :
    g.run (c.map f) = g.run c := by
  have htransform : g.transform (c.map f) = (g.transform c).map f := by
    rw [transform, selected_map hf.name hmentions, transform, List.map_map, List.map_map]
    exact List.map_congr_left hrefine
  rw [run, htransform, modulesOf_map hf hbuiltin, List.map_map, run]
  refine congrArg _ (List.map_congr_left ?_)
  rintro ⟨module, ds⟩ hm
  refine congrArg _ (moduleText_map hf.name module fun d hd => ?_)
  -- A declared definition is one that has been selected, or is nested in one.
  obtain ⟨r, hr, e, he, rfl⟩ := g.exists_of_mem_modules c hm hd
  exact hlines r hr e he

end Ambient

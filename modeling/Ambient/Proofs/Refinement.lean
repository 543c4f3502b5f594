/-
What a run reads of its catalogue.

A definition is completed from its ancestors, and documentation is looked for at
and above its interfaces.  Nothing else of a catalogue has a part in a run once
the definitions to declare are selected:

* `Generator.refine_type`, `refine_interfaces_subset`, `refine_nested` — what
  completing a definition leaves as it is;
* `Catalogue.SameHeritage` — two catalogues hold the same for a definition, as
  far as it is read;
* `Generator.run_congr` — two runs that select the same definitions agree if
  the catalogues do so for these and for everything nested in them.
-/
import Mathlib.Data.List.Basic
import Ambient.Generator
import Ambient.Proofs.Nesting

namespace Ambient

/-- What is picked from the images of members, if they are picked alike. -/
theorem filterMap_map_comm {α β : Type} {f : α → α} {p : α → Option β} {h : β → β}
    {as : List α} (hp : ∀ a ∈ as, p (f a) = (p a).map h) :
    (as.map f).filterMap p = (as.filterMap p).map h := by
  rw [List.filterMap_map, List.map_filterMap]
  exact List.filterMap_congr hp

/-- The same for what there may be several of. -/
theorem flatMap_map_comm {α β : Type} {f : α → α} {p : α → List β} {h : β → β} {as : List α}
    (hp : ∀ a ∈ as, p (f a) = (p a).map h) : (as.map f).flatMap p = (as.flatMap p).map h := by
  rw [List.flatMap_map, List.map_flatMap]
  exact List.flatMap_congr hp

/-! ### What completing leaves as it is -/

namespace Definition

theorem nested_withCopies (w : Whitelist) (candidates : List Method) (d : Definition) :
    (d.withCopies w candidates).nested = d.nested := by
  rw [withCopies, nested, List.filterMap_append]
  simp [nested, Member.nested?, List.filterMap_map, Function.comp_def]

theorem nested_mapMethod (f : Method → Method) (ms : List Member) :
    (ms.map (Member.mapMethod f)).filterMap Member.nested? = ms.filterMap Member.nested? := by
  rw [List.filterMap_map]
  refine List.filterMap_congr fun m _ => ?_
  cases m <;> rfl

theorem nested_withForcedDocs (c : Catalogue) (d : Definition) :
    (d.withForcedDocs c).nested = d.nested :=
  nested_mapMethod _ d.members

theorem flattened_parents_subset (c : Catalogue) (w : Whitelist) (d : Definition) :
    (d.flattened c w).parents ⊆ d.parents := by
  intro t ht
  rcases List.mem_append.mp ht with ht | ht
  · exact List.mem_append_left _ (List.mem_filter.mp ht).1
  · exact List.mem_append_right _ (List.mem_filter.mp ht).1

theorem declaredAmong_eq_flatMap (ms : List Member) :
    declaredAmong ms = (ms.filterMap Member.nested?).flatMap declared := by
  induction ms with
  | nil => rfl
  | cons m ms ih =>
    cases m <;> simp [declaredAmong, List.filterMap_cons, Member.nested?, ih]

/-- What is declared is nested in the definition, or it itself. -/
theorem declared_subset (d : Definition) : d.declared ⊆ d.withNested := by
  induction d using nesting_induction with
  | step d ih =>
    intro e he
    rw [declared_eq] at he
    split at he
    · cases he
    · rcases List.mem_cons.mp he with rfl | he
      · exact mem_withNested_self e
      · rw [declaredAmong_eq_flatMap] at he
        obtain ⟨f, hf, he⟩ := List.mem_flatMap.mp he
        exact mem_withNested_iff.mpr (.inr ⟨f, hf, ih f hf he⟩)

end Definition

namespace Generator

variable (g : Generator) (c : Catalogue) (d : Definition)

theorem complete_type : (g.complete c d).type = d.type := by
  unfold complete
  split <;> split <;> rfl

theorem complete_nested : (g.complete c d).nested = d.nested := by
  have h : ∀ e : Definition, e.nested = d.nested →
      (if g.settings.forcesDocs then e.withForcedDocs c else e).nested = d.nested := by
    intro e he
    split
    · rw [Definition.nested_withForcedDocs, he]
    · exact he
  unfold complete
  split
  · exact h _ (Definition.nested_withCopies _ _ d)
  · exact h _ (Definition.nested_withCopies _ _ d)

/-- Completing a definition only ever cuts edges. -/
theorem complete_parents_subset : (g.complete c d).parents ⊆ d.parents := by
  have hflat := d.flattened_parents_subset c g.whitelist
  unfold complete
  split <;> split
  · exact hflat
  · exact hflat
  · exact List.Subset.refl d.parents
  · exact List.Subset.refl d.parents

theorem refine_type : (g.refine c d).type = d.type := by
  rw [refine_eq, complete_type]

theorem refine_parents_subset : (g.refine c d).parents ⊆ d.parents := by
  rw [refine_eq]
  exact g.complete_parents_subset c _

/-- Nested definitions stay where they are, completed in their turn. -/
theorem refine_nested : (g.refine c d).nested = d.nested.map (g.refine c) := by
  rw [refine_eq, complete_nested]
  refine filterMap_map_comm fun m _ => ?_
  cases m <;> rfl

/-- What is nested in a completed definition was nested in it before and is completed
itself. -/
theorem withNested_refine : (g.refine c d).withNested = d.withNested.map (g.refine c) := by
  induction d using Definition.nesting_induction with
  | step d ih =>
    rw [Definition.withNested_eq_cons, Definition.withNested_eq_cons, refine_nested,
      List.flatMap_map, List.map_cons, List.map_flatMap]
    exact congrArg _ (List.flatMap_congr ih)

/-- The definitions of a module come from the selected ones. -/
theorem exists_of_mem_modules {module : String} {ds : List Definition}
    (h : (module, ds) ∈ modulesOf (g.transform c)) {d : Definition} (hd : d ∈ ds) :
    ∃ r ∈ g.selected c, ∃ e ∈ r.withNested, d = g.refine c e := by
  obtain ⟨-, rfl⟩ := Grouping.mem_groupBy_iff.mp h
  obtain ⟨f, hf, hd⟩ := List.mem_flatMap.mp ((List.mem_filter.mp hd).1)
  obtain ⟨r, hr, rfl⟩ := List.mem_map.mp hf
  have hd := Definition.declared_subset _ hd
  rw [withNested_refine] at hd
  obtain ⟨e, he, rfl⟩ := List.mem_map.mp hd
  exact ⟨r, hr, e, he, rfl⟩

end Generator

/-! ### Two catalogues -/

/-- Two catalogues hold the same definitions above some or all of the parents of
a definition, in the same order. -/
def Catalogue.SameAbove (c c' : Catalogue) (d : Definition) : Prop :=
  ∀ ts ⊆ d.parents, ∀ seen, c'.heritage.visit ts seen = c.heritage.visit ts seen

variable {c c' : Catalogue} {d e : Definition}

theorem Catalogue.SameAbove.of_subset (h : c.SameAbove c' d) (hs : e.parents ⊆ d.parents) :
    c.SameAbove c' e :=
  fun ts ht => h ts (List.Subset.trans ht hs)

/-! ### Completing definitions -/

namespace Definition

/-- Only the ancestors are read to copy their methods. -/
theorem flattened_congr (w : Whitelist) (h : c.SameAbove c' d) :
    d.flattened c' w = d.flattened c w := by
  have ha : c'.ancestors d = c.ancestors d := h d.parents (List.Subset.refl _) [d.name]
  rw [flattened, flattened, Catalogue.inheritedMethods, Catalogue.inheritedMethods, ha]

theorem withOverloads_congr (w : Whitelist) (h : c.SameAbove c' d) :
    d.withOverloads c' w = d.withOverloads c w := by
  have ha : c'.ancestors d = c.ancestors d := h d.parents (List.Subset.refl _) [d.name]
  rw [withOverloads, withOverloads, Catalogue.inheritedMethods, Catalogue.inheritedMethods, ha]

theorem withForcedDocs_congr (h : c.SameAbove c' d) :
    d.withForcedDocs c' = d.withForcedDocs c := by
  have ha : c'.ancestors d = c.ancestors d := h d.parents (List.Subset.refl _) [d.name]
  rw [withForcedDocs, withForcedDocs, ha]

end Definition

namespace Generator

variable (g : Generator)

theorem complete_congr (h : c.SameAbove c' d) : g.complete c' d = g.complete c d := by
  -- Documentation is copied from the ancestors that are left after flattening.
  have hdocs : ∀ e : Definition, e.parents ⊆ d.parents →
      (if g.settings.forcesDocs then e.withForcedDocs c' else e) =
        if g.settings.forcesDocs then e.withForcedDocs c else e := by
    intro e he
    rw [Definition.withForcedDocs_congr (h.of_subset he)]
  unfold complete
  rw [Definition.flattened_congr g.whitelist h, Definition.withOverloads_congr g.whitelist h]
  refine hdocs _ ?_
  split
  · exact d.flattened_parents_subset c g.whitelist
  · exact List.Subset.refl d.parents

/-- A definition is completed in one way over catalogues that hold the same above
it and above everything nested in it. -/
theorem refine_congr (h : d.Everywhere (c.SameAbove c')) : g.refine c' d = g.refine c d := by
  induction d using Definition.nesting_induction with
  | step d ih =>
    obtain ⟨hd, hn⟩ := Definition.everywhere_iff.mp h
    -- First what is nested, then the definition with it: the order in which they are completed.
    have hm : d.members.map (Member.mapNested (g.refine c')) =
        d.members.map (Member.mapNested (g.refine c)) := by
      refine List.map_congr_left fun m hm => ?_
      cases m with
      | nested e =>
        have he : e ∈ d.nested := Definition.mem_nested_iff.mpr hm
        exact congrArg Member.nested (ih e he (hn e he))
      | method m => rfl
      | field f => rfl
    rw [refine_eq, refine_eq, hm]
    exact g.complete_congr hd

end Generator

/-! ### Declarations -/

/-- The method that a method overrides in one of the interfaces. -/
def Catalogue.overriddenIn? (c : Catalogue) (t : TypeExpr) (m : Method) : Option Method :=
  (c.declaring? t m.name).bind fun d =>
    d.methods.find? fun o => o.kind = m.kind && o.name = m.name

theorem Catalogue.overridden?_eq (c : Catalogue) (interfaces : List TypeExpr) (m : Method) :
    c.overridden? interfaces m = interfaces.findSome? (c.overriddenIn? · m) :=
  rfl

theorem findSome?_congr {α β : Type} {f f' : α → Option β} {as : List α}
    (h : ∀ a ∈ as, f' a = f a) : as.findSome? f' = as.findSome? f := by
  induction as with
  | nil => rfl
  | cons a as ih =>
    rw [List.findSome?_cons, List.findSome?_cons, h a List.mem_cons_self,
      ih fun b hb => h b (List.mem_cons_of_mem a hb)]

theorem Catalogue.overridden?_congr {interfaces : List TypeExpr}
    (h : ∀ t ∈ interfaces, c'.lineage [t] = c.lineage [t]) (m : Method) :
    c'.overridden? interfaces m = c.overridden? interfaces m := by
  rw [overridden?_eq, overridden?_eq]
  refine findSome?_congr fun t ht => ?_
  rw [overriddenIn?, overriddenIn?, declaring?, declaring?, h t ht]

/-- Only what is above the interfaces is read to clean up the members. -/
theorem Definition.cleanMembers_congr (excluded : List String) (h : c.SameAbove c' d) :
    d.cleanMembers c' excluded = d.cleanMembers c excluded := by
  have hlineage : ∀ t ∈ d.interfaces, c'.lineage [t] = c.lineage [t] := by
    intro t ht
    have hp : t ∈ d.parents := List.mem_append_right _ ht
    exact h [t] (List.cons_subset.mpr ⟨hp, List.nil_subset _⟩) []
  have hover := Catalogue.overridden?_congr hlineage
  have hdocs : ∀ m : Method, m.inheritDoc c' d.interfaces = m.inheritDoc c d.interfaces := by
    intro m
    rw [Method.inheritDoc, Method.inheritDoc, hover]
  simp only [cleanMembers, settle, inheritDocs, hdocs]

theorem mapM_congr {m : Type → Type} [Monad m] [LawfulMonad m] {α β : Type} {f g : α → m β}
    {as : List α} (h : ∀ a ∈ as, f a = g a) : as.mapM f = as.mapM g := by
  induction as with
  | nil => rfl
  | cons a as ih =>
    rw [List.mapM_cons, List.mapM_cons, h a List.mem_cons_self,
      ih fun b hb => h b (List.mem_cons_of_mem a hb)]

theorem moduleText_congr (s : Settings) (module : String) {ds : List Definition}
    (h : ∀ d ∈ ds, c.SameAbove c' d) : moduleText c' s module ds = moduleText c s module ds := by
  have hlines : ∀ d ∈ ds, Declaration.lines c' s d = Declaration.lines c s d := by
    intro d hd
    have hm : Declaration.members c' s d = Declaration.members c s d := by
      rw [Declaration.members, Declaration.members, d.cleanMembers_congr s.excluded (h d hd)]
    rw [Declaration.lines, Declaration.lines, hm]
  have hdecl : declarationLines c' s ds = declarationLines c s ds := by
    rw [declarationLines, declarationLines, mapM_congr hlines]
  rw [moduleText, moduleText, hdecl]

/-- **What a run reads of its catalogue**: the selection, and what is above the
selected definitions and those nested in them. -/
theorem Generator.run_congr (g : Generator) (hs : g.selected c' = g.selected c)
    (h : ∀ d ∈ g.selected c, d.Everywhere (c.SameAbove c')) : g.run c' = g.run c := by
  have ht : g.transform c' = g.transform c := by
    rw [transform, transform, hs]
    exact List.map_congr_left fun d hd => g.refine_congr (h d hd)
  rw [run, run, ht]
  refine congrArg _ (List.map_congr_left ?_)
  -- Each definition of a module was selected or nested, and lost no more than edges since.
  rintro ⟨module, ds⟩ hm
  refine congrArg _ (moduleText_congr g.settings module fun d hd => ?_)
  obtain ⟨r, hr, e, he, rfl⟩ := g.exists_of_mem_modules c hm hd
  exact (h r hr e he).of_subset (g.refine_parents_subset c e)

end Ambient

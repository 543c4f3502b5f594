/-
What a run may change of a definition.

A definition that comes out of a run is one of the catalogue with further methods
and documentation, and with fewer references.  Here this is said without mention of
how it is done:

* `Method.Redocumented` — a method that is the same but for documentation that it lacks;
* `Definition.Completed` — a definition that is the same but for this, for references
  and for methods of its ancestors, and likewise everything inside it;
* `Generator.completed_refine` — a refined definition is of this kind;
* `Generator.transform_completed` — so are all that come out of a run, which reads four
  of its settings.
-/
import Ambient.Proofs.ForcedDocs
import Ambient.Proofs.InputOrder

namespace Ambient

/-! ### What may change -/

/-- The same method, but with forced documentation where it has none. -/
structure Method.Redocumented (s : Settings) (m m' : Method) : Prop where
  same : m' = { m with doc := m'.doc }
  doc : m'.doc = m.doc ∨ s.forcesDocs = true ∧ m.lacksDoc = true

/-- Some of the references, and all of them unless definitions are flattened. -/
structure Settings.Cuts (s : Settings) (ts ts' : List TypeExpr) : Prop where
  sublist : ts'.Sublist ts
  eq : s.flattens = false → ts' = ts

/-- What a definition says of itself is the same. -/
structure Definition.SameHead (d d' : Definition) : Prop where
  kind : d'.kind = d.kind
  type : d'.type = d.type
  doc : d'.doc = d.doc
  isPublic : d'.isPublic = d.isPublic
  isStatic : d'.isStatic = d.isStatic

/-- A method of an ancestor, but for documentation. -/
def Catalogue.Lends (c : Catalogue) (s : Settings) (d : Definition) (m : Method) : Prop :=
  m.kind ≠ .constructor ∧ ∃ a, c.Inherits d a ∧ ∃ o ∈ a.methods, o.Redocumented s m

mutual

/-- The one definition is the other with all that it may get from its ancestors. -/
inductive Definition.Completed (s : Settings) (c : Catalogue) : Definition → Definition → Prop
  | intro {d d' : Definition} {kept : List Member} {copies : List Method}
      (head : d.SameHead d')
      (superTypes : s.Cuts d.superTypes d'.superTypes)
      (interfaces : s.Cuts d.interfaces d'.interfaces)
      (members : d'.members = kept ++ copies.map .method)
      (hkept : List.Forall₂ (Member.Kept s c) d.members kept)
      (hcopies : ∀ m ∈ copies, c.Lends s d m) : Definition.Completed s c d d'

/-- The one member is what the other may become. -/
inductive Member.Kept (s : Settings) (c : Catalogue) : Member → Member → Prop
  | method {m m' : Method} (h : m.Redocumented s m') : Member.Kept s c (.method m) (.method m')
  | field (f : Field) : Member.Kept s c (.field f) (.field f)
  | nested {d d' : Definition} (h : Definition.Completed s c d d') :
      Member.Kept s c (.nested d) (.nested d')

end

/-! ### Documentation -/

namespace Method

variable {s : Settings} {m m' m'' : Method}

theorem Redocumented.refl (s : Settings) (m : Method) : m.Redocumented s m :=
  ⟨rfl, .inl rfl⟩

theorem Redocumented.kind (h : m.Redocumented s m') : m'.kind = m.kind := by
  rw [h.same]

/-- Documentation is only forced on methods that lack it. -/
theorem redocumented_withDocOf (hs : s.forcesDocs = true) (inherited : List Method) :
    m.Redocumented s (m.withDocOf inherited) := by
  refine ⟨withDocOf_same, ?_⟩
  cases h : m.lacksDoc with
  | true => exact .inr ⟨hs, rfl⟩
  | false => exact .inl (congrArg Method.doc (withDocOf_of_lacksDoc h))

end Method

/-! ### Completing definitions -/

namespace Generator

variable (g : Generator) (c : Catalogue) (d : Definition)

/-- Completing a definition is to give it its copies, and then to document its methods in
some way. -/
theorem exists_complete_eq :
    ∃ φ : Method → Method, (∀ m : Method, m.Redocumented g.settings (φ m)) ∧
      g.complete c d =
        { g.inheriting c d with
          members := (g.inheriting c d).members.map (Member.mapMethod φ) } := by
  rw [complete_eq]
  split
  next hs => exact ⟨_, fun m => Method.redocumented_withDocOf hs _, rfl⟩
  · refine ⟨id, .refl g.settings, ?_⟩
    have hid : Member.mapMethod id = id := by
      funext m
      cases m <;> rfl
    rw [hid, List.map_id]
    cases g.inheriting c d
    rfl

theorem cuts_edgesLeft (ts : List TypeExpr) : g.settings.Cuts ts (g.edgesLeft c d ts) := by
  unfold edgesLeft
  split
  next hs => exact ⟨List.filter_sublist, fun h => absurd (hs.symm.trans h) (by decide)⟩
  · exact ⟨.refl ts, fun _ => rfl⟩

/-- Ancestors lend what is copied. -/
theorem lends_of_mem_copies {m m' : Method} (hm : m ∈ g.copies c d)
    (h : m.Redocumented g.settings m') : c.Lends g.settings d m' := by
  obtain ⟨a, ha, hma, hkind⟩ := c.mem_inheritedMethods_iff.mp (mem_of_mem_selectNew hm).1
  exact ⟨h.kind ▸ hkind, a, ha, m, hma, h⟩

theorem completed_refine : Definition.Completed g.settings c d (g.refine c d) := by
  induction d using Definition.nesting_induction with
  | step d ih =>
    obtain ⟨φ, hφ, heq⟩ := g.exists_complete_eq c (g.withRefined c d)
    rw [refine_eq_complete, heq, inheriting_eq, copies_withRefined]
    -- A member is refined if it is a definition and documented if it is a method.
    have hkept : List.Forall₂ (Member.Kept g.settings c) d.members
        ((g.withRefined c d).members.map (Member.mapMethod φ)) := by
      rw [withRefined, List.map_map, List.forall₂_map_right_iff, List.forall₂_same]
      intro m hm
      cases m with
      | method m => exact .method (hφ m)
      | field f => exact .field f
      | nested e => exact .nested (ih e (Definition.mem_nested_iff.mpr hm))
    have hcopies : ∀ m ∈ (g.copies c d).map φ, c.Lends g.settings d m := by
      intro m hm
      obtain ⟨o, ho, rfl⟩ := List.mem_map.mp hm
      exact g.lends_of_mem_copies c d ho (hφ o)
    refine .intro ⟨rfl, rfl, rfl, rfl, rfl⟩ (g.cuts_edgesLeft c _ d.superTypes)
      (g.cuts_edgesLeft c _ d.interfaces) ?_ hkept hcopies
    rw [List.map_append, List.map_map, List.map_map]
    rfl

/-! ### Settings -/

variable {g} {g' : Generator}

/-- What a definition is completed with depends on the whitelist and two of the settings. -/
theorem complete_congr_settings (hw : g'.whitelist = g.whitelist)
    (hflat : g'.settings.flattens = g.settings.flattens)
    (hdocs : g'.settings.forcesDocs = g.settings.forcesDocs) :
    g'.complete c = g.complete c := by
  funext d
  rw [complete, complete, hw, hflat, hdocs]

theorem transform_congr_settings (hw : g'.whitelist = g.whitelist)
    (hroots : g'.settings.rootTypes = g.settings.rootTypes)
    (hflat : g'.settings.flattens = g.settings.flattens)
    (hdocs : g'.settings.forcesDocs = g.settings.forcesDocs) :
    g'.transform c = g.transform c := by
  have hcomplete := complete_congr_settings c hw hflat hdocs
  have hrefine : ∀ d, g'.refine c d = g.refine c d := by
    intro d
    induction d using Definition.nesting_induction with
    | step d ih =>
      have hmembers : d.members.map (Member.mapNested (g'.refine c)) =
          d.members.map (Member.mapNested (g.refine c)) := by
        refine List.map_congr_left fun m hm => ?_
        cases m with
        | method m => rfl
        | field f => rfl
        | nested e => exact congrArg Member.nested (ih e (Definition.mem_nested_iff.mpr hm))
      rw [refine_eq, refine_eq, hmembers, hcomplete]
  have hselects : g'.selects c = g.selects c := by
    funext d
    rw [selects, selects, hroots]
  rw [transform_eq, transform_eq, hselects, funext hrefine]

/-- **A run changes only what it may**: the selected definitions come out in the order of
the catalogue, each completed from its ancestors and otherwise as it was.  Whichever way
the remaining settings are, the same definitions come out. -/
theorem transform_completed :
    (∀ (g : Generator) (c : Catalogue),
      List.Forall₂ (Definition.Completed g.settings c) (c.roots.filter (g.selects c))
        (g.transform c)) ∧
    ∀ s s' : Settings, s'.whitelist = s.whitelist → s'.rootTypes = s.rootTypes →
      s'.flattens = s.flattens → s'.forcesDocs = s.forcesDocs → ∀ c : Catalogue,
        (ofSettings s').map (·.transform c) = (ofSettings s).map (·.transform c) := by
  constructor
  · intro g c
    rw [transform_eq, List.forall₂_map_right_iff, List.forall₂_same]
    exact fun d _ => g.completed_refine c d
  · intro s s' hw hroots hflat hdocs c
    rw [ofSettings, ofSettings, hw]
    cases Whitelist.ofList s.whitelist with
    | error e => rfl
    | ok w => exact congrArg Except.ok (transform_congr_settings c rfl hroots hflat hdocs)

/-- The heir and the founder come out, and are the same whether or not there are accessors. -/
theorem transform_completed_family :
    let s : Settings := { flattens := true, whitelist := ["a\\.Heir\\.work"] }
    let plain : Settings := { s with usesAccessors := false, excluded := ["work"] }
    List.Forall₂ (Definition.Completed s Definition.family) [Definition.heir, Definition.founder]
        (transform ⟨s, Definition.worker⟩ Definition.family) ∧
      (ofSettings plain).map (·.transform Definition.family) =
        (ofSettings s).map (·.transform Definition.family) := by
  intro s plain
  exact ⟨transform_completed.1 ⟨s, Definition.worker⟩ Definition.family,
    transform_completed.2 s plain rfl rfl rfl rfl Definition.family⟩

end Generator

end Ambient

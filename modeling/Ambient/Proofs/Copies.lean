/-
What completing adds to a definition.

Copying overloads and flattening are two uses of one step: a definition takes
copies of those inherited methods that it is offered and does not have.  This
file brings both into that form:

* `Generator.offers` — whether an inherited method may be copied;
* `Generator.copies` — the methods that are copied;
* `Generator.inheriting_eq` — a definition with its copies, and with the edges
  that are left;
* `Generator.complete_eq` — completing is this and then, if it is asked
  for, copying documentation.
-/
import Ambient.Generator
import Ambient.Proofs.Refinement
import Ambient.Proofs.Selection

namespace Ambient

namespace Generator

variable (g : Generator) (c : Catalogue) (d : Definition)

/-- Whether the definition may take a copy of an inherited method: the whitelist
allows it and, unless all methods are copied, the definition has a member of the
same name. -/
def offers (d : Definition) (m : Method) : Bool :=
  g.whitelist.allows d.name m.name && (g.settings.flattens || d.hasMember m.name)

/-- The inherited methods that the definition may take copies of. -/
def offered : List Method :=
  (c.inheritedMethods d).filter (g.offers d)

/-- The methods that the definition takes copies of. -/
def copies : List Method :=
  selectNew (g.offers d) d.signatures (c.inheritedMethods d)

/-- The edges that are left: all, or those to unknown types. -/
def edgesLeft (ts : List TypeExpr) : List TypeExpr :=
  if g.settings.flattens then ts.filter fun t => t.name ∉ (c.ancestors d).map Definition.name
  else ts

/-- The definition with what it inherits, before documentation is copied. -/
def inheriting : Definition :=
  if g.settings.flattens then d.flattened c g.whitelist else d.withOverloads c g.whitelist

theorem complete_eq :
    g.complete c d =
      if g.settings.forcesDocs then (g.inheriting c d).withForcedDocs c else g.inheriting c d :=
  rfl

/-- Flattening and copying overloads in one form. -/
theorem inheriting_eq :
    g.inheriting c d =
      { d with
        members := d.members ++ (g.copies c d).map .method
        superTypes := g.edgesLeft c d d.superTypes
        interfaces := g.edgesLeft c d d.interfaces } := by
  cases hf : g.settings.flattens with
  | true =>
    have hoffers : g.offers d = fun m => g.whitelist.allows d.name m.name := by
      funext m
      simp [offers, hf]
    simp only [inheriting, copies, edgesLeft, hf, hoffers, if_true]
    rfl
  | false =>
    have hoffers : g.offers d =
        fun m => g.whitelist.allows d.name m.name && d.hasMember m.name := by
      funext m
      simp [offers, hf]
    simp only [inheriting, copies, edgesLeft, hf, hoffers, Bool.false_eq_true, if_false,
      Definition.withOverloads, Definition.withCopies, selectNew_filter]

theorem methods_inheriting : (g.inheriting c d).methods = d.methods ++ g.copies c d := by
  rw [inheriting_eq]
  exact Definition.filterMap_method?_append d.members (g.copies c d)

/-- A definition that takes no copies and keeps its edges stays as it is. -/
theorem inheriting_eq_self {d : Definition} (hcopies : g.copies c d = [])
    (hsuper : g.edgesLeft c d d.superTypes = d.superTypes)
    (hinterfaces : g.edgesLeft c d d.interfaces = d.interfaces) : g.inheriting c d = d := by
  rw [inheriting_eq, hcopies, hsuper, hinterfaces, List.map_nil, List.append_nil]
  cases d
  rfl

/-- The definition with those nested in it completed. -/
def withRefined : Definition :=
  { d with members := d.members.map (Member.mapNested (g.refine c)) }

theorem refine_eq_complete : g.refine c d = g.complete c (g.withRefined c d) :=
  g.refine_eq c d

/-- If all that is nested is complete, completing it changes nothing. -/
theorem withRefined_eq_self {d : Definition} (h : ∀ e ∈ d.nested, g.refine c e = e) :
    g.withRefined c d = d := by
  have hmembers : d.members.map (Member.mapNested (g.refine c)) = d.members := by
    refine (List.map_congr_left fun m hm => ?_).trans (List.map_id d.members)
    cases m with
    | method m => rfl
    | field f => rfl
    | nested e => exact congrArg Member.nested (h e (Definition.mem_nested_iff.mpr hm))
  rw [withRefined, hmembers]
  cases d
  rfl

/-! Completing what is nested changes nothing that the definition itself is
completed from. -/

theorem methods_withRefined : (g.withRefined c d).methods = d.methods := by
  rw [Definition.methods, withRefined, List.filterMap_map, Definition.methods]
  refine List.filterMap_congr fun m _ => ?_
  cases m <;> rfl

theorem hasMember_withRefined (name : String) :
    (g.withRefined c d).hasMember name = d.hasMember name := by
  rw [Definition.hasMember, withRefined, List.any_map, Definition.hasMember]
  refine congrArg (d.members.any ·) (funext fun m => ?_)
  cases m with
  | method m => rfl
  | field f => rfl
  | nested e =>
    have hs : (g.refine c e).simpleName = e.simpleName :=
      congrArg TypeExpr.simpleName (g.refine_type c e)
    show decide ((g.refine c e).simpleName = name) = decide (e.simpleName = name)
    rw [hs]

theorem offers_withRefined : g.offers (g.withRefined c d) = g.offers d := by
  funext m
  rw [offers, offers, hasMember_withRefined]
  rfl

theorem copies_withRefined : g.copies c (g.withRefined c d) = g.copies c d := by
  rw [copies, copies, offers_withRefined, Definition.signatures, methods_withRefined]
  rfl

/-- Without forced documentation a completed definition has its own methods and
the copies. -/
theorem methods_refine (hf : g.settings.forcesDocs = false) :
    (g.refine c d).methods = d.methods ++ g.copies c d := by
  rw [refine_eq_complete, complete_eq, hf]
  show (g.inheriting c (g.withRefined c d)).methods = _
  rw [methods_inheriting, methods_withRefined, copies_withRefined]

theorem ancestors_inheriting_withRefined :
    c.ancestors (g.inheriting c (g.withRefined c d)) = c.ancestors (g.inheriting c d) := by
  rw [inheriting_eq, inheriting_eq]
  rfl

end Generator

end Ambient

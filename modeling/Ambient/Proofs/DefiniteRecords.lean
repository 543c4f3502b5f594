/-
Models without optional types.

* `Record.TypeUse.definite`, `Record.Model.definite` — types and models in which
  nothing is resolved as optional, but for types that are inherited from as optional
  ones;
* `Record.TypeUse.rank` — the dimensions of an array, together with those of the
  arrays that it is an array of;
* `Record.Model.arrayTotals` — these, for every array in a model;
* `Record.Model.definitions_definite` — the definitions of such a model are the
  definite ones, as long as these numbers can be counted.
-/
import Ambient.Proofs.DefiniteForm
import Ambient.Record.Resolve

namespace Ambient

/-! ### Resolved types -/

namespace Record

open TypeExpr (maxDimensions)

namespace TypeUse

mutual

/-- The type without optional types in it. -/
def definite : TypeUse → TypeUse
  | .primitive type => .primitive type
  | .reference name args => .reference name (definiteAll args)
  | .array component n => .array component.definite n
  | .wildcard upper lower => .wildcard (definite? upper) (definite? lower)
  | .variable name => .variable name
  | .nullable inner => inner.definite

/-- Several types without optional types in them. -/
def definiteAll : List TypeUse → List TypeUse
  | [] => []
  | t :: ts => t.definite :: definiteAll ts

/-- A bound without optional types in it. -/
def definite? : Option TypeUse → Option TypeUse
  | some t => some t.definite
  | none => none

end

/-- The type without optional types in it, unless it is one as a whole. -/
def definiteInside : TypeUse → TypeUse
  | .nullable inner => .nullable inner.definite
  | t => t.definite

/-- How many dimensions an array has, together with those of what it is an array of. -/
def rank : TypeUse → Nat
  | .array component n => max n 1 + component.rank
  | .nullable inner => inner.rank
  | _ => 0

mutual

/-- The dimensions of each array in the type. -/
def arrayTotals : TypeUse → List Nat
  | .primitive _ => []
  | .reference _ args => arrayTotalsAll args
  | .array component n => (max n 1 + component.rank) :: component.arrayTotals
  | .wildcard upper lower => arrayTotals? upper ++ arrayTotals? lower
  | .variable _ => []
  | .nullable inner => inner.arrayTotals

/-- The dimensions of each array in several types. -/
def arrayTotalsAll : List TypeUse → List Nat
  | [] => []
  | t :: ts => t.arrayTotals ++ arrayTotalsAll ts

/-- The dimensions of each array in a bound. -/
def arrayTotals? : Option TypeUse → List Nat
  | some t => t.arrayTotals
  | none => []

end

/-- The dimensions of its arrays can be counted. -/
def Counted (t : TypeUse) : Prop :=
  ∀ n ∈ t.arrayTotals, n ≤ maxDimensions

/-- An array has no more dimensions than it was given. -/
theorem dimensions_le_rank : (t : TypeUse) → t.Counted → t.toTypeExpr.definite.dimensions ≤ t.rank
  | .primitive _, _ => Nat.zero_le _
  | .reference name args, _ => by
    rw [toTypeExpr, TypeExpr.instantiate]
    split <;> exact Nat.zero_le _
  | .array component n, h => by
    -- The definite type is one array where optional types have kept several apart.
    have htotal : max n 1 + component.rank ≤ maxDimensions := h _ List.mem_cons_self
    have hcomponent := dimensions_le_rank component fun m hm => h m (List.mem_cons_of_mem _ hm)
    have hle := TypeExpr.dimensions_arrayOf_le component.toTypeExpr.definite n
    rw [toTypeExpr, TypeExpr.definite_arrayOf (by omega), rank]
    omega
  | .wildcard (some _) none, _ => Nat.zero_le _
  | .wildcard none _, _ => Nat.zero_le _
  | .wildcard (some _) (some _), _ => Nat.zero_le _
  | .variable _, _ => Nat.zero_le _
  | .nullable inner, h => by
    rw [toTypeExpr, TypeExpr.definite_optional, rank]
    exact dimensions_le_rank inner h

mutual

theorem toTypeExpr_definite : (t : TypeUse) → t.Counted →
    t.definite.toTypeExpr = t.toTypeExpr.definite
  | .primitive _, _ => rfl
  | .reference name args, h => by
    rw [definite, toTypeExpr, toTypeExprs_definite args h, toTypeExpr]
    cases toTypeExprs args <;> rfl
  | .array component n, h => by
    have htotal : max n 1 + component.rank ≤ maxDimensions := h _ List.mem_cons_self
    have hcounted : component.Counted := fun m hm => h m (List.mem_cons_of_mem _ hm)
    -- No dimension is lost on either side, so it does not matter when they are added up.
    have hdimensions := dimensions_le_rank component hcounted
    rw [definite, toTypeExpr, toTypeExpr_definite component hcounted, toTypeExpr,
      TypeExpr.definite_arrayOf (by omega)]
  | .wildcard (some upper) none, h => by
    have hupper : upper.Counted := fun n hn => h n (List.mem_append_left _ hn)
    exact congrArg TypeExpr.wildcard (toTypeExpr_definite upper hupper)
  | .wildcard none _, _ => rfl
  | .wildcard (some _) (some _), _ => rfl
  | .variable _, _ => rfl
  | .nullable inner, h => by
    rw [definite, toTypeExpr_definite inner h, toTypeExpr, TypeExpr.definite_optional]

theorem toTypeExprs_definite : (ts : List TypeUse) → (∀ n ∈ arrayTotalsAll ts, n ≤ maxDimensions) →
    toTypeExprs (definiteAll ts) = TypeExpr.definiteAll (toTypeExprs ts)
  | [], _ => rfl
  | t :: ts, h => by
    have ht : t.Counted := fun n hn => h n (List.mem_append_left _ hn)
    have hts := toTypeExprs_definite ts fun n hn => h n (List.mem_append_right _ hn)
    rw [definiteAll, toTypeExprs, toTypeExpr_definite t ht, hts, toTypeExprs,
      TypeExpr.definiteAll]

end

/-- With no optional type between them, two arrays are resolved as one. -/
example : (TypeUse.array (.nullable (.array (.variable "T") 1)) 0).definite.toTypeExpr =
    .array (.simple "T") 2 :=
  rfl

theorem toTypeExpr_ne_nullable {t : TypeUse} (h : ∀ inner, t ≠ .nullable inner)
    (inner : TypeExpr) : t.toTypeExpr ≠ .nullable inner := by
  cases t with
  | primitive type => nofun
  | reference name args =>
    rw [toTypeExpr, TypeExpr.instantiate]
    split <;> nofun
  | array component n =>
    rw [toTypeExpr]
    cases component.toTypeExpr <;> nofun
  | wildcard upper lower => cases upper <;> cases lower <;> nofun
  | «variable» name => nofun
  | nullable other => exact absurd rfl (h other)

theorem toTypeExpr_definiteInside {t : TypeUse} (h : t.Counted) :
    t.definiteInside.toTypeExpr = t.toTypeExpr.definiteInside := by
  cases t with
  | nullable inner =>
    have hinner : inner.Counted := h
    rw [definiteInside, toTypeExpr, toTypeExpr_definite inner hinner, TypeExpr.optional_definite,
      toTypeExpr, TypeExpr.definiteInside_optional]
  | _ =>
    refine (toTypeExpr_definite _ h).trans (TypeExpr.definiteInside_of_ne ?_).symm
    exact toTypeExpr_ne_nullable nofun

end TypeUse

/-- The parameter with a definite bound. -/
def TypeParam.definite (p : TypeParam) : TypeParam :=
  { p with bound := TypeUse.definite? p.bound }

/-- The parameter with a definite type. -/
def Param.definite (p : Param) : Param :=
  { p with type := p.type.definite }

/-- The method with definite types. -/
def Method.definite (m : Method) : Method :=
  { m with
    returnType := TypeUse.definite? m.returnType
    params := m.params.map Param.definite
    typeParams := m.typeParams.map TypeParam.definite }

/-- The field with a definite type. -/
def Field.definite (f : Field) : Field :=
  { f with type := f.type.definite }

mutual

/-- The type with definite types in its declaration and in its members. -/
def TypeDecl.definite : TypeDecl → TypeDecl
  | ⟨name, kind, typeParams, superTypes, interfaces, members, doc, isPublic, isStatic⟩ =>
    ⟨name, kind, typeParams.map TypeParam.definite, superTypes.map TypeUse.definiteInside,
      interfaces.map TypeUse.definiteInside, definiteAmong members, doc, isPublic, isStatic⟩

/-- Members with definite types. -/
def definiteAmong : List Member → List Member
  | [] => []
  | .method kind m :: members => .method kind m.definite :: definiteAmong members
  | .field f :: members => .field f.definite :: definiteAmong members
  | .nested type :: members => .nested type.definite :: definiteAmong members

end

/-- **The model without optional types**, but for types that are inherited from as
optional ones. -/
def Model.definite (m : Model) : Model where
  types := m.types.map TypeDecl.definite

/-! ### Types in a model -/

/-- The types that a method is declared with. -/
def Method.uses (m : Method) : List TypeUse :=
  m.returnType.toList ++ m.params.map (·.type) ++ m.typeParams.filterMap (·.bound)

mutual

/-- The types in a declaration, nested ones included. -/
def TypeDecl.uses : TypeDecl → List TypeUse
  | ⟨_, _, typeParams, superTypes, interfaces, members, _, _, _⟩ =>
    typeParams.filterMap (·.bound) ++ superTypes ++ interfaces ++ usesAmong members

/-- The types in several members. -/
def usesAmong : List Member → List TypeUse
  | [] => []
  | .method _ m :: members => m.uses ++ usesAmong members
  | .field f :: members => f.type :: usesAmong members
  | .nested type :: members => type.uses ++ usesAmong members

end

/-- The dimensions of each array in the model. -/
def Model.arrayTotals (m : Model) : List Nat :=
  (m.types.flatMap TypeDecl.uses).flatMap TypeUse.arrayTotals

/-! ### Definitions of a model -/

theorem TypeParam.toTypeExpr_definite {p : TypeParam} (h : ∀ t ∈ p.bound, t.Counted) :
    p.definite.toTypeExpr = p.toTypeExpr.definiteInside := by
  obtain ⟨name, bound⟩ := p
  cases bound with
  | none => rfl
  | some bound =>
    have hbound := TypeUse.toTypeExpr_definite bound (h bound rfl)
    exact congrArg (fun b => TypeExpr.generic (.named name) [b]) hbound

theorem Method.toMethod_definite {m : Method} (h : ∀ t ∈ m.uses, t.Counted) (kind : MethodKind)
    (owner : String) : m.definite.toMethod kind owner = (m.toMethod kind owner).definite := by
  have hdeclared : m.definite.declaredAs kind = m.declaredAs kind := by cases kind <;> rfl
  have hreturn : (m.definite.returnType.map TypeUse.toTypeExpr).getD TypeExpr.void =
      ((m.returnType.map TypeUse.toTypeExpr).getD TypeExpr.void).definite := by
    cases hr : m.returnType with
    | none => simp [definite, hr, TypeUse.definite?, TypeExpr.void, TypeExpr.definite]
    | some t =>
      have ht : t.Counted := h t (by simp [uses, hr])
      simp [definite, hr, TypeUse.definite?, TypeUse.toTypeExpr_definite t ht]
  have hparams : m.definite.params.map Param.toParameter =
      (m.params.map Param.toParameter).map Parameter.definite := by
    simp only [definite, List.map_map]
    refine List.map_congr_left fun p hp => ?_
    have ht : p.type.Counted :=
      h p.type (List.mem_append_left _ (List.mem_append_right _ (List.mem_map_of_mem hp)))
    simp only [Function.comp_apply, Param.toParameter, Param.definite, Parameter.definite,
      TypeUse.toTypeExpr_definite p.type ht]
  have htypeParams : m.definite.typeParams.map TypeParam.toTypeExpr =
      (m.typeParams.map TypeParam.toTypeExpr).map TypeExpr.definiteInside := by
    simp only [definite, List.map_map]
    refine List.map_congr_left fun p hp => TypeParam.toTypeExpr_definite fun t ht => ?_
    exact h t (List.mem_append_right _ (List.mem_filterMap.mpr ⟨p, hp, ht⟩))
  simp only [toMethod, hdeclared, hreturn, hparams, htypeParams, Ambient.Method.definite]
  split <;> rfl

mutual

theorem TypeDecl.toDefinition_definite : (t : TypeDecl) → (∀ u ∈ t.uses, u.Counted) →
    t.definite.toDefinition = t.toDefinition.definite
  | ⟨name, kind, typeParams, superTypes, interfaces, members, doc, isPublic, isStatic⟩, h => by
    simp only [TypeDecl.uses, List.forall_mem_append] at h
    obtain ⟨⟨⟨hbounds, hsuperTypes⟩, hinterfaces⟩, hmembers⟩ := h
    have hparams : (typeParams.map TypeParam.definite).map TypeParam.toTypeExpr =
        (typeParams.map TypeParam.toTypeExpr).map TypeExpr.definiteInside := by
      rw [List.map_map, List.map_map]
      refine List.map_congr_left fun p hp => TypeParam.toTypeExpr_definite fun u hu => ?_
      exact hbounds u (List.mem_filterMap.mpr ⟨p, hp, hu⟩)
    have hparents : ∀ ts : List TypeUse, (∀ u ∈ ts, u.Counted) →
        (ts.map TypeUse.definiteInside).map TypeUse.toTypeExpr =
          (ts.map TypeUse.toTypeExpr).map TypeExpr.definiteInside := by
      intro ts hts
      rw [List.map_map, List.map_map]
      exact List.map_congr_left fun u hu => TypeUse.toTypeExpr_definiteInside (hts u hu)
    rw [TypeDecl.definite, TypeDecl.toDefinition, TypeDecl.toDefinition, Definition.definite,
      hparams, hparents superTypes hsuperTypes, hparents interfaces hinterfaces,
      toMembers_definiteAmong name members hmembers, TypeExpr.definiteArgs_instantiate]

theorem toMembers_definiteAmong (owner : String) :
    (ms : List Member) → (∀ u ∈ usesAmong ms, u.Counted) →
      Member.toMembers owner (definiteAmong ms) =
        Definition.definiteAmong (Member.toMembers owner ms)
  | [], _ => rfl
  | .method kind m :: ms, h => by
    obtain ⟨hm, hms⟩ := List.forall_mem_append.mp h
    simp only [definiteAmong, Member.toMembers, Member.toMember, Definition.definiteAmong,
      m.toMethod_definite hm, toMembers_definiteAmong owner ms hms]
  | .field f :: ms, h => by
    obtain ⟨hf, hms⟩ := List.forall_mem_cons.mp h
    simp only [definiteAmong, Member.toMembers, Member.toMember, Definition.definiteAmong,
      Field.toField, Field.definite, Ambient.Field.definite, TypeUse.toTypeExpr_definite f.type hf,
      toMembers_definiteAmong owner ms hms]
  | .nested t :: ms, h => by
    obtain ⟨ht, hms⟩ := List.forall_mem_append.mp h
    simp only [definiteAmong, Member.toMembers, Member.toMember, Definition.definiteAmong,
      t.toDefinition_definite ht, toMembers_definiteAmong owner ms hms]

end

/-- **Resolving no type as optional** makes the definitions definite and changes
nothing else about them, as long as the dimensions of arrays can be counted. -/
theorem Model.definitions_definite {m : Model} (h : ∀ n ∈ m.arrayTotals, n ≤ maxDimensions) :
    m.definite.definitions = m.definitions.map Definition.definite := by
  rw [definitions, definitions, definite, List.map_map, List.map_map]
  refine List.map_congr_left fun t ht => t.toDefinition_definite fun u hu n hn => h n ?_
  exact List.mem_flatMap.mpr ⟨u, List.mem_flatMap.mpr ⟨t, ht, hu⟩, hn⟩

end Record

end Ambient

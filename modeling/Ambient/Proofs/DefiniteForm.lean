/-
Declarations without optional types.

* `Definition.definite` — all types of a definition made definite, those of nested
  definitions as well; a type that is inherited from may stay optional as a whole;
* `signature_definite`, `simpleNames_mentions_definite` — overloads are told apart
  and names are mentioned as before;
* `Catalogue.lineage_definite`, `ancestors_definite` — the same is inherited from.
-/
import Ambient.Proofs.DefiniteTypes
import Ambient.Proofs.ImageRuns
import Ambient.Proofs.UsedNames

namespace Ambient

/-! ### Methods and fields -/

/-- The parameter with a definite type. -/
def Parameter.definite (p : Parameter) : Parameter :=
  { p with type := p.type.definite }

namespace Method

/-- The method with definite types. -/
def definite (m : Method) : Method :=
  { m with
    returnType := m.returnType.definite
    params := m.params.map Parameter.definite
    typeParams := m.typeParams.map TypeExpr.definiteInside }

variable (m : Method)

/-- Overloads are told by erasures, which definite types keep. -/
@[simp]
theorem signature_definite : m.definite.signature = m.signature := by
  have herasure : ∀ p : Parameter, p.definite.type.erasure = p.type.erasure :=
    fun p => p.type.erasure_definite
  simp [signature, definite, herasure, Function.comp_def]

theorem definite_toPlain : m.toPlain.definite = m.definite.toPlain := by
  unfold toPlain
  split
  next h => rw [if_pos (show m.definite.isAccessor from h)]; rfl
  next h => rw [if_neg (show ¬m.definite.isAccessor from h)]

theorem simpleNames_types_definite :
    Catalogue.simpleNames (m.definite.types.flatMap TypeExpr.mentions) =
      Catalogue.simpleNames (m.types.flatMap TypeExpr.mentions) := by
  simp [types, definite, TypeExpr.simpleNames_append, TypeExpr.simpleNames_flatMap,
    List.flatMap_map, Parameter.definite]

end Method

/-- The field with a definite type. -/
def Field.definite (f : Field) : Field :=
  { f with type := f.type.definite }

/-! ### Definitions -/

namespace Definition

mutual

/-- The definition with definite types. -/
def definite : Definition → Definition
  | ⟨kind, type, superTypes, interfaces, members, doc, isPublic, isStatic⟩ =>
    ⟨kind, type.definiteArgs, superTypes.map TypeExpr.definiteInside,
      interfaces.map TypeExpr.definiteInside, definiteAmong members, doc, isPublic, isStatic⟩

/-- Members with definite types. -/
def definiteAmong : List Member → List Member
  | [] => []
  | .method m :: members => .method m.definite :: definiteAmong members
  | .field f :: members => .field f.definite :: definiteAmong members
  | .nested d :: members => .nested d.definite :: definiteAmong members

end

end Definition

/-- The member with definite types. -/
def Member.definite : Member → Member
  | .method m => .method m.definite
  | .field f => .field f.definite
  | .nested d => .nested d.definite

namespace Definition

variable (d : Definition)

theorem definiteAmong_eq_map (ms : List Member) : definiteAmong ms = ms.map Member.definite := by
  induction ms with
  | nil => rfl
  | cons m ms ih => cases m <;> simp [definiteAmong, Member.definite, ih]

theorem definite_eq :
    d.definite = { d with
      type := d.type.definiteArgs
      superTypes := d.superTypes.map TypeExpr.definiteInside
      interfaces := d.interfaces.map TypeExpr.definiteInside
      members := d.members.map Member.definite } := by
  cases d
  rw [definite, definiteAmong_eq_map]

@[simp]
theorem kind_definite : d.definite.kind = d.kind := by rw [definite_eq]

@[simp]
theorem type_definite : d.definite.type = d.type.definiteArgs := by rw [definite_eq]

@[simp]
theorem superTypes_definite : d.definite.superTypes = d.superTypes.map TypeExpr.definiteInside := by
  rw [definite_eq]

@[simp]
theorem interfaces_definite : d.definite.interfaces = d.interfaces.map TypeExpr.definiteInside := by
  rw [definite_eq]

@[simp]
theorem members_definite : d.definite.members = d.members.map Member.definite := by
  rw [definite_eq]

@[simp]
theorem doc_definite : d.definite.doc = d.doc := by rw [definite_eq]

@[simp]
theorem name_definite : d.definite.name = d.name := by simp [name]

@[simp]
theorem simpleName_definite : d.definite.simpleName = d.simpleName :=
  congrArg QualifiedName.simple d.name_definite

@[simp]
theorem parents_definite : d.definite.parents = d.parents.map TypeExpr.definiteInside := by
  simp [parents]

@[simp]
theorem methods_definite : d.definite.methods = d.methods.map Method.definite := by
  rw [methods, members_definite]
  refine filterMap_map_comm fun m _ => ?_
  cases m <;> rfl

@[simp]
theorem nested_definite : d.definite.nested = d.nested.map definite := by
  rw [nested, members_definite]
  refine filterMap_map_comm fun m _ => ?_
  cases m <;> rfl

theorem keepsNesting_definite : KeepsNesting definite where
  name := name_definite
  nested := nested_definite

theorem isBuiltin_definite : d.definite.type.isBuiltin = d.type.isBuiltin := by simp

open Catalogue (simpleNames) in
open TypeExpr in
/-- Definite types mention the same names. -/
theorem simpleNames_mentions_definite :
    simpleNames d.definite.mentions = simpleNames d.mentions := by
  induction d using nesting_induction with
  | step d ih =>
    have hmember : ∀ m ∈ d.members, simpleNames (memberMentions m.definite) =
        simpleNames (memberMentions m) := by
      intro m hm
      cases m with
      | method m => exact m.simpleNames_types_definite
      | field f => exact f.type.simpleNames_definite
      | nested e => exact ih e (mem_nested_iff.mpr hm)
    simp only [mentions_eq, simpleNames_append, simpleNames_flatMap, type_definite,
      simpleNames_definiteArgs, parents_definite, members_definite, List.flatMap_map,
      simpleNames_definiteInside]
    rw [List.flatMap_congr hmember]

end Definition

/-! ### Catalogues -/

namespace Catalogue

variable (c : Catalogue)

theorem visit_heritage_definite (ts : List TypeExpr) (seen : List String) :
    (c.map Definition.definite).heritage.visit (ts.map TypeExpr.definiteInside) seen =
      (c.heritage.visit ts seen).map Definition.definite :=
  visit_heritage_image Definition.name_definite c TypeExpr.name_definiteInside
    Definition.parents_definite ts seen

theorem lineage_definite (ts : List TypeExpr) :
    (c.map Definition.definite).lineage (ts.map TypeExpr.definiteInside) =
      (c.lineage ts).map Definition.definite :=
  c.visit_heritage_definite ts []

theorem ancestors_definite (d : Definition) :
    (c.map Definition.definite).ancestors d.definite = (c.ancestors d).map Definition.definite := by
  rw [ancestors, d.parents_definite, d.name_definite]
  exact c.visit_heritage_definite d.parents [d.name]

end Catalogue

end Ambient

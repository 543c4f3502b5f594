/-
Declarations without accessors.

`Method.toPlain` makes of an accessor the method that it stands for.  This file
does the same to everything that holds methods, and shows that the facts that a
run starts from stay as they are:

* `Definition.toPlain`, `Catalogue.toPlain` — all accessors as plain methods, in
  nested definitions as well;
* `Record.Model.toPlain` — all accessors of a model declared as methods;
* `Record.Model.definitions_toPlain` — the two agree: a record read as a method
  is the record read as an accessor, made plain;
* `Catalogue.ofList_toPlain`, `ancestors_toPlain`, `mentions_toPlain` — names,
  nesting, inheritance and what is mentioned take no notice.
-/
import Ambient.Proofs.ImageRuns
import Ambient.Proofs.UsedNames
import Ambient.Record.Resolve

namespace Ambient

/-! ### Definitions -/

namespace Definition

mutual

/-- The definition with plain methods for all accessors. -/
def toPlain : Definition → Definition
  | ⟨kind, type, superTypes, interfaces, members, doc, isPublic, isStatic⟩ =>
    ⟨kind, type, superTypes, interfaces, toPlainAmong members, doc, isPublic, isStatic⟩

/-- Members with plain methods for all accessors. -/
def toPlainAmong : List Member → List Member
  | [] => []
  | .method m :: members => .method m.toPlain :: toPlainAmong members
  | .field f :: members => .field f :: toPlainAmong members
  | .nested d :: members => .nested d.toPlain :: toPlainAmong members

end

end Definition

/-- The member with plain methods for all accessors. -/
def Member.toPlain : Member → Member
  | .method m => .method m.toPlain
  | .field f => .field f
  | .nested d => .nested d.toPlain

namespace Definition

variable (d : Definition)

theorem toPlainAmong_eq_map (ms : List Member) : toPlainAmong ms = ms.map Member.toPlain := by
  induction ms with
  | nil => rfl
  | cons m ms ih => cases m <;> simp [toPlainAmong, Member.toPlain, ih]

theorem toPlain_eq : d.toPlain = { d with members := d.members.map Member.toPlain } := by
  cases d
  rw [toPlain, toPlainAmong_eq_map]

@[simp]
theorem kind_toPlain : d.toPlain.kind = d.kind := by rw [toPlain_eq]

@[simp]
theorem type_toPlain : d.toPlain.type = d.type := by rw [toPlain_eq]

@[simp]
theorem superTypes_toPlain : d.toPlain.superTypes = d.superTypes := by rw [toPlain_eq]

@[simp]
theorem interfaces_toPlain : d.toPlain.interfaces = d.interfaces := by rw [toPlain_eq]

@[simp]
theorem members_toPlain : d.toPlain.members = d.members.map Member.toPlain := by rw [toPlain_eq]

@[simp]
theorem doc_toPlain : d.toPlain.doc = d.doc := by rw [toPlain_eq]

@[simp]
theorem name_toPlain : d.toPlain.name = d.name := by simp [name]

@[simp]
theorem simpleName_toPlain : d.toPlain.simpleName = d.simpleName := by simp [simpleName]

@[simp]
theorem parents_toPlain : d.toPlain.parents = d.parents := by simp [parents]

@[simp]
theorem methods_toPlain : d.toPlain.methods = d.methods.map Method.toPlain := by
  rw [methods, members_toPlain]
  refine filterMap_map_comm fun m _ => ?_
  cases m <;> rfl

@[simp]
theorem nested_toPlain : d.toPlain.nested = d.nested.map toPlain := by
  rw [nested, members_toPlain]
  refine filterMap_map_comm fun m _ => ?_
  cases m <;> rfl

/-- Without accessors names and nesting are the same. -/
theorem keepsNesting_toPlain : KeepsNesting toPlain where
  name := name_toPlain
  nested := nested_toPlain

end Definition

/-- Accessors have the types of the methods they stand for. -/
theorem Method.types_toPlain (m : Method) : m.toPlain.types = m.types := by
  unfold toPlain
  split <;> rfl

@[simp]
theorem Definition.mentions_toPlain (d : Definition) : d.toPlain.mentions = d.mentions := by
  induction d using nesting_induction with
  | step d ih =>
    rw [mentions_eq, mentions_eq, type_toPlain, parents_toPlain, members_toPlain,
      List.flatMap_map]
    refine congrArg _ (List.flatMap_congr fun m hm => ?_)
    cases m with
    | method m => rw [Member.toPlain, memberMentions, memberMentions, m.types_toPlain]
    | field f => rfl
    | nested e => exact ih e (mem_nested_iff.mpr hm)

/-! ### Catalogues -/

/-- The entry with plain methods for all accessors. -/
def NestedEntry.toPlain (e : NestedEntry) : NestedEntry :=
  ⟨e.owner, e.definition.toPlain⟩

namespace Catalogue

/-- The catalogue with plain methods for all accessors. -/
def toPlain (c : Catalogue) : Catalogue where
  roots := c.roots.map Definition.toPlain
  nested := c.nested.map NestedEntry.toPlain

/-- Definitions make a catalogue with accessors exactly if they do without. -/
theorem ofList_toPlain {ds : List Definition} {c : Catalogue} (hc : ofList ds = .ok c) :
    ofList (ds.map Definition.toPlain) = .ok c.toPlain :=
  ofList_map Definition.keepsNesting_toPlain hc

variable (c : Catalogue)

/-- The search through the ancestors takes no notice of accessors. -/
theorem visit_heritage_toPlain (ts : List TypeExpr) (seen : List String) :
    c.toPlain.heritage.visit ts seen = (c.heritage.visit ts seen).map Definition.toPlain :=
  visit_heritage_map Definition.name_toPlain c Definition.parents_toPlain ts seen

theorem lineage_toPlain (ts : List TypeExpr) :
    c.toPlain.lineage ts = (c.lineage ts).map Definition.toPlain :=
  c.visit_heritage_toPlain ts []

theorem ancestors_toPlain (d : Definition) :
    c.toPlain.ancestors d.toPlain = (c.ancestors d).map Definition.toPlain := by
  rw [ancestors, d.parents_toPlain, d.name_toPlain]
  exact c.visit_heritage_toPlain d.parents [d.name]

end Catalogue

/-! ### Records -/

/-- What is left of a kind if nothing is read as an accessor. -/
def MethodKind.toPlain : MethodKind → MethodKind
  | .getter => .plain
  | .setter => .plain
  | kind => kind

namespace Record

mutual

/-- The type with a method declared in place of each accessor. -/
def TypeDecl.toPlain : TypeDecl → TypeDecl
  | ⟨name, kind, typeParams, superTypes, interfaces, members, doc, isPublic, isStatic⟩ =>
    ⟨name, kind, typeParams, superTypes, interfaces, toPlainAmong members, doc, isPublic, isStatic⟩

/-- Members with a method declared in place of each accessor. -/
def toPlainAmong : List Member → List Member
  | [] => []
  | .method kind m :: members => .method kind.toPlain m :: toPlainAmong members
  | .field f :: members => .field f :: toPlainAmong members
  | .nested type :: members => .nested type.toPlain :: toPlainAmong members

end

/-- The model with a method declared in place of each accessor. -/
def Model.toPlain (m : Model) : Model where
  types := m.types.map TypeDecl.toPlain

/-- A record read as a method is the record read as an accessor, made plain. -/
theorem Method.toMethod_toPlain (m : Method) (kind : MethodKind) (owner : String) :
    m.toMethod kind.toPlain owner = (m.toMethod kind owner).toPlain := by
  cases kind with
  | plain => rfl
  | constructor => rfl
  | getter =>
    -- An accessor without a property is a method already; with one it has its name back.
    cases hp : m.property? <;>
      simp [toMethod, declaredAs, hp, MethodKind.toPlain, Ambient.Method.toPlain,
        Ambient.Method.isAccessor]
  | setter =>
    cases hp : m.property? <;>
      simp [toMethod, declaredAs, hp, MethodKind.toPlain, Ambient.Method.toPlain,
        Ambient.Method.isAccessor]

mutual

theorem TypeDecl.toDefinition_toPlain :
    (t : TypeDecl) → t.toPlain.toDefinition = t.toDefinition.toPlain
  | ⟨name, kind, typeParams, superTypes, interfaces, members, doc, isPublic, isStatic⟩ => by
    rw [TypeDecl.toPlain, TypeDecl.toDefinition, TypeDecl.toDefinition, Definition.toPlain,
      toMembers_toPlainAmong]

theorem toMembers_toPlainAmong (owner : String) :
    (ms : List Member) → Member.toMembers owner (toPlainAmong ms) =
      Definition.toPlainAmong (Member.toMembers owner ms)
  | [] => rfl
  | .method kind m :: ms => by
    simp only [toPlainAmong, Member.toMembers, Member.toMember, Definition.toPlainAmong,
      m.toMethod_toPlain, toMembers_toPlainAmong owner ms]
  | .field f :: ms => by
    simp only [toPlainAmong, Member.toMembers, Member.toMember, Definition.toPlainAmong,
      toMembers_toPlainAmong owner ms]
  | .nested t :: ms => by
    simp only [toPlainAmong, Member.toMembers, Member.toMember, Definition.toPlainAmong,
      t.toDefinition_toPlain, toMembers_toPlainAmong owner ms]

end

/-- **Declaring methods in place of accessors** makes the definitions plain and
changes nothing else about them. -/
theorem Model.definitions_toPlain (m : Model) :
    m.toPlain.definitions = m.definitions.map Definition.toPlain := by
  rw [definitions, definitions, toPlain, List.map_map, List.map_map]
  exact List.map_congr_left fun t _ => t.toDefinition_toPlain

end Record

end Ambient

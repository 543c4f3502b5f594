/-
What is declared: types with their heritage and their members.

* `Method`, `Field`, `Member`, `Definition` — the declarations themselves; a definition may hold
  further definitions among its members;
* `Method.plain`, `Method.constructor`, `Method.getter`, `Method.setter` — fresh methods;
* `Method.toPlain` — the method that an accessor was read from;
* `Definition.parents` — the heritage clauses in the order in which they are searched;
* `Definition.mentions` — every type expression under a definition;
* `Definition.withNested` — a definition followed by all those nested in it;
* `Signature` — what makes two methods the same overload: a name with the erasures of the parameter
  types.

Return types and type parameters take no part in signatures, and since erasure is what the
declarations show, `f(int)` and `f(long)` have one signature. Signatures are ordered by name and
then by parameters, text by text.
-/
import Ambient.TypeExpr.Spelling

namespace Ambient

/-! ### Methods and fields -/

/-- What a method is declared as. -/
inductive MethodKind where
  | plain
  | constructor
  /-- Reads a property. -/
  | getter
  /-- Writes a property. -/
  | setter
  deriving DecidableEq, Repr, Inhabited

/-- A parameter. A variadic parameter has the array type of its values. -/
structure Parameter where
  name : String
  type : TypeExpr
  variadic : Bool := false
  deriving DecidableEq, Repr, Inhabited

/-- A method, constructor or accessor. -/
structure Method where
  kind : MethodKind
  /-- The declared name; the property's for an accessor. -/
  name : String
  /-- The name of the method itself, also where it stands for a property. -/
  methodName : String
  returnType : TypeExpr
  params : List Parameter
  typeParams : List TypeExpr := []
  doc : Option String := none
  isPublic : Bool := true
  isStatic : Bool := false
  /-- Whether it is marked as overriding an inherited method. -/
  isOverride : Bool := false
  /-- The qualified name of the type that declares it. -/
  owner : String
  deriving DecidableEq, Repr, Inhabited

/-- A field. -/
structure Field where
  name : String
  type : TypeExpr
  doc : Option String := none
  isPublic : Bool := true
  isStatic : Bool := false
  isFinal : Bool := false
  deriving DecidableEq, Repr, Inhabited

namespace Method

/-- A public method that is not static. -/
def plain (name : String) (returnType : TypeExpr) (params : List Parameter) (owner : String) :
    Method :=
  { kind := .plain, name, methodName := name, returnType, params, owner }

/-- A constructor, which is called `new` and returns nothing. -/
def constructor (params : List Parameter) (owner : String) : Method :=
  { kind := .constructor, name := "new", methodName := "new", returnType := .void, params,
    owner }

/-- The accessor that reads a property. -/
def getter (property methodName : String) (returnType : TypeExpr) (owner : String) : Method :=
  { kind := .getter, name := property, methodName, returnType, params := [], owner }

/-- The accessor that writes a property. -/
def setter (property methodName : String) (value : Parameter) (owner : String) : Method :=
  { kind := .setter, name := property, methodName, returnType := .void, params := [value],
    owner }

/-- Whether the method stands for reading or writing a property. -/
def isAccessor (m : Method) : Bool :=
  m.kind = .getter || m.kind = .setter

/-- The method that an accessor stands for: a plain one under its own name. -/
def toPlain (m : Method) : Method :=
  if m.isAccessor then { m with kind := .plain, name := m.methodName } else m

/-- Every type the method names, in the order of its declaration. -/
def types (m : Method) : List TypeExpr :=
  m.returnType :: (m.params.map (·.type) ++ m.typeParams)

@[simp]
theorem isAccessor_toPlain (m : Method) : m.toPlain.isAccessor = false := by
  unfold toPlain
  split
  · rfl
  next h => simpa using h

@[simp]
theorem toPlain_toPlain (m : Method) : m.toPlain.toPlain = m.toPlain := by
  rw [toPlain, isAccessor_toPlain]
  rfl

@[simp]
theorem isPublic_toPlain (m : Method) : m.toPlain.isPublic = m.isPublic := by
  unfold toPlain
  split <;> rfl

@[simp]
theorem isStatic_toPlain (m : Method) : m.toPlain.isStatic = m.isStatic := by
  unfold toPlain
  split <;> rfl

@[simp]
theorem isOverride_toPlain (m : Method) : m.toPlain.isOverride = m.isOverride := by
  unfold toPlain
  split <;> rfl

@[simp]
theorem doc_toPlain (m : Method) : m.toPlain.doc = m.doc := by
  unfold toPlain
  split <;> rfl

theorem toPlain_withDoc (m : Method) (doc : Option String) :
    { m with doc := doc }.toPlain = { m.toPlain with doc := doc } := by
  unfold toPlain isAccessor
  split <;> rfl

theorem isConstructor_toPlain (m : Method) :
    m.toPlain.kind = .constructor ↔ m.kind = .constructor := by
  unfold toPlain isAccessor
  cases hk : m.kind <;> simp [hk]

end Method

/-! ### Definitions and their members -/

/-- What a type is declared as. -/
inductive DefinitionKind where
  | classType
  | interface
  | enum
  /-- An interface with a single abstract method. -/
  | functionalInterface
  deriving DecidableEq, Repr, Inhabited

mutual

/-- The declaration of a type. -/
structure Definition where
  kind : DefinitionKind
  /-- The type itself, applied to its own parameters. -/
  type : TypeExpr
  superTypes : List TypeExpr
  interfaces : List TypeExpr
  members : List Member
  doc : Option String
  isPublic : Bool
  isStatic : Bool

/-- A member of a definition. -/
inductive Member where
  | method (method : Method)
  | field (field : Field)
  | nested (definition : Definition)

end

namespace Definition

/-- A public definition with nothing in it. -/
def empty (kind : DefinitionKind) (type : TypeExpr) : Definition :=
  { kind, type, superTypes := [], interfaces := [], members := [], doc := none, isPublic := true,
    isStatic := false }

instance : Inhabited Definition := ⟨empty default default⟩

/-- The qualified name of the type. -/
def name (d : Definition) : String :=
  d.type.name

/-- The last segment of the name. -/
def simpleName (d : Definition) : String :=
  d.type.simpleName

/-- The types inherited from directly: super types, then interfaces. -/
def parents (d : Definition) : List TypeExpr :=
  d.superTypes ++ d.interfaces

end Definition

namespace Member

instance : Inhabited Member := ⟨.method default⟩

/-- The name under which the member is declared. -/
def name : Member → String
  | .method m => m.name
  | .field f => f.name
  | .nested d => d.simpleName

/-- The member's documentation. -/
def doc : Member → Option String
  | .method m => m.doc
  | .field f => f.doc
  | .nested d => d.doc

/-- Whether the member is public. -/
def isPublic : Member → Bool
  | .method m => m.isPublic
  | .field f => f.isPublic
  | .nested d => d.isPublic

/-- Whether the member belongs to the type and not to its values. -/
def isStatic : Member → Bool
  | .method m => m.isStatic
  | .field f => f.isStatic
  | .nested d => d.isStatic

/-- The member as a method. -/
def method? : Member → Option Method
  | .method m => some m
  | _ => none

/-- The member as a definition. -/
def nested? : Member → Option Definition
  | .nested d => some d
  | _ => none

/-- The member with its definition, if it is one, replaced. -/
def mapNested (f : Definition → Definition) : Member → Member
  | .nested d => .nested (f d)
  | member => member

/-- The member with its method, if it is one, replaced. -/
def mapMethod (f : Method → Method) : Member → Member
  | .method m => .method (f m)
  | member => member

end Member

namespace Definition

/-- Whether some member is declared under the name. -/
def hasMember (d : Definition) (name : String) : Bool :=
  d.members.any (·.name = name)

/-- The methods, in order of declaration. -/
def methods (d : Definition) : List Method :=
  d.members.filterMap Member.method?

theorem mem_filterMap_method?_iff {members : List Member} {m : Method} :
    m ∈ members.filterMap Member.method? ↔ .method m ∈ members := by
  rw [List.mem_filterMap]
  constructor
  · rintro ⟨member, hmember, hm⟩
    cases member with
    | method o =>
      obtain rfl : o = m := Option.some.inj hm
      exact hmember
    | field f => cases hm
    | nested e => cases hm
  · intro h
    exact ⟨.method m, h, rfl⟩

theorem mem_methods_iff {d : Definition} {m : Method} : m ∈ d.methods ↔ .method m ∈ d.members :=
  mem_filterMap_method?_iff

/-- Methods that are appended to the members come after the others. -/
theorem filterMap_method?_append (members : List Member) (copies : List Method) :
    (members ++ copies.map Member.method).filterMap Member.method? =
      members.filterMap Member.method? ++ copies := by
  rw [List.filterMap_append, List.filterMap_map]
  refine congrArg _ ?_
  exact List.filterMap_some

/-- Methods that are appended to the members add their names. -/
theorem any_name_append_iff {members : List Member} {copies : List Method} {name : String} :
    (members ++ copies.map Member.method).any (·.name = name) ↔
      members.any (·.name = name) ∨ ∃ m ∈ copies, m.name = name := by
  have hcopies : (copies.map Member.method).any (·.name = name) ↔ ∃ m ∈ copies, m.name = name := by
    rw [List.any_map, List.any_eq_true]
    exact exists_congr fun m => and_congr_right fun _ => decide_eq_true_iff
  rw [List.any_append, Bool.or_eq_true, hcopies]

theorem hasMember_of_mem_methods {d : Definition} {m : Method} (h : m ∈ d.methods) :
    d.hasMember m.name :=
  List.any_eq_true.mpr ⟨.method m, mem_methods_iff.mp h, decide_eq_true rfl⟩

/-- The definitions among the members, one level deep. -/
def nested (d : Definition) : List Definition :=
  d.members.filterMap Member.nested?

mutual

/-- The definition, then those nested in it at any depth, each before the ones inside it. -/
def withNested : Definition → List Definition
  | ⟨kind, type, superTypes, interfaces, members, doc, isPublic, isStatic⟩ =>
    ⟨kind, type, superTypes, interfaces, members, doc, isPublic, isStatic⟩ :: nestedAmong members

/-- The definitions among the members, at any depth. -/
def nestedAmong : List Member → List Definition
  | [] => []
  | .nested d :: members => d.withNested ++ nestedAmong members
  | _ :: members => nestedAmong members

end

theorem withNested_eq (d : Definition) : d.withNested = d :: nestedAmong d.members := by
  cases d
  rfl

mutual

/-- Every type expression under the definition, nested definitions included. -/
def mentions : Definition → List TypeExpr
  | ⟨_, type, superTypes, interfaces, members, _, _, _⟩ =>
    type.mentions ++ superTypes.flatMap TypeExpr.mentions ++ interfaces.flatMap TypeExpr.mentions
      ++ membersMention members

/-- Every type expression under the members. -/
def membersMention : List Member → List TypeExpr
  | [] => []
  | .method m :: members => m.types.flatMap TypeExpr.mentions ++ membersMention members
  | .field f :: members => f.type.mentions ++ membersMention members
  | .nested d :: members => d.mentions ++ membersMention members

end

end Definition

/-! ### Signatures -/

/-- A method's name and erased parameter types. -/
structure Signature where
  name : String
  params : List String
  deriving DecidableEq, Repr, Inhabited

namespace Signature

/-- By name first, then by parameters from the left. -/
instance : Ord Signature where
  compare a b := (compare a.name b.name).then (compare a.params b.params)

/-- The signature written out. -/
def display (s : Signature) : String :=
  s.name ++ "(" ++ ", ".intercalate s.params ++ ")"

end Signature

/-- The signature of a method. -/
def Method.signature (m : Method) : Signature :=
  ⟨m.name, m.params.map (·.type.erasure)⟩

/-- The signatures of a definition's methods. -/
def Definition.signatures (d : Definition) : List Signature :=
  d.methods.map Method.signature

/-- The signatures in ascending order; equal ones keep their places. -/
def Definition.sortedSignatures (d : Definition) : List Signature :=
  d.signatures.mergeSort fun a b => (compare a b).isLE

end Ambient

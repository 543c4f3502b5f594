/-
From records to definitions.

* `TypeUse.toTypeExpr` — type expressions in normal form; wildcards without an upper bound alone
  have no counterpart and become the root type;
* `TypeParam.toTypeExpr` — a bounded parameter is its name applied to the bound;
* `Method.toMethod` — constructors are called `new`, accessors get the name of their property, and
  an accessor without one stays a plain method;
* `TypeDecl.toDefinition`, `Model.definitions` — whole types and models.
-/
import Ambient.Property
import Ambient.Record.Basic

namespace Ambient.Record

/-- The name of a primitive type. -/
def Primitive.name : Primitive → String
  | .void => "void"
  | .boolean => "boolean"
  | .byte => "byte"
  | .short => "short"
  | .char => "char"
  | .int => "int"
  | .long => "long"
  | .float => "float"
  | .double => "double"

mutual

/-- The type expression of a resolved one. -/
def TypeUse.toTypeExpr : TypeUse → TypeExpr
  | .primitive type => .simple type.name
  | .reference name args => .instantiate (.named name) (TypeUse.toTypeExprs args)
  | .array component n => .arrayOf component.toTypeExpr n
  | .wildcard (some upper) none => .wildcard upper.toTypeExpr
  | .wildcard _ _ => .object
  | .variable name => .named name
  | .nullable inner => .optional inner.toTypeExpr

/-- The type expressions of several resolved ones. -/
def TypeUse.toTypeExprs : List TypeUse → List TypeExpr
  | [] => []
  | t :: ts => t.toTypeExpr :: TypeUse.toTypeExprs ts

end

/-- The declared form of a type parameter. -/
def TypeParam.toTypeExpr (p : TypeParam) : TypeExpr :=
  match p.bound with
  | some bound => .instantiate (.named p.name) [bound.toTypeExpr]
  | none => .named p.name

/-- The parameter that a record declares. -/
def Param.toParameter (p : Param) : Parameter :=
  ⟨p.name, p.type.toTypeExpr, p.variadic⟩

/-- The property of a method that is declared as an accessor. -/
def Method.property? (m : Method) : Option String :=
  m.property <|> Property.ofAccessor m.name

/-- What the method is in fact, and its name then. -/
def Method.declaredAs (m : Method) : MethodKind → MethodKind × String
  | .plain => (.plain, m.name)
  | .constructor => (.constructor, "new")
  | kind =>
    match m.property? with
    | some property => (kind, property)
    | none => (.plain, m.name)

/-- The method that a record declares in the type `owner`. -/
def Method.toMethod (m : Method) (declared : MethodKind) (owner : String) : Ambient.Method :=
  let (kind, name) := m.declaredAs declared
  let isConstructor := kind = .constructor
  { kind, name, owner
    methodName := if isConstructor then name else m.name
    returnType := if isConstructor then .void else (m.returnType.map (·.toTypeExpr)).getD .void
    params := m.params.map (·.toParameter)
    typeParams := if isConstructor then [] else m.typeParams.map (·.toTypeExpr)
    doc := m.doc
    isPublic := m.isPublic
    isStatic := m.isStatic
    isOverride := m.isOverride }

/-- The field that a record declares. -/
def Field.toField (f : Field) : Ambient.Field :=
  { name := f.name, type := f.type.toTypeExpr, doc := f.doc, isPublic := f.isPublic,
    isStatic := f.isStatic, isFinal := f.isFinal }

mutual

/-- The definition that a resolved type stands for. -/
def TypeDecl.toDefinition : TypeDecl → Definition
  | ⟨name, kind, typeParams, superTypes, interfaces, members, doc, isPublic, isStatic⟩ =>
    { kind
      type := .instantiate (.named name) (typeParams.map (·.toTypeExpr))
      superTypes := superTypes.map (·.toTypeExpr)
      interfaces := interfaces.map (·.toTypeExpr)
      members := Member.toMembers name members
      doc, isPublic, isStatic }

/-- The member that a record declares in the type `owner`. -/
def Member.toMember (owner : String) : Member → Ambient.Member
  | .method kind m => .method (m.toMethod kind owner)
  | .field f => .field f.toField
  | .nested type => .nested type.toDefinition

/-- The members that records declare in the type `owner`. -/
def Member.toMembers (owner : String) : List Member → List Ambient.Member
  | [] => []
  | m :: ms => m.toMember owner :: Member.toMembers owner ms

end

/-- The definitions of a model, in its order. -/
def Model.definitions (m : Model) : List Definition :=
  m.types.map (·.toDefinition)

end Ambient.Record

/-
Definitions as JSON values.

Every declaration becomes an object with its entries in a fixed order, `Member.dump` tagging a
member by what it is. Absent documentation is `null`.
-/
import Ambient.Definition.Basic
import Ambient.Json.Writer

namespace Ambient

open Json (Value)

mutual

/-- A type expression: an object whose only key names its form. -/
def TypeExpr.dump : TypeExpr → Value
  | .simple name => .object [("simple", .string name)]
  | .generic base args =>
    .object [("parametrized", .object [("base", base.dump), ("args", .array (dumpTypes args))])]
  | .array component n =>
    .object
      [("array", .object [("component", component.dump), ("dimensions", .number (.integer n))])]
  | .wildcard bound => .object [("wildcard", bound.dump)]
  | .nullable inner => .object [("nullable", inner.dump)]

/-- Several type expressions. -/
def dumpTypes : List TypeExpr → List Value
  | [] => []
  | t :: ts => t.dump :: dumpTypes ts

end

/-- The word for what a method is declared as. -/
def MethodKind.word : MethodKind → String
  | .plain => "method"
  | .constructor => "constructor"
  | .getter => "getter"
  | .setter => "setter"

/-- The word for what a type is declared as. -/
def DefinitionKind.word : DefinitionKind → String
  | .classType => "class"
  | .interface => "interface"
  | .enum => "enum"
  | .functionalInterface => "functional_interface"

/-- Documentation, or `null`. -/
def dumpDoc : Option String → Value
  | some doc => .string doc
  | none => .null

/-- A parameter. -/
def Parameter.dump (p : Parameter) : Value :=
  .object [("name", .string p.name), ("type", p.type.dump), ("varargs", .boolean p.variadic)]

/-- The entries of a method. -/
def Method.entries (m : Method) : List (String × Value) :=
  [("kind", .string m.kind.word), ("name", .string m.name),
   ("original_name", .string m.methodName), ("return_type", m.returnType.dump),
   ("params", .array (m.params.map Parameter.dump)),
   ("type_params", .array (dumpTypes m.typeParams)), ("javadoc", dumpDoc m.doc),
   ("is_public", .boolean m.isPublic), ("is_static", .boolean m.isStatic),
   ("is_override", .boolean m.isOverride), ("type_name", .string m.owner)]

/-- The entries of a field. -/
def Field.entries (f : Field) : List (String × Value) :=
  [("name", .string f.name), ("type", f.type.dump), ("javadoc", dumpDoc f.doc),
   ("is_public", .boolean f.isPublic), ("is_static", .boolean f.isStatic),
   ("is_final", .boolean f.isFinal)]

mutual

/-- The entries of a definition. -/
def Definition.entries : Definition → List (String × Value)
  | ⟨kind, type, superTypes, interfaces, members, doc, isPublic, isStatic⟩ =>
    [("kind", .string kind.word), ("type", type.dump),
     ("super_types", .array (dumpTypes superTypes)), ("interfaces", .array (dumpTypes interfaces)),
     ("members", .array (dumpMembers members)), ("javadoc", dumpDoc doc),
     ("is_public", .boolean isPublic), ("is_static", .boolean isStatic)]

/-- A member, tagged by what it is. -/
def Member.dump : Member → Value
  | .method m => .object (("member", .string "method") :: m.entries)
  | .field f => .object (("member", .string "field") :: f.entries)
  | .nested d => .object (("member", .string "type") :: d.entries)

/-- Several members. -/
def dumpMembers : List Member → List Value
  | [] => []
  | m :: ms => m.dump :: dumpMembers ms

end

/-- A definition. -/
def Definition.dump (d : Definition) : Value :=
  .object d.entries

/-- Several definitions, as an array. -/
def dumpDefinitions (ds : List Definition) : Value :=
  .array (ds.map Definition.dump)

end Ambient

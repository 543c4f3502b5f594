/-
Records: what a resolver says about the types of a program.

A `Record.Model` is the list of the resolved types. The records are the facts as they were found;
`Ambient.Record.Resolve` makes definitions of them.
-/
import Ambient.Definition.Basic

namespace Ambient.Record

/-- The primitive types. -/
inductive Primitive where
  | void
  | boolean
  | byte
  | short
  | char
  | int
  | long
  | float
  | double
  deriving DecidableEq, Repr, Inhabited

/-- A resolved type expression. -/
inductive TypeUse where
  | primitive (type : Primitive)
  | reference (name : String) (args : List TypeUse)
  | array (component : TypeUse) (dimensions : Nat)
  /-- A wildcard with its upper and its lower bound. -/
  | wildcard (upper lower : Option TypeUse)
  | variable (name : String)
  | nullable (inner : TypeUse)
  deriving Inhabited, Repr

/-- A declared type parameter. -/
structure TypeParam where
  name : String
  bound : Option TypeUse
  deriving Inhabited, Repr

/-- A parameter of a method. -/
structure Param where
  name : String
  type : TypeUse
  variadic : Bool
  deriving Inhabited, Repr

/-- A method, constructor or accessor. -/
structure Method where
  name : String
  /-- The property of an accessor, if it is not the one its name tells. -/
  property : Option String
  /-- Absent for methods that return nothing. -/
  returnType : Option TypeUse
  params : List Param
  typeParams : List TypeParam
  doc : Option String
  isPublic : Bool
  isStatic : Bool
  isOverride : Bool
  deriving Inhabited, Repr

/-- A field. -/
structure Field where
  name : String
  type : TypeUse
  doc : Option String
  isPublic : Bool
  isStatic : Bool
  isFinal : Bool
  deriving Inhabited, Repr

mutual

/-- A resolved type with its members. -/
structure TypeDecl where
  name : String
  kind : DefinitionKind
  typeParams : List TypeParam
  superTypes : List TypeUse
  interfaces : List TypeUse
  members : List Member
  doc : Option String
  isPublic : Bool
  isStatic : Bool

/-- A member. What a method is declared as is part of the record. -/
inductive Member where
  | method (kind : MethodKind) (method : Method)
  | field (field : Field)
  | nested (type : TypeDecl)

end

instance : Inhabited TypeDecl := ⟨⟨"", .classType, [], [], [], [], none, true, false⟩⟩

instance : Inhabited Member := ⟨.field default⟩

/-- The types of a program. -/
structure Model where
  types : List TypeDecl
  deriving Inhabited

end Ambient.Record

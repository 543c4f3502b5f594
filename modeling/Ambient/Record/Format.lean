/-
The written form of records, as data.

A record is an object (or an array) of fields; a choice is an object with one entry, named for the
alternative, or just that name; a tagged record is an object that says in one of its entries which
record it is. `Kind.format` gives the form of each kind of record. Every reader interprets this one
description.

* `Kind` — the kinds of record, with the type of each in `Kind.Carrier`;
* `Slot`, `FieldFormat`, `Tuple` — what a field holds, its key and default, and a value for each
  field of a list;
* `RecordFormat`, `Alternative`, `Format` — the forms;
* `Partial` — the fields read so far; `Partial.complete` fills in defaults.
-/
import Ambient.Json.Fault
import Ambient.Record.Basic

namespace Ambient.Record

open Json (Fault)

/-- The kinds of record. -/
inductive Kind where
  | model
  | typeDecl
  | definitionKind
  | typeUse
  | primitive
  | typeParam
  | member
  | param
  deriving DecidableEq, Repr

/-- The records of a kind. -/
abbrev Kind.Carrier : Kind → Type
  | .model => Model
  | .typeDecl => TypeDecl
  | .definitionKind => DefinitionKind
  | .typeUse => TypeUse
  | .primitive => Primitive
  | .typeParam => TypeParam
  | .member => Member
  | .param => Param

/-- The numbers below fit into 32 bits. -/
def countLimit : Nat := 4294967296

/-- What may stand in a field. -/
inductive Slot where
  | text
  | flag
  /-- A number that fits into 32 bits. -/
  | count
  | one (kind : Kind)
  | many (kind : Kind)
  /-- A text or nothing. -/
  | textOrNull
  /-- A record or nothing. -/
  | oneOrNull (kind : Kind)
  deriving DecidableEq, Repr

/-- The values of a slot. -/
abbrev Slot.Carrier : Slot → Type
  | .text => String
  | .flag => Bool
  | .count => Nat
  | .one kind => kind.Carrier
  | .many kind => List kind.Carrier
  | .textOrNull => Option String
  | .oneOrNull kind => Option kind.Carrier

/-- A field of a record: without a default it has to be there. -/
structure FieldFormat where
  key : String
  slot : Slot
  default? : Option slot.Carrier

/-- A value for each field. -/
abbrev Tuple : List FieldFormat → Type
  | [] => Unit
  | f :: fs => f.slot.Carrier × Tuple fs

/-- A value for some of the fields. -/
abbrev Partial : List FieldFormat → Type
  | [] => Unit
  | f :: fs => Option f.slot.Carrier × Partial fs

/-- A record: its title in messages, its fields, and what they make. -/
structure RecordFormat (α : Type) where
  title : String
  fields : List FieldFormat
  build : Tuple fields → α

/-- The same record, made into something else. -/
def RecordFormat.map {α β : Type} (f : α → β) (r : RecordFormat α) : RecordFormat β :=
  ⟨r.title, r.fields, f ∘ r.build⟩

/-- The contents of an alternative. -/
inductive Contents (α : Type) where
  | nothing (value : α)
  | slot (slot : Slot) (build : slot.Carrier → α)
  | record (record : RecordFormat α)

/-- One alternative of a choice. -/
structure Alternative (α : Type) where
  name : String
  contents : Contents α

/-- The written form of a kind of record. -/
inductive Format (α : Type) where
  | record (record : RecordFormat α)
  | choice (alternatives : List (Alternative α))
  /-- One of several records, told apart by the entry under `key`. -/
  | tagged (title key : String) (records : List (String × RecordFormat α))

/-! ### Fields read so far -/

namespace Partial

/-- None of the fields. -/
def none : (fields : List FieldFormat) → Partial fields
  | [] => ()
  | _ :: fs => (Option.none, none fs)

/-- Reads the field with this key by `read`; none if there is no such field. A field is not read
twice. -/
def read {σ : Type} (read : (s : Slot) → Except Fault (s.Carrier × σ)) (key : String) :
    {fields : List FieldFormat} → Partial fields → Except Fault (Option (Partial fields × σ))
  | [], () => .ok Option.none
  | f :: _, (value, rest) =>
    if f.key = key then
      match value with
      | some _ => .error (.duplicateField key)
      | Option.none => do
        let (value, s) ← read f.slot
        return some ((some value, rest), s)
    else do
      match ← Partial.read read key rest with
      | some (rest, s) => return some ((value, rest), s)
      | Option.none => return Option.none

/-- The fields with defaults for those that have not been read. The first that has none is
missing. -/
def complete : {fields : List FieldFormat} → Partial fields → Except Fault (Tuple fields)
  | [], () => .ok ()
  | f :: _, (value, rest) => do
    let value ←
      match value <|> f.default? with
      | some value => pure value
      | Option.none => throw (.missingField f.key)
    return (value, ← complete rest)

end Partial

/-! ### The formats -/

namespace FieldFormat

/-- A field that has to be there. -/
def required (key : String) (slot : Slot) : FieldFormat :=
  ⟨key, slot, none⟩

/-- A list that is empty by default. -/
def list (key : String) (kind : Kind) : FieldFormat :=
  ⟨key, .many kind, some []⟩

/-- A record that is absent by default. -/
def optional (key : String) (kind : Kind) : FieldFormat :=
  ⟨key, .oneOrNull kind, some none⟩

/-- A text that is absent by default. -/
def optionalText (key : String) : FieldFormat :=
  ⟨key, .textOrNull, some none⟩

/-- A flag with its default. -/
def flag (key : String) (default : Bool) : FieldFormat :=
  ⟨key, .flag, some default⟩

end FieldFormat

open FieldFormat

/-- The title and the fields of a type. -/
def typeDeclFormat : RecordFormat TypeDecl where
  title := "struct RawTypeDefinition"
  fields :=
    [required "name" .text, required "kind" (.one .definitionKind), list "type_params" .typeParam,
     list "super_types" .typeUse, list "interfaces" .typeUse, list "members" .member,
     optionalText "javadoc", flag "public" true, flag "static" false]
  build := fun (name, kind, typeParams, superTypes, interfaces, members, doc, isPublic, isStatic,
      ()) =>
    ⟨name, kind, typeParams, superTypes, interfaces, members, doc, isPublic, isStatic⟩

/-- The title and the fields of a method. -/
def methodFormat : RecordFormat Method where
  title := "struct RawMethod"
  fields :=
    [required "name" .text, optionalText "property", optional "return_type" .typeUse,
     list "params" .param, list "type_params" .typeParam, optionalText "javadoc",
     flag "public" true, flag "static" false, flag "override" false]
  build := fun (name, property, returnType, params, typeParams, doc, isPublic, isStatic, isOverride,
      ()) =>
    ⟨name, property, returnType, params, typeParams, doc, isPublic, isStatic, isOverride⟩

/-- The title and the fields of a field. -/
def fieldFormat : RecordFormat Field where
  title := "struct RawField"
  fields :=
    [required "name" .text, required "type" (.one .typeUse), optionalText "javadoc",
     flag "public" true, flag "static" false, flag "final" false]
  build := fun (name, type, doc, isPublic, isStatic, isFinal, ()) =>
    ⟨name, type, doc, isPublic, isStatic, isFinal⟩

/-- The alternatives of a type expression. -/
def typeUseAlternatives : List (Alternative TypeUse) :=
  [⟨"primitive", .slot (.one .primitive) .primitive⟩,
   ⟨"class", .record
      { title := "struct variant RawTypeRef::Class"
        fields := [required "name" .text, list "args" .typeUse]
        build := fun (name, args, ()) => .reference name args }⟩,
   ⟨"array", .record
      { title := "struct variant RawTypeRef::Array"
        fields := [required "component" (.one .typeUse), ⟨"dimensions", .count, some (1 : Nat)⟩]
        build := fun (component, dimensions, ()) => .array component dimensions }⟩,
   ⟨"wildcard", .record
      { title := "struct variant RawTypeRef::Wildcard"
        fields := [optional "extends" .typeUse, optional "super" .typeUse]
        build := fun (upper, lower, ()) => .wildcard upper lower }⟩,
   ⟨"type_var", .slot .text .variable⟩,
   ⟨"nullable", .slot (.one .typeUse) .nullable⟩]

/-- The written form of each kind of record. -/
def Kind.format : (k : Kind) → Format k.Carrier
  | .model => .record ⟨"struct RawModel", [required "types" (.many .typeDecl)], fun (types, ()) =>
      ⟨types⟩⟩
  | .typeDecl => .record typeDeclFormat
  | .definitionKind =>
    .choice
      [⟨"class", .nothing .classType⟩, ⟨"interface", .nothing .interface⟩, ⟨"enum", .nothing .enum⟩,
       ⟨"functional_interface", .nothing .functionalInterface⟩]
  | .typeUse => .choice typeUseAlternatives
  | .primitive =>
    .choice
      [⟨"void", .nothing .void⟩, ⟨"boolean", .nothing .boolean⟩, ⟨"byte", .nothing .byte⟩,
       ⟨"short", .nothing .short⟩, ⟨"char", .nothing .char⟩, ⟨"int", .nothing .int⟩,
       ⟨"long", .nothing .long⟩, ⟨"float", .nothing .float⟩, ⟨"double", .nothing .double⟩]
  | .typeParam =>
    .record
      { title := "struct RawTypeParam"
        fields := [required "name" .text, optional "bound" .typeUse]
        build := fun (name, bound, ()) => ⟨name, bound⟩ }
  | .member =>
    .tagged "internally tagged enum RawMember" "member"
      [("method", methodFormat.map (.method .plain)),
       ("constructor", methodFormat.map (.method .constructor)),
       ("getter", methodFormat.map (.method .getter)),
       ("setter", methodFormat.map (.method .setter)),
       ("field", fieldFormat.map .field), ("type", typeDeclFormat.map .nested)]
  | .param =>
    .record
      { title := "struct RawParam"
        fields := [required "name" .text, required "type" (.one .typeUse), flag "varargs" false]
        build := fun (name, type, variadic, ()) => ⟨name, type, variadic⟩ }

end Ambient.Record

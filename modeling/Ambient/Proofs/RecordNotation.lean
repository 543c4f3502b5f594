/-
How records are written.

The written form of each kind of record, as a property of phrases: which keys an object
has, which of them may be left out, and what stands under each.  The order of the entries
is free, and entries under other keys may stand between them.  Nothing here refers to the
formats by which records are read.

* `Clause`, `Clause.HoldsIn`, `WritesRecord` — one key of an object, and all of them;
* `WritesText`, `WritesFlag`, `WritesCount`, `WritesList`, `WritesOption`, `WritesChoice` —
  what may stand under a key;
* `TypeUse.Written`, `TypeDecl.Written`, `Model.Written` — the records.

Members are written as one object together with the tag that tells which member it is.
What may stand in this object under other keys is a parameter.
-/
import Mathlib.Data.List.Nodup
import Ambient.Definition.Dump
import Ambient.Proofs.Notation
import Ambient.Record.Format
import Ambient.Record.Resolve

namespace Ambient.Record

open Json (Phrase Element Entry NumberText meaning)

/-! ### Objects -/

/-- What an object says about a key. -/
structure Clause where
  key : String
  /-- Whether the key may be missing. -/
  omissible : Prop
  /-- What may stand under the key. -/
  written : Phrase → Prop

/-- A key that has to be there. -/
def must (key : String) (written : Phrase → Prop) : Clause :=
  ⟨key, False, written⟩

/-- A key that may be missing if the value is the default. -/
def may {α : Type} (key : String) (value default : α) (written : Phrase → Prop) : Clause :=
  ⟨key, value = default, written⟩

/-- The key is there with what may stand under it, or it is missing and may be. -/
def Clause.HoldsIn (es : List Entry) (c : Clause) : Prop :=
  (∃ e ∈ es, e.name? = some c.key ∧ c.written e.element.value) ∨
    (c.omissible ∧ ∀ e ∈ es, e.name? ≠ some c.key)

/-- All keys are texts, and none is repeated. -/
def WellKeyed (es : List Entry) : Prop :=
  (∀ e ∈ es, e.name?.isSome) ∧ (es.map Entry.name?).Nodup

theorem wellKeyed_of_names {es : List Entry} (names : List String)
    (hnames : es.map Entry.name? = names.map some) (hnodup : names.Nodup) : WellKeyed es := by
  refine ⟨fun e he => ?_, ?_⟩
  · have hmem : e.name? ∈ names.map some := hnames ▸ List.mem_map_of_mem he
    obtain ⟨name, -, hname⟩ := List.mem_map.mp hmem
    rw [← hname]
    rfl
  · rw [hnames]
    exact hnodup.map fun _ _ h => Option.some.inj h

theorem Clause.HoldsIn.of_getElem? {es : List Entry} {c : Clause} {e : Entry} (i : Nat)
    (he : es[i]? = some e) (hname : e.name? = some c.key) (h : c.written e.element.value) :
    c.HoldsIn es :=
  .inl ⟨e, List.mem_of_getElem? he, hname, h⟩

theorem Clause.HoldsIn.of_not_mem {α : Type} {key : String} {value : α} {written : Phrase → Prop}
    {es : List Entry} {names : List String} (hnames : es.map Entry.name? = names.map some)
    (hkey : key ∉ names) : (may key value value written).HoldsIn es := by
  refine .inr ⟨rfl, fun e he hname => hkey ?_⟩
  have hmem : some key ∈ names.map some := hnames ▸ hname ▸ List.mem_map_of_mem he
  obtain ⟨name, hmem, heq⟩ := List.mem_map.mp hmem
  exact Option.some.inj heq ▸ hmem

/-- An object for which the clauses hold, with any other keys. -/
def WritesRecord (clauses : List Clause) (s : Phrase) : Prop :=
  ∃ inner es, s = .object inner es ∧ WellKeyed es ∧ ∀ c ∈ clauses, c.HoldsIn es

/-! ### Under a key -/

/-- A string with these characters. -/
def WritesText (text : String) (s : Phrase) : Prop :=
  ∃ ps, s = .string ps ∧ meaning ps = some text.toList

/-- A truth value. -/
def WritesFlag (b : Bool) (s : Phrase) : Prop :=
  s = .boolean b

/-- A number of 32 bits, by its digits alone. -/
def WritesCount (n : Nat) (s : Phrase) : Prop :=
  ∃ t : NumberText, s = .number t ∧ t.isNegative = false ∧ t.fraction = none ∧ t.exponent = none ∧
    Json.Numeral.ofDigits (t.whole.1.map Fin.val) = n ∧ n < countLimit

/-- An array with these elements. -/
def WritesArray (written : List Element → Prop) (s : Phrase) : Prop :=
  ∃ inner es, s = .array inner es ∧ written es

/-- An array with one element for each item. -/
def WritesList {α : Type} (written : α → Phrase → Prop) (as : List α) : Phrase → Prop :=
  WritesArray fun es => List.Forall₂ (fun e a => written a e.value) es as

/-- Elements that are written one after the other are those of a list. -/
theorem writesArray_eq_writesList {α : Type} {written : α → Phrase → Prop}
    {all : List α → List Element → Prop} (hnil : ∀ es, all [] es ↔ es = [])
    (hcons : ∀ a as es, all (a :: as) es ↔
      ∃ e rest, es = e :: rest ∧ written a e.value ∧ all as rest) (as : List α) :
    WritesArray (all as) = WritesList written as := by
  refine congrArg WritesArray (funext fun es => propext ?_)
  induction as generalizing es with
  | nil => rw [hnil, List.forall₂_nil_right_iff]
  | cons a as ih =>
    rw [hcons, List.forall₂_cons_right_iff]
    constructor
    · rintro ⟨e, rest, rfl, he, hrest⟩
      exact ⟨e, rest, he, (ih rest).mp hrest, rfl⟩
    · rintro ⟨e, rest, he, hrest, rfl⟩
      exact ⟨e, rest, rfl, he, (ih rest).mpr hrest⟩

/-- What there is, or `null`. -/
def WritesOption {α : Type} (written : α → Phrase → Prop) : Option α → Phrase → Prop
  | none, s => s = .null
  | some a, s => written a s

/-- An object whose only key names the alternative. -/
def WritesChoice (name : String) (written : Phrase → Prop) (s : Phrase) : Prop :=
  ∃ inner e, s = .object inner [e] ∧ e.name? = some name ∧ written e.element.value

/-! ### Type expressions -/

mutual

/-- The phrase writes the type expression. -/
def TypeUse.Written : TypeUse → Phrase → Prop
  | .primitive type => WritesChoice "primitive" (WritesText type.name)
  | .reference name args =>
    WritesChoice "class" (WritesRecord
      [must "name" (WritesText name), may "args" args [] (WritesArray (TypeUse.AllWritten args))])
  | .array component n =>
    WritesChoice "array" (WritesRecord
      [must "component" component.Written, may "dimensions" n 1 (WritesCount n)])
  | .wildcard upper lower =>
    WritesChoice "wildcard" (WritesRecord
      [may "extends" upper none (TypeUse.OptionWritten upper),
       may "super" lower none (TypeUse.OptionWritten lower)])
  | .variable name => WritesChoice "type_var" (WritesText name)
  | .nullable inner => WritesChoice "nullable" inner.Written

/-- The elements write the type expressions. -/
def TypeUse.AllWritten : List TypeUse → List Element → Prop
  | [], es => es = []
  | t :: ts, es => ∃ e rest, es = e :: rest ∧ t.Written e.value ∧ TypeUse.AllWritten ts rest

/-- The phrase writes the type expression, or is `null`. -/
def TypeUse.OptionWritten : Option TypeUse → Phrase → Prop
  | none, s => s = .null
  | some t, s => t.Written s

end

theorem TypeUse.writesArray_allWritten (ts : List TypeUse) :
    WritesArray (TypeUse.AllWritten ts) = WritesList TypeUse.Written ts :=
  writesArray_eq_writesList (fun _ => Iff.rfl) (fun _ _ _ => Iff.rfl) ts

theorem TypeUse.optionWritten_eq (t : Option TypeUse) :
    TypeUse.OptionWritten t = WritesOption TypeUse.Written t := by
  cases t <;> rfl

/-! ### Parts of members -/

/-- The phrase writes the type parameter. -/
def TypeParam.Written (p : TypeParam) : Phrase → Prop :=
  WritesRecord
    [must "name" (WritesText p.name),
     may "bound" p.bound none (WritesOption TypeUse.Written p.bound)]

/-- The phrase writes the parameter. -/
def Param.Written (p : Param) : Phrase → Prop :=
  WritesRecord
    [must "name" (WritesText p.name), must "type" p.type.Written,
     may "varargs" p.variadic false (WritesFlag p.variadic)]

/-- How a method is written. -/
def Method.clauses (m : Method) : List Clause :=
  [must "name" (WritesText m.name),
   may "property" m.property none (WritesOption WritesText m.property),
   may "return_type" m.returnType none (WritesOption TypeUse.Written m.returnType),
   may "params" m.params [] (WritesList Param.Written m.params),
   may "type_params" m.typeParams [] (WritesList TypeParam.Written m.typeParams),
   may "javadoc" m.doc none (WritesOption WritesText m.doc),
   may "public" m.isPublic true (WritesFlag m.isPublic),
   may "static" m.isStatic false (WritesFlag m.isStatic),
   may "override" m.isOverride false (WritesFlag m.isOverride)]

/-- How a field is written. -/
def Field.clauses (f : Field) : List Clause :=
  [must "name" (WritesText f.name), must "type" f.type.Written,
   may "javadoc" f.doc none (WritesOption WritesText f.doc),
   may "public" f.isPublic true (WritesFlag f.isPublic),
   may "static" f.isStatic false (WritesFlag f.isStatic),
   may "final" f.isFinal false (WritesFlag f.isFinal)]

/-! ### Types and members -/

/-- An object that also holds the tag of a member, with nothing in it but what fits. -/
def WritesTagged (fits : Phrase → Prop) (tag : String) (clauses : List Clause) (s : Phrase) :
    Prop :=
  WritesRecord (must "member" (WritesText tag) :: clauses) s ∧ ∀ t ∈ s.parts, fits t

variable (fits : Phrase → Prop)

mutual

/-- How a type is written. -/
def TypeDecl.clauses : TypeDecl → List Clause
  | ⟨name, kind, typeParams, superTypes, interfaces, members, doc, isPublic, isStatic⟩ =>
    [must "name" (WritesText name), must "kind" (WritesText kind.word),
     may "type_params" typeParams [] (WritesList TypeParam.Written typeParams),
     may "super_types" superTypes [] (WritesList TypeUse.Written superTypes),
     may "interfaces" interfaces [] (WritesList TypeUse.Written interfaces),
     may "members" members [] (WritesArray (Member.AllWritten members)),
     may "javadoc" doc none (WritesOption WritesText doc),
     may "public" isPublic true (WritesFlag isPublic),
     may "static" isStatic false (WritesFlag isStatic)]

/-- The phrase writes the member, together with its tag. -/
def Member.Written : Member → Phrase → Prop
  | .method kind m => WritesTagged fits kind.word m.clauses
  | .field f => WritesTagged fits "field" f.clauses
  | .nested type => WritesTagged fits "type" type.clauses

/-- The elements write the members. -/
def Member.AllWritten : List Member → List Element → Prop
  | [], es => es = []
  | m :: ms, es => ∃ e rest, es = e :: rest ∧ m.Written e.value ∧ Member.AllWritten ms rest

end

/-- The phrase writes the type. -/
def TypeDecl.Written (type : TypeDecl) : Phrase → Prop :=
  WritesRecord (type.clauses fits)

/-- The phrase writes the model. -/
def Model.Written (model : Model) : Phrase → Prop :=
  WritesRecord [must "types" (WritesList (TypeDecl.Written fits) model.types)]

variable {fits}

theorem Member.writesArray_allWritten (ms : List Member) :
    WritesArray (Member.AllWritten fits ms) = WritesList (Member.Written fits) ms :=
  writesArray_eq_writesList (fun _ => Iff.rfl) (fun _ _ _ => Iff.rfl) ms

end Ambient.Record

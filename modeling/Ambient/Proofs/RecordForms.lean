/-
Records have the form of their format.

A format describes how a kind of record is read.  What it demands of a phrase is again a
list of clauses, one for each field (`Tuple.clauses`), and these are the clauses by which
the record is written.

* `Slot.Written`, `Tuple.clauses`, `Format.Written` — what a format demands;
* `Kind.written_format` — every record that is written has the form of its format;
* `Partial.seen` — the fields of a record that have been read when some keys have been
  seen, with `read_seen` for one more key and `complete_seen` for the end.
-/
import Ambient.Proofs.RecordNotation
import Ambient.Record.OfValue

namespace Ambient.Record

open Json (Fault Phrase Element Entry ok_bind)

/-! ### What a format demands -/

section

variable (fits : Phrase → Prop)

/-- The phrase writes the record of this kind. -/
def Kind.Written : (k : Kind) → k.Carrier → Phrase → Prop
  | .model => Model.Written fits
  | .typeDecl => TypeDecl.Written fits
  | .definitionKind => fun kind => WritesText kind.word
  | .typeUse => TypeUse.Written
  | .primitive => fun type => WritesText type.name
  | .typeParam => TypeParam.Written
  | .member => Member.Written fits
  | .param => Param.Written

/-- The phrase writes what is in the slot. -/
def Slot.Written : (s : Slot) → s.Carrier → Phrase → Prop
  | .text => WritesText
  | .flag => WritesFlag
  | .count => WritesCount
  | .one k => k.Written fits
  | .many k => WritesList (k.Written fits)
  | .textOrNull => WritesOption WritesText
  | .oneOrNull k => WritesOption (k.Written fits)

/-- What a field demands. -/
def FieldFormat.clause (f : FieldFormat) (a : f.slot.Carrier) : Clause :=
  ⟨f.key, f.default? = some a, f.slot.Written fits a⟩

/-- What the fields demand. -/
def Tuple.clauses : (fields : List FieldFormat) → Tuple fields → List Clause
  | [], () => []
  | f :: fs, (a, t) => f.clause fits a :: Tuple.clauses fs t

/-- The keys of a record. -/
def RecordFormat.keys {α : Type} (r : RecordFormat α) : List String :=
  r.fields.map (·.key)

/-- The phrase has the form of the record. -/
def RecordFormat.Written {α : Type} (r : RecordFormat α) (a : α) (s : Phrase) : Prop :=
  r.keys.Nodup ∧ ∃ t, r.build t = a ∧ WritesRecord (Tuple.clauses fits r.fields t) s

/-- The phrase has the form of the contents. -/
def Contents.Written {α : Type} : Contents α → α → Phrase → Prop
  | .nothing _, _, _ => False
  | .slot sl build, a, s => ∃ x, build x = a ∧ sl.Written fits x s
  | .record r, a, s => r.Written fits a s

/-- The phrase has the form of the tagged record. -/
def RecordFormat.WrittenWith {α : Type} (r : RecordFormat α) (key tag : String) (a : α)
    (s : Phrase) : Prop :=
  (key :: r.keys).Nodup ∧ ∃ t, r.build t = a ∧
    WritesRecord (must key (WritesText tag) :: Tuple.clauses fits r.fields t) s ∧
      ∀ u ∈ s.parts, fits u

/-- The phrase has the form. -/
def Format.Written {α : Type} : Format α → α → Phrase → Prop
  | .record r, a, s => r.Written fits a s
  | .choice alternatives, a, s =>
    (∃ name, (Alternative.byName alternatives).lookup name = some (.nothing a) ∧
      WritesText name s) ∨
    (∃ name contents, (Alternative.byName alternatives).lookup name = some contents ∧
      WritesChoice name (contents.Written fits a) s)
  | .tagged _ key records, a, s =>
    ∃ tag r, records.lookup tag = some r ∧ r.WrittenWith fits key tag a s

end

/-! ### Records have the form of their format -/

section

variable {fits : Phrase → Prop}

theorem clause_required (key : String) (slot : Slot) (a : slot.Carrier) :
    (FieldFormat.required key slot).clause fits a = must key (slot.Written fits a) := by
  simp [FieldFormat.clause, FieldFormat.required, must]

theorem clause_of_default (key : String) (slot : Slot) (a default : slot.Carrier) :
    (⟨key, slot, some default⟩ : FieldFormat).clause fits a =
      may key a default (slot.Written fits a) := by
  simp [FieldFormat.clause, may, eq_comm]

variable {fields : List FieldFormat} {t : Tuple fields} {cs : List Clause}

theorem clauses_required {key : String} {slot : Slot} {a : slot.Carrier}
    (h : Tuple.clauses fits fields t = cs) :
    Tuple.clauses fits (.required key slot :: fields) (a, t) =
      must key (slot.Written fits a) :: cs :=
  congrArg₂ List.cons (clause_required key slot a) h

theorem clauses_default {key : String} {slot : Slot} {a default : slot.Carrier}
    (h : Tuple.clauses fits fields t = cs) :
    Tuple.clauses fits (⟨key, slot, some default⟩ :: fields) (a, t) =
      may key a default (slot.Written fits a) :: cs :=
  congrArg₂ List.cons (clause_of_default key slot a default) h

theorem Method.clauses_eq (m : Method) :
    Tuple.clauses fits methodFormat.fields (m.name, m.property, m.returnType, m.params,
      m.typeParams, m.doc, m.isPublic, m.isStatic, m.isOverride, ()) = m.clauses :=
  clauses_required <| clauses_default <| clauses_default <| clauses_default <| clauses_default <|
    clauses_default <| clauses_default <| clauses_default <| clauses_default rfl

theorem Field.clauses_eq (f : Field) :
    Tuple.clauses fits fieldFormat.fields
      (f.name, f.type, f.doc, f.isPublic, f.isStatic, f.isFinal, ()) = f.clauses :=
  clauses_required <| clauses_required <| clauses_default <| clauses_default <|
    clauses_default <| clauses_default rfl

theorem TypeDecl.build_eq (type : TypeDecl) :
    typeDeclFormat.build (type.name, type.kind, type.typeParams, type.superTypes, type.interfaces,
      type.members, type.doc, type.isPublic, type.isStatic, ()) = type := by
  cases type
  rfl

theorem TypeDecl.clauses_eq (type : TypeDecl) :
    Tuple.clauses fits typeDeclFormat.fields (type.name, type.kind, type.typeParams,
      type.superTypes, type.interfaces, type.members, type.doc, type.isPublic, type.isStatic, ()) =
      type.clauses fits := by
  obtain ⟨name, kind, typeParams, superTypes, interfaces, members, doc, isPublic, isStatic⟩ := type
  rw [TypeDecl.clauses, Member.writesArray_allWritten]
  exact clauses_required <| clauses_required <| clauses_default <| clauses_default <|
    clauses_default <| clauses_default <| clauses_default <| clauses_default <| clauses_default rfl

/-- An alternative that is only named. -/
theorem Format.written_name {α : Type} {alternatives : List (Alternative α)} {a : α} {name : String}
    {s : Phrase} (h : (Alternative.byName alternatives).lookup name = some (.nothing a))
    (hs : WritesText name s) : (Format.choice alternatives).Written fits a s :=
  .inl ⟨name, h, hs⟩

theorem WritesChoice.imp {name : String} {P Q : Phrase → Prop} {s : Phrase}
    (h : WritesChoice name P s) (himp : ∀ u, P u → Q u) : WritesChoice name Q s := by
  obtain ⟨inner, e, rfl, hname, he⟩ := h
  exact ⟨inner, e, rfl, hname, himp _ he⟩

/-- An alternative with its contents. -/
theorem Format.written_choice {α : Type} {alternatives : List (Alternative α)} {a : α}
    {name : String} {contents : Contents α} {P : Phrase → Prop} {s : Phrase}
    (h : (Alternative.byName alternatives).lookup name = some contents) (hs : WritesChoice name P s)
    (himp : ∀ u, P u → contents.Written fits a u) :
    (Format.choice alternatives).Written fits a s :=
  .inr ⟨name, contents, h, hs.imp himp⟩

theorem WritesRecord.of_eq {s : Phrase} (h : WritesRecord cs s)
    (ht : Tuple.clauses fits fields t = cs) : WritesRecord (Tuple.clauses fits fields t) s :=
  ht ▸ h

theorem WritesTagged.of_eq {tag : String} {s : Phrase} (h : WritesTagged fits tag cs s)
    (ht : Tuple.clauses fits fields t = cs) :
    WritesTagged fits tag (Tuple.clauses fits fields t) s :=
  ht ▸ h

/-- Every type expression that is written has the form of one of the alternatives. -/
theorem TypeUse.written_format {type : TypeUse} {s : Phrase} (h : type.Written s) :
    (Format.choice typeUseAlternatives).Written fits type s := by
  cases type with
  | primitive p =>
    refine Format.written_choice rfl h fun u hu => ?_
    exact ⟨p, rfl, hu⟩
  | reference name args =>
    rw [TypeUse.Written, TypeUse.writesArray_allWritten] at h
    refine Format.written_choice rfl h fun u hu => ?_
    exact ⟨by decide, (name, args, ()), rfl, hu.of_eq (clauses_required <| clauses_default rfl)⟩
  | array component n =>
    refine Format.written_choice rfl h fun u hu => ?_
    exact ⟨by decide, (component, n, ()), rfl, hu.of_eq (clauses_required <| clauses_default rfl)⟩
  | wildcard upper lower =>
    rw [TypeUse.Written, TypeUse.optionWritten_eq, TypeUse.optionWritten_eq] at h
    refine Format.written_choice rfl h fun u hu => ?_
    exact ⟨by decide, (upper, lower, ()), rfl, hu.of_eq (clauses_default <| clauses_default rfl)⟩
  | «variable» name =>
    refine Format.written_choice rfl h fun u hu => ?_
    exact ⟨name, rfl, hu⟩
  | nullable inner =>
    refine Format.written_choice rfl h fun u hu => ?_
    exact ⟨inner, rfl, hu⟩

/-- The tag of a member names its record. -/
theorem Member.written_format {m : Member} {s : Phrase} (h : m.Written fits s) :
    Kind.member.format.Written fits m s := by
  cases m with
  | method kind m =>
    have hkeys : ("member" :: methodFormat.keys).Nodup := by decide
    have hm := WritesTagged.of_eq h m.clauses_eq
    cases kind with
    | plain => exact ⟨"method", _, rfl, hkeys, _, rfl, hm⟩
    | constructor => exact ⟨"constructor", _, rfl, hkeys, _, rfl, hm⟩
    | getter => exact ⟨"getter", _, rfl, hkeys, _, rfl, hm⟩
    | setter => exact ⟨"setter", _, rfl, hkeys, _, rfl, hm⟩
  | field f =>
    have hkeys : ("member" :: fieldFormat.keys).Nodup := by decide
    exact ⟨"field", _, rfl, hkeys, _, rfl, WritesTagged.of_eq h f.clauses_eq⟩
  | nested type =>
    have hkeys : ("member" :: typeDeclFormat.keys).Nodup := by decide
    exact ⟨"type", _, rfl, hkeys, _, congrArg Member.nested type.build_eq,
      WritesTagged.of_eq h type.clauses_eq⟩

/-- **Every record that is written has the form of its format.** -/
theorem Kind.written_format {k : Kind} {a : k.Carrier} {s : Phrase} (h : k.Written fits a s) :
    k.format.Written fits a s := by
  cases k with
  | model => exact ⟨by decide, (a.types, ()), rfl, h.of_eq (clauses_required rfl)⟩
  | typeDecl =>
    exact ⟨by decide, _, TypeDecl.build_eq a, WritesRecord.of_eq h (TypeDecl.clauses_eq a)⟩
  | definitionKind => cases a <;> exact Format.written_name rfl h
  | typeUse => exact TypeUse.written_format h
  | primitive => cases a <;> exact Format.written_name rfl h
  | typeParam =>
    exact ⟨by decide, (a.name, a.bound, ()), rfl,
      WritesRecord.of_eq h (clauses_required <| clauses_default rfl)⟩
  | member => exact Member.written_format h
  | param =>
    exact ⟨by decide, (a.name, a.type, a.variadic, ()), rfl,
      WritesRecord.of_eq h (clauses_required <| clauses_required <| clauses_default rfl)⟩

end

/-! ### Fields read so far -/

/-- Something holds of every field and its value. -/
def Tuple.All (P : (f : FieldFormat) → f.slot.Carrier → Prop) :
    (fields : List FieldFormat) → Tuple fields → Prop
  | [], () => True
  | f :: fs, (a, t) => P f a ∧ Tuple.All P fs t

theorem Tuple.All.imp {P Q : (f : FieldFormat) → f.slot.Carrier → Prop} {fields : List FieldFormat}
    {t : Tuple fields} (h : Tuple.All P fields t) (himp : ∀ f ∈ fields, ∀ a, P f a → Q f a) :
    Tuple.All Q fields t := by
  induction fields with
  | nil => trivial
  | cons f fs ih =>
    obtain ⟨hhead, htail⟩ := List.forall_mem_cons.mp himp
    exact ⟨hhead t.1 h.1, ih h.2 htail⟩

theorem Tuple.all_of_clauses {fits : Phrase → Prop} {Q : Clause → Prop} {fields : List FieldFormat}
    {t : Tuple fields} (h : ∀ c ∈ Tuple.clauses fits fields t, Q c) :
    Tuple.All (fun f a => Q (f.clause fits a)) fields t := by
  induction fields with
  | nil => trivial
  | cons f fs ih =>
    obtain ⟨hhead, htail⟩ := List.forall_mem_cons.mp h
    exact ⟨hhead, ih htail⟩

namespace Partial

/-- The fields that have been read when these keys have been seen. -/
def seen (keys : List String) : (fields : List FieldFormat) → Tuple fields → Partial fields
  | [], () => ()
  | f :: fs, (a, t) => (if f.key ∈ keys then some a else Option.none, seen keys fs t)

theorem seen_nil (fields : List FieldFormat) (t : Tuple fields) :
    seen [] fields t = none fields := by
  induction fields with
  | nil => rfl
  | cons f fs ih => rw [seen, none, ih, if_neg List.not_mem_nil]

/-- A key that belongs to no field changes nothing. -/
theorem seen_cons_of_not_mem {key : String} {keys : List String} {fields : List FieldFormat}
    {t : Tuple fields} (h : key ∉ fields.map (·.key)) :
    seen (key :: keys) fields t = seen keys fields t := by
  induction fields with
  | nil => rfl
  | cons f fs ih =>
    obtain ⟨hne, htail⟩ := not_or.mp (List.mem_cons.not.mp h)
    have hmem : f.key ∈ key :: keys ↔ f.key ∈ keys := by
      rw [List.mem_cons, or_iff_right (Ne.symm hne)]
    rw [seen, seen, ih htail]
    simp only [hmem]

section

variable {σ : Type} {rd : (s : Slot) → Except Fault (s.Carrier × σ)} {key : String}
  {keys : List String} {fields : List FieldFormat} {t : Tuple fields}

theorem read_other {f : FieldFormat} {fs : List FieldFormat} (h : f.key ≠ key)
    (value : Option f.slot.Carrier) (rest : Partial fs) :
    @read σ rd key (f :: fs) (value, rest) = do
      match ← read rd key rest with
      | some (rest, s) => return some ((value, rest), s)
      | Option.none => return Option.none := by
  cases value <;> exact if_neg h

theorem read_of_not_mem (known : Partial fields) (h : key ∉ fields.map (·.key)) :
    read rd key known = .ok Option.none := by
  induction fields with
  | nil => rfl
  | cons f fs ih =>
    obtain ⟨hne, htail⟩ := not_or.mp (List.mem_cons.not.mp h)
    obtain ⟨value, rest⟩ := known
    rw [read_other (Ne.symm hne), ih rest htail]
    rfl

/-- The field of a key that has not been seen is read. -/
theorem read_seen {s : σ} (hfields : (fields.map (·.key)).Nodup) (hmem : key ∈ fields.map (·.key))
    (hkey : key ∉ keys)
    (hread : Tuple.All (fun f a => f.key = key → rd f.slot = .ok (a, s)) fields t) :
    read rd key (seen keys fields t) = .ok (some (seen (key :: keys) fields t, s)) := by
  induction fields with
  | nil => cases hmem
  | cons f fs ih =>
    obtain ⟨hnot, hfields⟩ := List.nodup_cons.mp hfields
    by_cases hf : f.key = key
    · subst hf
      rw [seen, if_neg hkey, read, if_pos rfl, hread.1 rfl, ok_bind, seen,
        if_pos List.mem_cons_self, seen_cons_of_not_mem hnot]
      rfl
    · have hmem' : key ∈ fs.map (·.key) := (List.mem_cons.mp hmem).resolve_left (Ne.symm hf)
      have hcons : f.key ∈ key :: keys ↔ f.key ∈ keys := by
        rw [List.mem_cons, or_iff_right hf]
      rw [seen, read_other hf, ih hfields hmem' hread.2, seen]
      simp only [hcons]
      rfl

/-- The fields are complete if those whose keys have not been seen have their defaults. -/
theorem complete_seen
    (h : Tuple.All (fun f a => f.key ∈ keys ∨ f.default? = some a) fields t) :
    complete (seen keys fields t) = .ok t := by
  induction fields with
  | nil => rfl
  | cons f fs ih =>
    rw [seen, complete, ih h.2]
    by_cases hf : f.key ∈ keys
    · rw [if_pos hf]
      rfl
    · rw [if_neg hf, h.1.resolve_left hf]
      rfl

end

end Partial

end Ambient.Record

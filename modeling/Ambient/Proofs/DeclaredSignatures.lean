/-
Signatures of the methods to declare.

Repeated signatures are dropped while accessors still have the names of their
properties.  An accessor in conflict then gets its own name, and with it a signature that
nobody has compared with the others.  This file says when no signature is declared
twice:

* `nodup_signatures_kept` — of the methods that are kept, no two have one signature;
* `nodup_declaredMethods_iff` — of those that are declared, no two have one exactly if
  each accessor in conflict gets a signature that is free;
* `nodup_of_ofAccessor` — with names of properties that are read off those of methods,
  it is enough that no method that is kept has the signature that an accessor would get.
-/
import Mathlib.Data.List.Nodup
import Ambient.Proofs.PlainMethods

namespace Ambient.Definition

variable {c : Catalogue} {d : Definition} {excluded : List String}

/-! ### Before anything is renamed -/

theorem nodup_signatures_kept :
    (((d.kept excluded).filterMap Member.method?).map Method.signature).Nodup := by
  rw [kept, dropDuplicates, filterMap_dropKnown]
  exact nodup_signatures_selectNew _ _ _

/-- One method is kept of each signature. -/
theorem eq_of_signature_eq {m o : Method} (hm : .method m ∈ d.kept excluded)
    (ho : .method o ∈ d.kept excluded) (hs : m.signature = o.signature) : m = o :=
  List.inj_on_of_nodup_map nodup_signatures_kept (mem_filterMap_method?_iff.mpr hm)
    (mem_filterMap_method?_iff.mpr ho) hs

/-! ### In the end -/

/-- The methods to declare. -/
def declaredMethods (c : Catalogue) (excluded : List String) (d : Definition) : List Method :=
  (d.cleanMembers c excluded).filterMap Member.method?

theorem signature_toPlain {m : Method} (h : m.isAccessor) :
    m.toPlain.signature = ⟨m.methodName, m.params.map (·.type.erasure)⟩ := by
  rw [Method.toPlain, if_pos h]
  rfl

/-- **No signature is declared twice** exactly if no accessor in conflict gets one that
another method has in the end: neither that of a method that stays as it is nor that of
another accessor in conflict. -/
theorem nodup_declaredMethods_iff (c : Catalogue) (excluded : List String) (d : Definition) :
    ((d.declaredMethods c excluded).map Method.signature).Nodup ↔
      ∀ r o, .method r ∈ d.kept excluded → d.inConflict excluded r →
        .method o ∈ d.kept excluded → o ≠ r →
          (if d.inConflict excluded o then o.toPlain else o).signature ≠ r.toPlain.signature := by
  have hsignature : ∀ m : Method, (d.settleMethod c (d.kept excluded) m).signature =
      (if d.inConflict excluded m then m.toPlain else m).signature := by
    intro m
    rw [signature_settleMethod, apply_ite Method.signature]
  rw [declaredMethods, filterMap_cleanMembers, List.map_map,
    List.nodup_map_iff_inj_on (nodup_signatures_kept.of_map _)]
  simp only [mem_filterMap_method?_iff, Function.comp_apply, hsignature]
  constructor
  · intro hinj r o hr hconflict ho hne hs
    refine hne (hinj o ho r hr ?_)
    rwa [if_pos hconflict]
  · intro hfree m hm o ho hs
    by_contra hne
    by_cases hmc : d.inConflict excluded m
    · refine hfree m o hm hmc ho (Ne.symm hne) ?_
      rw [← hs, if_pos hmc]
    · by_cases hoc : d.inConflict excluded o
      · refine hfree o m ho hoc hm hne ?_
        rw [hs, if_pos hoc]
      · -- Neither is in conflict, so the signatures are what they were when all differed.
        rw [if_neg hmc, if_neg hoc] at hs
        exact hne (eq_of_signature_eq hm ho hs)

/-- With property names that are read off those of the methods, no signature is declared
twice if no method that is kept has the own name and the parameters of an accessor. -/
theorem nodup_of_ofAccessor
    (hread : ∀ m, .method m ∈ d.kept excluded → m.isAccessor →
      Property.ofAccessor m.methodName = some m.name)
    (hown : ∀ m o, .method m ∈ d.kept excluded → m.isAccessor → .method o ∈ d.kept excluded →
      o.signature ≠ m.toPlain.signature) :
    ((d.declaredMethods c excluded).map Method.signature).Nodup := by
  refine (nodup_declaredMethods_iff c excluded d).mpr fun r o hr hrc ho hne hs => ?_
  have hracc := isAccessor_of_inConflict hrc
  by_cases hoc : d.inConflict excluded o
  · -- Both get one name of their own, so they were read as one property.
    have hoacc := isAccessor_of_inConflict hoc
    rw [if_pos hoc, signature_toPlain hoacc, signature_toPlain hracc] at hs
    obtain ⟨hmethod, hparams⟩ := Signature.mk.inj hs
    have hname : o.name = r.name := by
      have hsome := hread o ho hoacc
      rw [hmethod, hread r hr hracc] at hsome
      exact (Option.some.inj hsome).symm
    refine hne (eq_of_signature_eq ho hr ?_)
    rw [Method.signature, Method.signature, hname, hparams]
  · rw [if_neg hoc] at hs
    exact hown r o hr hracc ho hs

/-- A class with a setter of the property `x` for `int`, a method of the setter's name for
`long`, and a field `x`. -/
def dial : Definition :=
  { Definition.empty .classType (.simple "a.Dial") with
    members :=
      [.method (.setter "x" "setX" ⟨"k", .simple "int", false⟩ "a.Dial"),
       .method (.plain "setX" .void [⟨"k", .simple "long", false⟩] "a.Dial"),
       .field { name := "x", type := .simple "int" }] }

/-- The field takes the name of the property, and the setter the signature of the method. -/
theorem not_nodup_dial :
    ∃ c, Catalogue.ofList [dial] = .ok c ∧
      ¬((dial.declaredMethods c []).map Method.signature).Nodup ∧
      moduleText c {} "a" [dial] = unlines
        ["declare module 'a' \x7b", "  export class Dial \x7b", "    setX(k: number): void;",
          "    setX(k: number): void;", "    x: number;", "  \x7d", "\x7d"] :=
  ⟨{ roots := [dial] }, rfl, by decide, by decide +kernel⟩

end Ambient.Definition

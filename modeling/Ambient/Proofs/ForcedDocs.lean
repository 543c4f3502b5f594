/-
Documentation that is copied by force.

A method without documentation takes that of the methods of its signature in the
ancestors.  Completing a definition copies methods first and documentation last,
from the ancestors that are left by then:

* `Method.lacksDoc_withDocOf` — when a method is documented after looking through
  others;
* `Catalogue.DocumentsAbove` — an ancestor documents a method of a signature;
* `Generator.methods_refine_of_forcesDocs` — the methods of a completed
  definition, with where their documentation comes from;
* `Generator.transform_documents` — which of the definitions that come out of a
  run have documentation for all that is documented above them: all of them, unless
  they are flattened.
-/
import Ambient.Proofs.Flattening

namespace Ambient

namespace Method

variable {m o : Method} {inherited : List Method}

theorem withDocOf_cons : m.withDocOf (o :: inherited) =
    (if m.lacksDoc && m.signature = o.signature then { m with doc := o.doc }
      else m).withDocOf inherited :=
  rfl

@[simp]
theorem signature_withDocOf : (m.withDocOf inherited).signature = m.signature := by
  induction inherited generalizing m with
  | nil => rfl
  | cons o inherited ih =>
    rw [withDocOf_cons, ih]
    split <;> rfl

/-- Nothing but the documentation is changed. -/
theorem withDocOf_same :
    m.withDocOf inherited = { m with doc := (m.withDocOf inherited).doc } := by
  induction inherited generalizing m with
  | nil => rfl
  | cons o inherited ih =>
    rw [withDocOf_cons]
    split
    · exact ih
    · exact ih

/-- Documentation that is there stays. -/
theorem withDocOf_of_lacksDoc (h : m.lacksDoc = false) : m.withDocOf inherited = m := by
  induction inherited with
  | nil => rfl
  | cons o inherited ih =>
    rw [withDocOf_cons, h, Bool.false_and]
    exact ih

/-- A method has documentation afterwards if it had any, or if another one of its
signature has. -/
theorem lacksDoc_withDocOf : (m.withDocOf inherited).lacksDoc = false ↔
    m.lacksDoc = false ∨ ∃ o ∈ inherited, o.signature = m.signature ∧ o.lacksDoc = false := by
  induction inherited generalizing m with
  | nil => simp [withDocOf]
  | cons o inherited ih =>
    rw [withDocOf_cons, ih]
    simp only [List.exists_mem_cons_iff]
    by_cases hm : m.lacksDoc = true
    · by_cases hs : m.signature = o.signature
      · -- The method has the documentation of `o` now, whether that is any or not.
        rw [if_pos (by simp [hm, hs])]
        have hsame : ({ m with doc := o.doc } : Method).lacksDoc = o.lacksDoc := rfl
        have hkept : ({ m with doc := o.doc } : Method).signature = m.signature := rfl
        rw [hsame, hkept]
        simp [hm, hs]
      · have hs' : o.signature ≠ m.signature := Ne.symm hs
        simp [hs, hs']
    · simp [hm]

end Method

/-- An ancestor of the definition has documentation for a method of the signature. -/
def Catalogue.DocumentsAbove (c : Catalogue) (d : Definition) (s : Signature) : Prop :=
  ∃ a, c.Inherits d a ∧ ∃ m ∈ a.methods, m.signature = s ∧ m.lacksDoc = false

theorem Catalogue.documentsAbove_iff {c : Catalogue} {d : Definition} {s : Signature} :
    c.DocumentsAbove d s ↔ ∃ o ∈ (c.ancestors d).flatMap Definition.methods,
      o.signature = s ∧ o.lacksDoc = false := by
  simp only [DocumentsAbove, ← mem_ancestors_iff, List.mem_flatMap]
  constructor
  · rintro ⟨a, ha, m, hm, h⟩
    exact ⟨m, ⟨a, ha, hm⟩, h⟩
  · rintro ⟨m, ⟨a, ha, hm⟩, h⟩
    exact ⟨a, ha, m, hm, h⟩

namespace Definition

theorem methods_withForcedDocs (c : Catalogue) (d : Definition) :
    (d.withForcedDocs c).methods =
      d.methods.map (·.withDocOf ((c.ancestors d).flatMap methods)) := by
  refine filterMap_map_comm fun m _ => ?_
  cases m <;> rfl

end Definition

namespace Generator

variable (g : Generator) (c : Catalogue) (d : Definition)

/-- After its copies, a definition has the ancestors it had, or none if it is
flattened. -/
theorem ancestors_inheriting :
    c.ancestors (g.inheriting c d) = if g.settings.flattens then [] else c.ancestors d := by
  unfold inheriting
  split
  · exact Definition.ancestors_flattened
  · rfl

/-- What a definition takes documentation from: its ancestors are looked through
once it has its copies, when a flattened one has none. -/
def documented : List Method :=
  if g.settings.flattens then [] else (c.ancestors d).flatMap Definition.methods

theorem methods_refine_of_forcesDocs (hf : g.settings.forcesDocs = true) :
    (g.refine c d).methods =
      (d.methods ++ g.copies c d).map (·.withDocOf (g.documented c d)) := by
  have hdocumented : (c.ancestors (g.inheriting c (g.withRefined c d))).flatMap
      Definition.methods = g.documented c d := by
    rw [ancestors_inheriting_withRefined, ancestors_inheriting, documented]
    split <;> rfl
  rw [refine_eq_complete, complete_eq, if_pos hf, Definition.methods_withForcedDocs, hdocumented,
    methods_inheriting, methods_withRefined, copies_withRefined]

/-- In the completed definition, all methods have documentation that an ancestor has
any for. -/
def Documents : Prop :=
  ∀ m ∈ (g.refine c d).methods, c.DocumentsAbove d m.signature → m.lacksDoc = false

/-- A definition that is not flattened documents whatever is documented above it. -/
theorem documents_of_not_flattens (hf : g.settings.forcesDocs = true)
    (hflat : g.settings.flattens = false) : g.Documents c d := by
  intro m hm habove
  rw [methods_refine_of_forcesDocs g c d hf] at hm
  obtain ⟨m, -, rfl⟩ := List.mem_map.mp hm
  rw [Method.signature_withDocOf] at habove
  rw [Method.lacksDoc_withDocOf, documented, hflat]
  exact .inr (Catalogue.documentsAbove_iff.mp habove)

/-- Flattened definitions keep the documentation that they and their copies have. -/
theorem methods_refine_of_flattens (hflat : g.settings.flattens = true) :
    (g.refine c d).methods = d.methods ++ g.copies c d := by
  cases hf : g.settings.forcesDocs with
  | false => exact g.methods_refine c d hf
  | true =>
    rw [methods_refine_of_forcesDocs g c d hf, documented, hflat]
    exact List.map_id _

/-- **Forced documentation** reaches every method that is documented above it, in
the selected definitions and all nested in them, unless they are flattened.  Then
nothing is copied, so it is there if it was there before. -/
theorem transform_documents (hf : g.settings.forcesDocs = true) :
    (g.transform c).flatMap Definition.withNested =
      ((g.selected c).flatMap Definition.withNested).map (g.refine c) ∧
    ∀ d, g.Documents c d ↔
      (g.settings.flattens = true → ∀ m ∈ d.methods ++ g.copies c d,
        c.DocumentsAbove d m.signature → m.lacksDoc = false) := by
  refine ⟨?_, fun d => ?_⟩
  · rw [transform, List.flatMap_map, List.map_flatMap]
    exact List.flatMap_congr fun d _ => g.withNested_refine c d
  · cases hflat : g.settings.flattens with
    | false =>
      have hdocuments : g.Documents c d := g.documents_of_not_flattens c d hf hflat
      exact iff_of_true hdocuments fun h => absurd h Bool.false_ne_true
    | true => rw [Documents, methods_refine_of_flattens g c d hflat, forall_prop_of_true rfl]

/-- A class that explains its work. -/
def master : Definition :=
  { Definition.empty .classType (.simple "a.Master") with
    members := [.method { Method.plain "work" .void [] "a.Master" with doc := some "Saw." }] }

/-- A class that does the same work and does not explain it. -/
def pupil : Definition :=
  { Definition.empty .classType (.simple "a.Pupil") with
    superTypes := [.simple "a.Master"]
    members := [.method { Method.plain "work" .void [] "a.Pupil" with isOverride := true }] }

/-- The two of them. -/
def workshop : Catalogue := Catalogue.indexed [pupil, master]

theorem documentsAbove_pupil : workshop.DocumentsAbove pupil ⟨"work", []⟩ := by
  have hmaster : workshop.ancestors pupil = [master] := by cbv
  refine ⟨master, ?_, _, List.mem_cons_self, rfl, by decide⟩
  rw [← Catalogue.mem_ancestors_iff, hmaster]
  exact List.mem_cons_self

/-- The pupil is given the explanation. -/
theorem transform_documents_pupil :
    let g : Generator := ⟨{ forcesDocs := true }, {}⟩
    g.settings.forcesDocs = true ∧ workshop.DocumentsAbove pupil ⟨"work", []⟩ ∧
    g.Documents workshop pupil := by
  refine ⟨rfl, documentsAbove_pupil, ?_⟩
  exact ((transform_documents ⟨{ forcesDocs := true }, {}⟩ workshop rfl).2 pupil).mpr
    fun h => absurd h Bool.false_ne_true

/-- A flattened pupil is not. -/
theorem not_documents_pupil :
    let g : Generator := ⟨{ forcesDocs := true, flattens := true }, {}⟩
    Catalogue.ofList [pupil, master] = .ok workshop ∧ pupil ∈ g.selected workshop ∧
    ¬g.Documents workshop pupil := by
  refine ⟨rfl, List.mem_cons_self, fun h => ?_⟩
  rw [Documents, methods_refine_of_flattens _ _ _ rfl] at h
  exact absurd (h _ List.mem_cons_self documentsAbove_pupil) (by decide)

end Generator

end Ambient

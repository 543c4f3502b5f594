/-
Where forced documentation comes from.

The methods of all ancestors are gone through once, and a method without documentation
takes that of each one of its signature, until it has some.  What it takes on the way may
be no documentation either, and is replaced by the next.  This file says what is left of
this in the end:

* `Method.HasDoc` — documentation that says more than to look elsewhere;
* `withDocOf_of_find?` — a method without any is given that of the first that has some;
* `withDocOf_withDocOf` — going through the same methods again changes nothing;
* `Method.TakesDoc` — at some time a method takes the documentation of another, which is
  how it comes by any (`withDocOf_eq_self_or_takesDoc`);
* `Definition.withForcedDocs_exact` — what becomes of a definition.
-/
import Mathlib.Data.List.Induction
import Ambient.Proofs.ForcedDocs

namespace Ambient

namespace Method

variable {m o : Method} {inherited : List Method}

/-! ### One method -/

/-- The method has documentation that is not empty and not just a reference to the
ancestor's. -/
def HasDoc (m : Method) : Prop :=
  ∃ doc, m.doc = some doc ∧ doc ≠ "" ∧ Text.trim doc.toList ≠ "@inheritDoc".toList

theorem hasDoc_iff : m.HasDoc ↔ m.lacksDoc = false := by
  rw [HasDoc, lacksDoc]
  generalize "@inheritDoc".toList = marker
  cases m.doc with
  | none => simp
  | some doc => simp

instance (m : Method) : Decidable m.HasDoc :=
  decidable_of_iff (m.lacksDoc = false) hasDoc_iff.symm

theorem not_hasDoc_iff : ¬m.HasDoc ↔ m.lacksDoc = true := by
  rw [hasDoc_iff, Bool.not_eq_false]

theorem withDocOf_append (inherited others : List Method) :
    m.withDocOf (inherited ++ others) = (m.withDocOf inherited).withDocOf others :=
  List.foldl_append

/-- A method without documentation is given that of the first that has some. -/
theorem withDocOf_of_find? (hm : ¬m.HasDoc)
    (ho : inherited.find? (fun o => o.signature = m.signature ∧ o.HasDoc) = some o) :
    m.withDocOf inherited = { m with doc := o.doc } := by
  induction inherited generalizing m with
  | nil => cases ho
  | cons a inherited ih =>
    rw [withDocOf_cons, not_hasDoc_iff.mp hm, Bool.true_and]
    by_cases hs : m.signature = a.signature
    · rw [if_pos (decide_eq_true hs)]
      by_cases ha : a.HasDoc
      · rw [List.find?_cons, decide_eq_true ⟨hs.symm, ha⟩] at ho
        obtain rfl : a = o := Option.some.inj ho
        have hdoc : ({ m with doc := a.doc } : Method).HasDoc := ha
        exact withDocOf_of_lacksDoc (hasDoc_iff.mp hdoc)
      · -- What it takes here is no documentation, so it is as if it had its own.
        rw [List.find?_cons_of_neg (by simp [ha])] at ho
        have hdoc : ¬({ m with doc := a.doc } : Method).HasDoc := ha
        exact ih hdoc ho
    · rw [if_neg (by simpa using hs)]
      rw [List.find?_cons_of_neg (by simp [Ne.symm hs])] at ho
      exact ih hm ho

/-- It has none in the end if there is none to be given. -/
theorem hasDoc_withDocOf_iff :
    (m.withDocOf inherited).HasDoc ↔
      m.HasDoc ∨ ∃ o ∈ inherited, o.signature = m.signature ∧ o.HasDoc := by
  simp only [hasDoc_iff, lacksDoc_withDocOf]

/-- As long as there is none to be had, the documentation is replaced by that of each
method of the signature, so the last one leaves its own. -/
theorem withDocOf_of_forall (hm : ¬m.HasDoc)
    (hnone : ∀ o ∈ inherited, o.signature = m.signature → ¬o.HasDoc) :
    m.withDocOf inherited =
      { m with
        doc := ((inherited.filter (·.signature = m.signature)).getLast?.map Method.doc).getD
          m.doc } := by
  induction inherited generalizing m with
  | nil => rfl
  | cons o inherited ih =>
    obtain ⟨ho, hrest⟩ := List.forall_mem_cons.mp hnone
    rw [withDocOf_cons, not_hasDoc_iff.mp hm, Bool.true_and]
    by_cases hs : m.signature = o.signature
    · have hdoc : ¬({ m with doc := o.doc } : Method).HasDoc := ho hs.symm
      rw [if_pos (decide_eq_true hs), List.filter_cons, if_pos (decide_eq_true hs.symm),
        List.getLast?_cons, ih hdoc hrest]
      have hsame : ({ m with doc := o.doc } : Method).signature = m.signature := rfl
      rw [hsame]
      cases (inherited.filter (·.signature = m.signature)).getLast? <;> rfl
    · rw [if_neg (by simpa using hs), List.filter_cons, if_neg (by simpa using Ne.symm hs)]
      exact ih hm hrest

/-- Going through the same methods again changes nothing. -/
theorem withDocOf_withDocOf (m : Method) (inherited : List Method) :
    (m.withDocOf inherited).withDocOf inherited = m.withDocOf inherited := by
  by_cases h : (m.withDocOf inherited).HasDoc
  · exact withDocOf_of_lacksDoc (hasDoc_iff.mp h)
  · obtain ⟨hm, hnone⟩ := not_or.mp (mt hasDoc_withDocOf_iff.mpr h)
    have hnone : ∀ o ∈ inherited, o.signature = m.signature → ¬o.HasDoc :=
      fun o ho hs hd => hnone ⟨o, ho, hs, hd⟩
    have hnone' : ∀ o ∈ inherited, o.signature = (m.withDocOf inherited).signature →
        ¬o.HasDoc := by
      rwa [signature_withDocOf]
    -- The last method of the signature leaves its documentation both times.
    rw [withDocOf_of_forall h hnone', signature_withDocOf, withDocOf_of_forall hm hnone]
    cases (inherited.filter (·.signature = m.signature)).getLast? <;> rfl

/-! ### On the way -/

/-- While some definitions are gone through one after the other, the method takes the
documentation of a method of one of them: of the same signature, and at a time when it has
none. -/
def TakesDoc (m : Method) (definitions : List Definition) (a : Definition) (o : Method) :
    Prop :=
  ∃ before after earlier later, definitions = before ++ a :: after ∧
    a.methods = earlier ++ o :: later ∧ o.signature = m.signature ∧
    ¬(m.withDocOf (before.flatMap Definition.methods ++ earlier)).HasDoc

/-- Documentation is changed by taking it, -/
theorem withDocOf_eq_self_or (m : Method) (inherited : List Method) :
    m.withDocOf inherited = m ∨
      ∃ earlier o later, inherited = earlier ++ o :: later ∧ o.signature = m.signature ∧
        ¬(m.withDocOf earlier).HasDoc ∧ m.withDocOf inherited = { m with doc := o.doc } := by
  induction inherited using List.reverseRecOn with
  | nil => exact .inl rfl
  | append_singleton inherited o ih =>
    have hlast : m.withDocOf (inherited ++ [o]) =
        if (m.withDocOf inherited).lacksDoc && m.signature = o.signature then
          { m.withDocOf inherited with doc := o.doc }
        else m.withDocOf inherited := by
      rw [withDocOf_append, withDocOf_cons, signature_withDocOf]
      rfl
    rw [hlast]
    split
    next h =>
      obtain ⟨hlacks, hs⟩ := Bool.and_eq_true_iff.mp h
      have hdoc : ({ m.withDocOf inherited with doc := o.doc } : Method) =
          { m with doc := o.doc } := by
        rw [withDocOf_same (m := m)]
      exact .inr ⟨inherited, o, [], rfl, (of_decide_eq_true hs).symm,
        not_hasDoc_iff.mpr hlacks, hdoc⟩
    next =>
      rcases ih with ih | ⟨earlier, q, later, rfl, hq⟩
      · exact .inl ih
      · exact .inr ⟨earlier, q, later ++ [o], List.append_assoc _ _ _, hq⟩

/-- and it is taken from some definition. -/
theorem withDocOf_eq_self_or_takesDoc (m : Method) (definitions : List Definition) :
    m.withDocOf (definitions.flatMap Definition.methods) = m ∨
      ∃ a o, m.TakesDoc definitions a o ∧
        m.withDocOf (definitions.flatMap Definition.methods) = { m with doc := o.doc } := by
  induction definitions using List.reverseRecOn with
  | nil => exact .inl rfl
  | append_singleton definitions b ih =>
    rw [List.flatMap_append, List.flatMap_singleton, withDocOf_append]
    rcases withDocOf_eq_self_or (m.withDocOf (definitions.flatMap Definition.methods)) b.methods
      with h | ⟨earlier, o, later, hmethods, hs, hlacks, hdoc⟩
    · rw [h]
      rcases ih with ih | ⟨a, o, ⟨before, after, earlier, later, rfl, ho⟩, hdoc⟩
      · exact .inl ih
      · exact .inr ⟨a, o, ⟨before, after ++ [b], earlier, later, by simp, ho⟩, hdoc⟩
    · rw [signature_withDocOf] at hs
      rw [← withDocOf_append] at hlacks
      refine .inr ⟨b, o, ⟨definitions, [], earlier, later, rfl, hmethods, hs, hlacks⟩, ?_⟩
      rw [hdoc, withDocOf_same (m := m)]

/-- Nothing is taken once a definition that came before had documentation to give. -/
theorem TakesDoc.not_hasDoc {definitions : List Definition} {a : Definition}
    (h : m.TakesDoc definitions a o) :
    ∃ before after, definitions = before ++ a :: after ∧
      ∀ b ∈ before, ∀ q ∈ b.methods, q.signature = m.signature → ¬q.HasDoc := by
  obtain ⟨before, after, earlier, later, rfl, -, -, hlacks⟩ := h
  refine ⟨before, after, rfl, fun b hb q hq hs hdoc => hlacks ?_⟩
  have hmem : q ∈ before.flatMap Definition.methods ++ earlier :=
    List.mem_append_left _ (List.mem_flatMap.mpr ⟨b, hb, hq⟩)
  exact hasDoc_withDocOf_iff.mpr (.inr ⟨q, hmem, hs, hdoc⟩)

end Method

namespace Definition

variable {c : Catalogue} {d : Definition}

/-! ### All methods of a definition -/

/-- The first documented method of the signature in the ancestors. -/
def documented? (c : Catalogue) (d : Definition) (s : Signature) : Option Method :=
  (c.ancestors d).findSome? (·.methods.find? fun o => o.signature = s ∧ o.HasDoc)

/-- What a method becomes when documentation is forced on it. -/
structure ForcesDoc (c : Catalogue) (d : Definition) (m m' : Method) : Prop where
  same : m' = { m with doc := m'.doc }
  kept : m.HasDoc → m' = m
  taken : ∀ o, ¬m.HasDoc → d.documented? c m.signature = some o → m'.doc = o.doc
  none : ¬m.HasDoc → d.documented? c m.signature = .none → ¬m'.HasDoc

theorem forcesDoc (c : Catalogue) (d : Definition) (m : Method) :
    ForcesDoc c d m (m.withDocOf ((c.ancestors d).flatMap methods)) where
  same := Method.withDocOf_same
  kept h := Method.withDocOf_of_lacksDoc (Method.hasDoc_iff.mp h)
  taken o hm ho := by
    rw [documented?, ← List.find?_flatMap] at ho
    rw [Method.withDocOf_of_find? hm ho]
  none hm hnone := by
    rw [documented?, ← List.find?_flatMap, List.find?_eq_none] at hnone
    rw [Method.hasDoc_withDocOf_iff]
    rintro (h | ⟨o, ho, h⟩)
    · exact hm h
    · exact hnone o ho (decide_eq_true h)

theorem withForcedDocs_withForcedDocs (c : Catalogue) (d : Definition) :
    (d.withForcedDocs c).withForcedDocs c = d.withForcedDocs c := by
  -- Documentation has no part in what a definition inherits from.
  have hancestors : c.ancestors (d.withForcedDocs c) = c.ancestors d := rfl
  have hmembers : ∀ m : Member,
      (m.mapMethod (·.withDocOf ((c.ancestors d).flatMap methods))).mapMethod
          (·.withDocOf ((c.ancestors d).flatMap methods)) =
        m.mapMethod (·.withDocOf ((c.ancestors d).flatMap methods)) := by
    intro m
    cases m with
    | method m => exact congrArg Member.method (m.withDocOf_withDocOf _)
    | field f => rfl
    | nested e => rfl
  rw [withForcedDocs, hancestors]
  simp only [withForcedDocs, List.map_map, Function.comp_def, hmembers]

/-- **Forced documentation** replaces the documentation of methods and nothing else: those
that have some keep it, and the others are given that of the first documented method of
their signature in the ancestors, if there is one.  Nothing is changed the second time. -/
theorem withForcedDocs_exact (c : Catalogue) (d : Definition) :
    (∃ f : Method → Method,
      d.withForcedDocs c = { d with members := d.members.map (Member.mapMethod f) } ∧
      ∀ m, ForcesDoc c d m (f m)) ∧
    (d.withForcedDocs c).withForcedDocs c = d.withForcedDocs c :=
  ⟨⟨_, rfl, forcesDoc c d⟩, withForcedDocs_withForcedDocs c d⟩

/-- A class whose work is done like that of some other. -/
def deputy : Definition :=
  { empty .classType (.simple "a.Deputy") with
    members :=
      [.method { Method.plain "work" .void [] "a.Deputy" with doc := some " @inheritDoc" }] }

/-- A class that inherits from it, and from the class that explains its work. -/
def apprentice : Definition :=
  { empty .classType (.simple "a.Apprentice") with
    superTypes := [.simple "a.Deputy", .simple "a.Master"]
    members := [.method (.plain "work" .void [] "a.Apprentice")] }

/-- The three of them. -/
def guild : Catalogue := Catalogue.indexed [apprentice, deputy, Generator.master]

theorem ancestors_apprentice : guild.ancestors apprentice = [deputy, Generator.master] := by cbv

/-- The apprentice is given the explanation, whatever comes before. -/
theorem withForcedDocs_exact_apprentice :
    (apprentice.documented? guild ⟨"work", []⟩).bind Method.doc = some "Saw." ∧
    (apprentice.withForcedDocs guild).methods.map Method.doc = [some "Saw."] := by
  have hdocumented : apprentice.documented? guild ⟨"work", []⟩ =
      some { Method.plain "work" .void [] "a.Master" with doc := some "Saw." } := by
    rw [documented?, ancestors_apprentice]
    rfl
  obtain ⟨⟨f, heq, hforces⟩, -⟩ := withForcedDocs_exact guild apprentice
  have hdoc := (hforces (.plain "work" .void [] "a.Apprentice")).taken _
    (Method.not_hasDoc_iff.mpr rfl) hdocumented
  refine ⟨congrArg (·.bind Method.doc) hdocumented, ?_⟩
  rw [heq]
  exact congrArg (fun doc => [doc]) hdoc

end Definition

end Ambient

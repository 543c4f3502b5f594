/-
The passes over definite definitions.

What a pass compares are names, kinds, flags and signatures, which definite types
keep.  So each pass over definite definitions yields the definite result:

* `Generator.inheriting_definite` — copies of inherited methods, and the edges that
  are left;
* `Definition.withForcedDocs_definite`, `Method.inheritDoc_definite` —
  documentation from ancestors and from interfaces;
* `Definition.cleanMembers_definite` — the members to declare;
* `Declaration.lines_definite` — what is declared is the same.
-/
import Mathlib.Data.List.Find
import Ambient.Proofs.Cleanup
import Ambient.Proofs.DefiniteForm

namespace Ambient

open Definition (definite)

variable {g : Generator} {c : Catalogue} {d : Definition}

/-! ### Copies -/

/-- The same methods are chosen, as signatures are the same and the same are allowed. -/
theorem selectNew_definite {p q : Method → Bool} (known : List Signature) {ms : List Method}
    (hq : ∀ m, q m.definite = p m) :
    selectNew q known (ms.map Method.definite) = (selectNew p known ms).map Method.definite := by
  induction ms generalizing known with
  | nil => rfl
  | cons m ms ih =>
    rw [List.map_cons, selectNew, selectNew, m.signature_definite, hq]
    split
    · exact ih known
    · split
      · rw [List.map_cons, ih]
      · exact ih known

theorem Definition.hasMember_definite (d : Definition) (n : String) :
    d.definite.hasMember n = d.hasMember n := by
  rw [hasMember, d.members_definite, List.any_map, hasMember]
  refine congrArg _ (funext fun m => ?_)
  cases m with
  | method m => rfl
  | field f => rfl
  | nested e => exact congrArg (fun s => decide (s = n)) e.simpleName_definite

theorem Definition.inheritable_definite (d : Definition) :
    d.definite.inheritable = d.inheritable.map Method.definite := by
  rw [inheritable, d.methods_definite, List.filter_map, inheritable]
  rfl

namespace Generator

theorem copies_definite :
    g.copies (c.map definite) d.definite = (g.copies c d).map Method.definite := by
  have hsignatures : d.definite.signatures = d.signatures := by
    rw [Definition.signatures, d.methods_definite, List.map_map, Definition.signatures]
    exact List.map_congr_left fun m _ => m.signature_definite
  rw [copies, hsignatures,
    Catalogue.inheritedMethods_map (c.ancestors_definite d) Definition.inheritable_definite]
  refine selectNew_definite d.signatures fun m => ?_
  rw [offers, d.name_definite, d.hasMember_definite]
  rfl

theorem inheriting_definite :
    g.inheriting (c.map definite) d.definite = (g.inheriting c d).definite := by
  have hedges := edgesLeft_map (c.ancestors_definite d) Definition.name_definite
    TypeExpr.name_definiteInside g
  rw [inheriting_eq, inheriting_eq, copies_definite, d.superTypes_definite, d.interfaces_definite,
    hedges, hedges, Definition.definite_eq, Definition.definite_eq]
  simp [Function.comp_def, Member.definite]

end Generator

/-! ### Documentation -/

theorem Method.withDocOf_definite (m : Method) (inherited : List Method) :
    m.definite.withDocOf (inherited.map Method.definite) = (m.withDocOf inherited).definite := by
  rw [withDocOf, withDocOf]
  induction inherited generalizing m with
  | nil => rfl
  | cons b bs ih =>
    have hlacks : m.definite.lacksDoc = m.lacksDoc := rfl
    rw [List.map_cons, List.foldl_cons, List.foldl_cons, hlacks, m.signature_definite,
      b.signature_definite]
    split
    · exact ih { m with doc := b.doc }
    · exact ih m

theorem Definition.withForcedDocs_definite (c : Catalogue) (d : Definition) :
    d.definite.withForcedDocs (c.map definite) = (d.withForcedDocs c).definite := by
  have hinherited : ((c.map definite).ancestors d.definite).flatMap methods =
      ((c.ancestors d).flatMap methods).map Method.definite := by
    rw [c.ancestors_definite]
    exact flatMap_map_comm fun e _ => e.methods_definite
  rw [withForcedDocs, withForcedDocs, hinherited, definite_eq, definite_eq]
  simp only [List.map_map, Definition.mk.injEq, true_and, and_true]
  refine List.map_congr_left fun m _ => ?_
  cases m with
  | method m => exact congrArg Member.method (m.withDocOf_definite _)
  | field f => rfl
  | nested e => rfl

namespace Generator

theorem complete_definite :
    g.complete (c.map definite) d.definite = (g.complete c d).definite := by
  rw [complete_eq, complete_eq, inheriting_definite]
  split
  · exact Definition.withForcedDocs_definite c (g.inheriting c d)
  · rfl

theorem withRefined_definite
    (h : ∀ e ∈ d.nested, g.refine (c.map definite) e.definite = (g.refine c e).definite) :
    g.withRefined (c.map definite) d.definite = (g.withRefined c d).definite := by
  rw [withRefined, withRefined, Definition.definite_eq, Definition.definite_eq]
  simp only [List.map_map, Definition.mk.injEq, true_and, and_true]
  refine List.map_congr_left fun m hm => ?_
  cases m with
  | method m => rfl
  | field f => rfl
  | nested e => exact congrArg Member.nested (h e (Definition.mem_nested_iff.mpr hm))

/-- **Completing a definition** and making it definite commute. -/
theorem refine_definite (d : Definition) :
    g.refine (c.map definite) d.definite = (g.refine c d).definite := by
  induction d using Definition.nesting_induction with
  | step d ih =>
    rw [refine_eq_complete, withRefined_definite ih, complete_definite, refine_eq_complete]

end Generator

/-! ### Documentation from interfaces -/

namespace Catalogue

theorem declaring?_definite (t : TypeExpr) (n : String) :
    (c.map definite).declaring? t.definiteInside n = (c.declaring? t n).map definite := by
  have hlineage := c.lineage_definite [t]
  rw [List.map_singleton] at hlineage
  rw [declaring?, hlineage, List.find?_map, declaring?]
  exact congrArg _ (List.find?_congr fun d _ => d.hasMember_definite n)

theorem overridden?_definite (interfaces : List TypeExpr) (m : Method) :
    (c.map definite).overridden? (interfaces.map TypeExpr.definiteInside) m.definite =
      (c.overridden? interfaces m).map Method.definite := by
  rw [overridden?_eq, overridden?_eq, List.map_findSome?, List.findSome?_map]
  refine findSome?_congr fun t _ => ?_
  show (c.map definite).overriddenIn? t.definiteInside m.definite =
    (c.overriddenIn? t m).map Method.definite
  have hdeclaring : (c.map definite).declaring? t.definiteInside m.definite.name =
      (c.declaring? t m.name).map definite := declaring?_definite t m.name
  rw [overriddenIn?, hdeclaring, overriddenIn?]
  cases c.declaring? t m.name with
  | none => rfl
  | some d =>
    show d.definite.methods.find? _ = (d.methods.find? _).map Method.definite
    rw [d.methods_definite, List.find?_map]
    rfl

end Catalogue

theorem Method.inheritDoc_definite (interfaces : List TypeExpr) (m : Method) :
    m.definite.inheritDoc (c.map Definition.definite) (interfaces.map TypeExpr.definiteInside) =
      (m.inheritDoc c interfaces).definite := by
  have hkeeps : (m.definite.isStatic || !m.definite.isOverride || m.definite.hasValuableDoc) =
      (m.isStatic || !m.isOverride || m.hasValuableDoc) := rfl
  -- Of the method that is overridden only the documentation is taken.
  have hdoc : ((c.overridden? interfaces m).map Method.definite).bind (·.doc) =
      (c.overridden? interfaces m).bind (·.doc) := by
    cases c.overridden? interfaces m <;> rfl
  rw [inheritDoc, hkeeps, Catalogue.overridden?_definite, hdoc, inheritDoc]
  split
  · rfl
  · cases (c.overridden? interfaces m).bind (·.doc) <;> rfl

/-! ### Members to declare -/

namespace Member

theorem name_definite (m : Member) : m.definite.name = m.name := by
  cases m with
  | method m => rfl
  | field f => rfl
  | nested e => exact e.simpleName_definite

theorem isNested_definite (m : Member) : m.definite.isNested = m.isNested := by
  cases m <;> rfl

theorem isPublic_definite (m : Member) : m.definite.isPublic = m.isPublic := by
  cases m with
  | nested e =>
    show e.definite.isPublic = e.isPublic
    rw [Definition.definite_eq]
  | _ => rfl

theorem isStatic_definite (m : Member) : m.definite.isStatic = m.isStatic := by
  cases m with
  | nested e =>
    show e.definite.isStatic = e.isStatic
    rw [Definition.definite_eq]
  | _ => rfl

/-- What is not told from types is told of a definite method as well. -/
theorem method?_definite {β : Type} {p : Method → β} (hp : ∀ m, p m.definite = p m) (m : Member) :
    m.definite.method?.map p = m.method?.map p := by
  cases m with
  | method m => exact congrArg some (hp m)
  | _ => rfl

theorem mapMethod_definite {p q : Method → Method} (hp : ∀ m, p m.definite = (q m).definite)
    (m : Member) : m.definite.mapMethod p = (m.mapMethod q).definite := by
  cases m with
  | method m => exact congrArg Member.method (hp m)
  | _ => rfl

end Member

namespace Definition

variable {excluded : List String}

theorem visibleMembers_definite (excluded : List String) (d : Definition) :
    d.definite.visibleMembers excluded = (d.visibleMembers excluded).map Member.definite := by
  rw [visibleMembers, d.members_definite, List.filter_map, visibleMembers]
  refine congrArg _ (List.filter_congr fun m _ => ?_)
  rw [Function.comp_apply, m.isPublic_definite]
  cases m <;> rfl

theorem kept_definite (excluded : List String) (d : Definition) :
    d.definite.kept excluded = (d.kept excluded).map Member.definite := by
  rw [kept, visibleMembers_definite, dropDuplicates,
    dropKnown_map (Member.method?_definite Method.signature_definite), kept, dropDuplicates]

theorem settleMethod_definite (ms : List Member) (m : Method) :
    d.definite.settleMethod (c.map Definition.definite) (ms.map Member.definite) m.definite =
      (d.settleMethod c ms m).definite := by
  have hnamed : (ms.map Member.definite).filter (·.name = m.definite.name) =
      (ms.filter (·.name = m.name)).map Member.definite := by
    rw [List.filter_map]
    refine congrArg _ (List.filter_congr fun o _ => ?_)
    rw [Function.comp_apply, o.name_definite]
    rfl
  rw [settleMethod, hnamed, isCompatible_map (Member.method?_definite fun _ => rfl),
    d.interfaces_definite, m.inheritDoc_definite, ← Method.definite_toPlain, settleMethod]
  exact (apply_ite Method.definite _ _ _).symm

theorem cleanMembers_definite (c : Catalogue) (excluded : List String) (d : Definition) :
    d.definite.cleanMembers (c.map Definition.definite) excluded =
      (d.cleanMembers c excluded).map Member.definite := by
  have hsettled : ∀ m : Member,
      m.definite.mapMethod (d.definite.settleMethod (c.map Definition.definite)
          ((d.kept excluded).map Member.definite)) =
        (m.mapMethod (d.settleMethod c (d.kept excluded))).definite :=
    Member.mapMethod_definite (settleMethod_definite (d.kept excluded))
  -- The members are settled among definite ones on one side and made definite at the end on
  -- the other.
  rw [cleanMembers_eq, cleanMembers_eq, kept_definite, List.map_map, List.filter_map,
    List.filter_map, List.map_map]
  simp only [Function.comp_def, hsettled, Member.isNested_definite]

end Definition

/-! ### Declarations -/

namespace Scoped

theorem genericsText_definite (ts : List TypeExpr) :
    genericsText (ts.map TypeExpr.definiteInside) = genericsText ts := by
  rw [genericsText, List.isEmpty_map, List.mapM_map, genericsText]
  simp only [Function.comp_def, genericText_definiteInside]

theorem paramsText_definite (ps : List Parameter) :
    paramsText (ps.map Parameter.definite) = paramsText ps := by
  have hparam : ∀ p : Parameter, paramText p.definite = paramText p := by
    intro p
    rw [paramText, Parameter.definite, typeText_definite, paramText]
  rw [paramsText, List.mapM_map, paramsText]
  simp only [Function.comp_def, hparam]

theorem methodText_definite (s : Settings) (setters : List String) (m : Method) :
    methodText s setters m.definite = methodText s setters m := by
  obtain ⟨kind⟩ := m
  cases kind <;>
    simp only [methodText, plainText, Method.definite, paramsText_definite, genericsText_definite,
      typeText_definite] <;> rfl

theorem memberLines_definite (s : Settings) (setters : List String) (m : Member) :
    memberLines s setters m.definite = memberLines s setters m := by
  cases m with
  | method m =>
    have hdoc : (Member.method m.definite).doc = (Member.method m).doc := rfl
    rw [Member.definite, memberLines, memberLines, methodText_definite, hdoc]
  | field f =>
    have hdoc : (Member.field f.definite).doc = (Member.field f).doc := rfl
    have htext : fieldText f.definite = fieldText f := by
      rw [fieldText, Field.definite, typeText_definite, fieldText]
    rw [Member.definite, memberLines, memberLines, htext, hdoc]
  | nested e => rfl

theorem declaredName_definite (d : Definition) : declaredName d.definite = declaredName d := by
  rw [declaredName, d.simpleName_definite, d.type_definite, d.type.args_definiteArgs,
    genericsText_definite, declaredName]

/-- A function type does not show which of its types are optional. -/
theorem functionText_definite (m : Method) : functionText m.definite = functionText m := by
  rw [functionText, Method.definite, genericsText_definite, paramsText_definite,
    typeText_definite, functionText]

theorem heritageClause_definite (word : String) (ts : List TypeExpr) :
    heritageClause word (ts.map TypeExpr.definiteInside) = heritageClause word ts := by
  rw [heritageClause, List.isEmpty_map, List.mapM_map, heritageClause]
  simp only [Function.comp_def, heritageText_definiteInside]

end Scoped

theorem Definition.functionMethod?_definite (d : Definition) :
    d.definite.functionMethod? = d.functionMethod?.map Method.definite := by
  rw [functionMethod?, d.kind_definite, d.members_definite, functionMethod?]
  cases d.kind <;> cases d.members with
    | nil => rfl
    | cons m ms =>
      cases m with
      | method m =>
        have hstatic : m.definite.isStatic = m.isStatic := rfl
        simp only [List.map_cons, Member.definite, hstatic]
        cases m.isStatic <;> rfl
      | _ => rfl

theorem properParents_definite (ts : List TypeExpr) :
    properParents (ts.map TypeExpr.definiteInside) =
      (properParents ts).map TypeExpr.definiteInside := by
  rw [properParents, List.filter_map, properParents]
  refine congrArg _ (List.filter_congr fun t _ => ?_)
  exact decide_eq_decide.mpr TypeExpr.definiteInside_eq_simple_iff.not

/-- The root of all types is passed over only if it is not optional: that a type is
inherited from as an optional one can be seen. -/
example : properParents [.object, .nullable .object] = [.nullable .object] := by decide

namespace Declaration

variable (s : Settings)

theorem isInterface_definite (d : Definition) : isInterface s d.definite = isInterface s d := by
  rw [isInterface, d.kind_definite, isInterface]

theorem isInterfaceMember_definite (m : Member) :
    isInterfaceMember m.definite = isInterfaceMember m := by
  have hstatic := m.isStatic_definite
  cases m with
  | method m => rfl
  | _ => exact congrArg (!·) hstatic

theorem members_definite (c : Catalogue) (d : Definition) :
    members (c.map Definition.definite) s d.definite =
      (members c s d).map Member.definite := by
  simp only [members, isInterface_definite, d.cleanMembers_definite, List.filter_map,
    Function.comp_def, isInterfaceMember_definite]
  split <;> rfl

theorem heading_definite (d : Definition) (name : String) :
    heading s d.definite name = heading s d name := by
  simp only [heading, d.parents_definite, d.superTypes_definite, d.interfaces_definite,
    properParents_definite, ← List.map_take, Scoped.heritageClause_definite, isInterface_definite]

theorem bodyLines_definite (heading : String) (isIterable : Bool) (ms : List Member) :
    bodyLines s heading isIterable (ms.map Member.definite) =
      bodyLines s heading isIterable ms := by
  have hsetters : setterNames (ms.map Member.definite) = setterNames ms := by
    rw [setterNames, List.filterMap_map, setterNames, List.filterMap_filterMap,
      List.filterMap_filterMap]
    refine List.filterMap_congr fun m _ => ?_
    cases m <;> rfl
  rw [bodyLines, List.isEmpty_map, List.mapM_map, hsetters, bodyLines]
  simp only [Function.comp_def, Scoped.memberLines_definite]

theorem mergedLines_definite (d : Definition) (name : String) :
    mergedLines s d.definite name = mergedLines s d name := by
  have hmerged : ((properParents d.parents).map TypeExpr.definiteInside).filter
        (·.baseType ≠ .list) =
      ((properParents d.parents).filter (·.baseType ≠ .list)).map TypeExpr.definiteInside := by
    rw [List.filter_map]
    refine congrArg _ (List.filter_congr fun t _ => ?_)
    exact decide_eq_decide.mpr TypeExpr.baseType_definiteInside_iff.not
  rw [mergedLines, d.parents_definite, properParents_definite, hmerged, List.length_map,
    List.isEmpty_map, Scoped.typeTexts_definiteInside, mergedLines]

/-- **Declarations do not show** which types are optional. -/
theorem lines_definite (c : Catalogue) (d : Definition) :
    lines (c.map Definition.definite) s d.definite = lines c s d := by
  rw [lines, lines, Scoped.declaredName_definite, d.functionMethod?_definite, d.doc_definite,
    d.name_definite, members_definite]
  refine congrArg _ (funext fun name => ?_)
  cases d.functionMethod? with
  | some m =>
    show (do let function ← Scoped.functionText m.definite; _) = _
    rw [Scoped.functionText_definite]
  | none =>
    simp only [Option.map_none, heading_definite, bodyLines_definite, mergedLines_definite]

end Declaration

end Ambient

/-
The passes over plain definitions.

Each pass of a run compares names or signatures at some point: those of copies,
of documented methods, of excluded ones, of duplicates.  For each there is a
lemma here that says: if the comparisons it makes come out the same for accessors
and for the methods that they stand for, then the pass over the plain definitions
yields the plain result.

* `Method.Faithful` — two methods have one signature as accessors exactly if
  they have one as plain methods;
* `Definition.Recognizes` — the same for the search for an overridden method;
* `Generator.inheriting_toPlain`, `Definition.withForcedDocs_toPlain`,
  `Definition.cleanMembers_toPlain` — the passes one by one;
* `Declaration.lines_toPlain` — what is written without accessors is the same for
  the plain result.
-/
import Mathlib.Data.List.Find
import Ambient.Proofs.Cleanup
import Ambient.Proofs.PlainForm

namespace Ambient

/-- Whether the methods are the same overload does not depend on their being
accessors. -/
def Method.Faithful (a b : Method) : Prop :=
  a.toPlain.signature = b.toPlain.signature ↔ a.signature = b.signature

instance (a b : Method) : Decidable (a.Faithful b) :=
  inferInstanceAs (Decidable (_ ↔ _))

namespace Method

theorem Faithful.symm {a b : Method} (h : a.Faithful b) : b.Faithful a :=
  eq_comm.trans (h.trans eq_comm)

theorem Faithful.withDoc {a b : Method} (h : a.Faithful b) (doc : Option String) :
    { a with doc := doc }.Faithful b := by
  rw [Faithful, toPlain_withDoc]
  exact h

end Method

/-! ### Copies -/

/-- A signature is known with accessors exactly if it is without. -/
theorem signature_mem_toPlain {m : Method} {as : List Method} (h : ∀ a ∈ as, a.Faithful m) :
    m.toPlain.signature ∈ as.map (·.toPlain.signature) ↔ m.signature ∈ as.map (·.signature) := by
  rw [List.mem_map, List.mem_map]
  constructor
  · rintro ⟨a, ha, hs⟩
    exact ⟨a, ha, (h a ha).mp hs⟩
  · rintro ⟨a, ha, hs⟩
    exact ⟨a, ha, (h a ha).mpr hs⟩

/-- The induction is on the methods to choose from; `as` are the methods whose
signatures are known. -/
theorem selectNew_toPlain {p q : Method → Bool} {as ms : List Method}
    (hq : ∀ m ∈ ms, q m.toPlain = p m)
    (h : ∀ a ∈ as ++ ms.filter p, ∀ b ∈ ms.filter p, a.Faithful b) :
    selectNew q (as.map (·.toPlain.signature)) (ms.map Method.toPlain) =
      (selectNew p (as.map (·.signature)) ms).map Method.toPlain := by
  induction ms generalizing as with
  | nil => rfl
  | cons m ms ih =>
    have hq' : ∀ b ∈ ms, q b.toPlain = p b := fun b hb => hq b (List.mem_cons_of_mem m hb)
    have hm : q m.toPlain = p m := hq m List.mem_cons_self
    rw [List.map_cons, selectNew, selectNew, hm]
    cases hp : p m with
    | false =>
      -- A method that is not offered is passed over, whether its signature is known or not.
      simp only [List.filter_cons, hp, Bool.false_eq_true, if_false, ite_self] at h ⊢
      exact ih hq' h
    | true =>
      simp only [List.filter_cons, hp, if_true] at h ⊢
      have hknown : m.toPlain.signature ∈ as.map (·.toPlain.signature) ↔
          m.signature ∈ as.map (·.signature) :=
        signature_mem_toPlain fun a ha => h a (List.mem_append_left _ ha) m List.mem_cons_self
      by_cases hk : m.signature ∈ as.map (·.signature)
      · rw [if_pos hk, if_pos (hknown.mpr hk)]
        refine ih hq' fun a ha b hb => h a ?_ b (List.mem_cons_of_mem m hb)
        exact List.perm_middle.mem_iff.mpr (List.mem_cons_of_mem m ha)
      · rw [if_neg hk, if_neg (hknown.not.mpr hk), List.map_cons]
        have hrest : selectNew q ((m :: as).map (·.toPlain.signature)) (ms.map Method.toPlain) =
            (selectNew p ((m :: as).map (·.signature)) ms).map Method.toPlain := by
          refine ih hq' fun a ha b hb => h a ?_ b (List.mem_cons_of_mem m hb)
          exact List.perm_middle.mem_iff.mpr ha
        exact congrArg _ hrest

theorem Definition.inheritable_toPlain (d : Definition) :
    d.toPlain.inheritable = d.inheritable.map Method.toPlain := by
  rw [inheritable, d.methods_toPlain, List.filter_map, inheritable]
  refine congrArg _ (List.filter_congr fun m _ => ?_)
  simp [m.isConstructor_toPlain]

theorem Catalogue.inheritedMethods_toPlain (c : Catalogue) (d : Definition) :
    c.toPlain.inheritedMethods d.toPlain = (c.inheritedMethods d).map Method.toPlain :=
  inheritedMethods_map (c.ancestors_toPlain d) Definition.inheritable_toPlain

namespace Generator

variable {g : Generator} {c : Catalogue} {d : Definition}

/-- The methods copied are the same, if the same are offered and no two of them
are told apart differently. -/
theorem copies_toPlain
    (hoffers : ∀ m ∈ c.inheritedMethods d, g.offers d.toPlain m.toPlain = g.offers d m)
    (h : ∀ a ∈ d.methods ++ g.offered c d, ∀ b ∈ g.offered c d, a.Faithful b) :
    g.copies c.toPlain d.toPlain = (g.copies c d).map Method.toPlain := by
  have hsig : d.toPlain.signatures = d.methods.map (·.toPlain.signature) := by
    rw [Definition.signatures, d.methods_toPlain, List.map_map]
    rfl
  rw [copies, hsig, c.inheritedMethods_toPlain]
  exact selectNew_toPlain hoffers h

theorem edgesLeft_toPlain (ts : List TypeExpr) :
    g.edgesLeft c.toPlain d.toPlain ts = g.edgesLeft c d ts := by
  have hedges := edgesLeft_map (c.ancestors_toPlain d) Definition.name_toPlain (t := id)
    (fun _ => rfl) g ts
  rwa [List.map_id, List.map_id] at hedges

theorem inheriting_toPlain (h : g.copies c.toPlain d.toPlain = (g.copies c d).map Method.toPlain) :
    g.inheriting c.toPlain d.toPlain = (g.inheriting c d).toPlain := by
  rw [inheriting_eq, inheriting_eq, h, edgesLeft_toPlain, edgesLeft_toPlain, Definition.toPlain_eq,
    Definition.toPlain_eq]
  simp [Function.comp_def, Member.toPlain]

end Generator

/-! ### Documentation from ancestors -/

theorem Method.withDocOf_toPlain {m : Method} {inherited : List Method}
    (h : m.lacksDoc → ∀ b ∈ inherited, m.Faithful b) :
    m.toPlain.withDocOf (inherited.map Method.toPlain) = (m.withDocOf inherited).toPlain := by
  rw [withDocOf, withDocOf]
  induction inherited generalizing m with
  | nil => rfl
  | cons b bs ih =>
    have hlacks : m.toPlain.lacksDoc = m.lacksDoc := by rw [lacksDoc, lacksDoc, m.doc_toPlain]
    rw [List.map_cons, List.foldl_cons, List.foldl_cons, hlacks]
    cases hm : m.lacksDoc with
    | false =>
      -- Documentation that is there stays, so nothing is compared any more.
      simp only [Bool.false_and, Bool.false_eq_true, if_false]
      refine ih fun hl => ?_
      rw [hm] at hl
      cases hl
    | true =>
      have hsig : m.toPlain.signature = b.toPlain.signature ↔ m.signature = b.signature :=
        h hm b List.mem_cons_self
      have hbs : ∀ o ∈ bs, m.Faithful o := fun o ho => h hm o (List.mem_cons_of_mem b ho)
      by_cases hs : m.signature = b.signature
      · simp only [hs, hsig.mpr hs, decide_true, Bool.and_self, if_true]
        rw [b.doc_toPlain, ← m.toPlain_withDoc]
        exact ih fun _ o ho => (hbs o ho).withDoc b.doc
      · simp only [hs, hsig.not.mpr hs, decide_false, Bool.and_false, Bool.false_eq_true, if_false]
        exact ih fun _ => hbs

theorem Definition.withForcedDocs_toPlain {c : Catalogue} {d : Definition}
    (h : ∀ a ∈ d.methods, a.lacksDoc → ∀ b ∈ (c.ancestors d).flatMap methods, a.Faithful b) :
    d.toPlain.withForcedDocs c.toPlain = (d.withForcedDocs c).toPlain := by
  have hinherited : (c.toPlain.ancestors d.toPlain).flatMap methods =
      ((c.ancestors d).flatMap methods).map Method.toPlain := by
    rw [c.ancestors_toPlain]
    exact flatMap_map_comm fun e _ => e.methods_toPlain
  rw [withForcedDocs, withForcedDocs, hinherited, toPlain_eq, toPlain_eq]
  simp only [List.map_map, Definition.mk.injEq, true_and, and_true]
  refine List.map_congr_left fun m hm => ?_
  cases m with
  | method m =>
    have hm' : m ∈ d.methods := Definition.mem_methods_iff.mpr hm
    exact congrArg Member.method (Method.withDocOf_toPlain (h m hm'))
  | field f => rfl
  | nested e => rfl

/-! ### Documentation from interfaces -/

/-- Whether the definition has a member of the method's name, and which of its
methods the method overrides, does not depend on accessors. -/
structure Definition.Recognizes (d : Definition) (m : Method) : Prop where
  hasMember : d.toPlain.hasMember m.toPlain.name = d.hasMember m.name
  methods : ∀ o ∈ d.methods, (o.toPlain.kind = m.toPlain.kind ∧ o.toPlain.name = m.toPlain.name) ↔
    (o.kind = m.kind ∧ o.name = m.name)

namespace Catalogue

variable {c : Catalogue} {m : Method}

theorem declaring?_toPlain {t : TypeExpr} (h : ∀ d ∈ c.lineage [t], d.Recognizes m) :
    c.toPlain.declaring? t m.toPlain.name =
      (c.declaring? t m.name).map Definition.toPlain := by
  rw [declaring?, lineage_toPlain, List.find?_map, declaring?]
  exact congrArg _ (List.find?_congr fun d hd => (h d hd).hasMember)

theorem overriddenIn?_toPlain {t : TypeExpr} (h : ∀ d ∈ c.lineage [t], d.Recognizes m) :
    c.toPlain.overriddenIn? t m.toPlain = (c.overriddenIn? t m).map Method.toPlain := by
  rw [overriddenIn?, declaring?_toPlain h, overriddenIn?]
  cases hd : c.declaring? t m.name with
  | none => rfl
  | some d =>
    -- What declares a member of the name is among what the search goes through.
    have hrec : d.Recognizes m := h d (List.mem_of_find?_eq_some hd)
    show d.toPlain.methods.find? _ = (d.methods.find? _).map Method.toPlain
    rw [d.methods_toPlain, List.find?_map]
    refine congrArg _ (List.find?_congr fun o ho => ?_)
    simp only [Function.comp_apply, ← Bool.decide_and]
    exact decide_eq_decide.mpr (hrec.methods o ho)

theorem overridden?_toPlain {interfaces : List TypeExpr}
    (h : ∀ t ∈ interfaces, ∀ d ∈ c.lineage [t], d.Recognizes m) :
    c.toPlain.overridden? interfaces m.toPlain =
      (c.overridden? interfaces m).map Method.toPlain := by
  rw [overridden?_eq, overridden?_eq, List.map_findSome?]
  exact findSome?_congr fun t ht => overriddenIn?_toPlain (h t ht)

end Catalogue

theorem Method.inheritDoc_toPlain {c : Catalogue} {interfaces : List TypeExpr} {m : Method}
    (h : m.seeksDoc → ∀ t ∈ interfaces, ∀ d ∈ c.lineage [t], d.Recognizes m) :
    m.toPlain.inheritDoc c.toPlain interfaces = (m.inheritDoc c interfaces).toPlain := by
  have hkeeps : (m.toPlain.isStatic || !m.toPlain.isOverride || m.toPlain.hasValuableDoc) =
      (m.isStatic || !m.isOverride || m.hasValuableDoc) := by
    rw [m.isStatic_toPlain, m.isOverride_toPlain, hasValuableDoc, hasValuableDoc, m.doc_toPlain]
  rw [inheritDoc, inheritDoc, hkeeps]
  cases hs : m.isStatic || !m.isOverride || m.hasValuableDoc with
  | true => rfl
  | false =>
    -- The kinds and names of what is overridden differ, its documentation does not.
    have hseeks : m.seeksDoc := by simp [seeksDoc, hs]
    have hdoc : ((c.overridden? interfaces m).map toPlain).bind (·.doc) =
        (c.overridden? interfaces m).bind (·.doc) := by
      cases c.overridden? interfaces m with
      | none => rfl
      | some o => exact o.doc_toPlain
    simp only [Bool.false_eq_true, if_false]
    rw [Catalogue.overridden?_toPlain (h hseeks), hdoc]
    cases (c.overridden? interfaces m).bind (·.doc) with
    | none => rfl
    | some doc => exact (m.toPlain_withDoc (some doc)).symm

/-! ### Members to declare -/

namespace Definition

variable {c : Catalogue} {d : Definition} {excluded : List String}

theorem visibleMembers_toPlain
    (h : ∀ m ∈ d.methods, m.isPublic → (m.toPlain.name ∈ excluded ↔ m.name ∈ excluded)) :
    d.toPlain.visibleMembers excluded = (d.visibleMembers excluded).map Member.toPlain := by
  rw [visibleMembers, d.members_toPlain, List.filter_map, visibleMembers]
  refine congrArg _ (List.filter_congr fun m hm => ?_)
  cases m with
  | method m =>
    have hm' : m ∈ d.methods := Definition.mem_methods_iff.mpr hm
    simp only [Function.comp_apply, Member.toPlain, Member.isPublic, m.isPublic_toPlain]
    cases hp : m.isPublic with
    | false => rfl
    | true => exact congrArg _ (decide_eq_decide.mpr (h m hm' hp).not)
  | field f => rfl
  | nested e =>
    have hp : e.toPlain.isPublic = e.isPublic := by rw [toPlain_eq]
    simp [Member.toPlain, Member.isPublic, hp]

theorem inheritDocs_toPlain {ms : List Member}
    (h : ∀ m, .method m ∈ ms → m.seeksDoc → ∀ t ∈ d.interfaces, ∀ e ∈ c.lineage [t],
      e.Recognizes m) :
    d.toPlain.inheritDocs c.toPlain (ms.map Member.toPlain) =
      (d.inheritDocs c ms).map Member.toPlain := by
  rw [inheritDocs, inheritDocs, d.interfaces_toPlain, List.map_map, List.map_map]
  refine List.map_congr_left fun m hm => ?_
  cases m with
  | method m => exact congrArg Member.method (Method.inheritDoc_toPlain (h m hm))
  | field f => rfl
  | nested e => rfl

end Definition

/-- As for `selectNew_toPlain`; members that are not methods stay where they are. -/
theorem dropKnown_toPlain {as : List Method} {ms : List Member}
    (h : ∀ a ∈ as ++ ms.filterMap Member.method?, ∀ b ∈ ms.filterMap Member.method?,
      a.Faithful b) :
    dropKnown (as.map (·.toPlain.signature)) (ms.map Member.toPlain) =
      (dropKnown (as.map (·.signature)) ms).map Member.toPlain := by
  induction ms generalizing as with
  | nil => rfl
  | cons m ms ih =>
    cases m with
    | field f => exact congrArg _ (ih h)
    | nested e => exact congrArg _ (ih h)
    | method m =>
      have hm : m ∈ (Member.method m :: ms).filterMap Member.method? := List.mem_cons_self
      have hknown : m.toPlain.signature ∈ as.map (·.toPlain.signature) ↔
          m.signature ∈ as.map (·.signature) :=
        signature_mem_toPlain fun a ha => h a (List.mem_append_left _ ha) m hm
      rw [List.map_cons, Member.toPlain, dropKnown, dropKnown]
      by_cases hk : m.signature ∈ as.map (·.signature)
      · rw [if_pos hk, if_pos (hknown.mpr hk)]
        refine ih fun a ha b hb => h a ?_ b (List.mem_cons_of_mem m hb)
        exact List.perm_middle.mem_iff.mpr (List.mem_cons_of_mem m ha)
      · rw [if_neg hk, if_neg (hknown.not.mpr hk), List.map_cons]
        have hrest : dropKnown ((m :: as).map (·.toPlain.signature)) (ms.map Member.toPlain) =
            (dropKnown ((m :: as).map (·.signature)) ms).map Member.toPlain := by
          refine ih fun a ha b hb => h a ?_ b (List.mem_cons_of_mem m hb)
          exact List.perm_middle.mem_iff.mpr ha
        exact congrArg _ hrest

/-- Members that are plain can not be reverted, and those that are reverted are
the plain ones. -/
theorem revertConflicts_toPlain (ms : List Member) :
    revertConflicts (ms.map Member.toPlain) = (revertConflicts ms).map Member.toPlain := by
  have hfixed : ∀ m : Member, m.toPlain.mapMethod Method.toPlain = m.toPlain := by
    intro m
    cases m with
    | method m => exact congrArg Member.method m.toPlain_toPlain
    | field f => rfl
    | nested e => rfl
  have hreverted : ∀ m : Member, (m.mapMethod Method.toPlain).toPlain = m.toPlain := by
    intro m
    cases m with
    | method m => exact congrArg Member.method m.toPlain_toPlain
    | field f => rfl
    | nested e => rfl
  -- Which members conflict differs between the two sides; both come to the plain members.
  rw [revertConflicts, revertConflicts, List.map_map, List.map_map]
  refine List.map_congr_left fun m _ => ?_
  simp only [Function.comp_apply, hfixed, ite_self]
  split
  · rfl
  · exact (hreverted m).symm

/-- The members to declare are the same, if documentation is found for the same
methods and no two of them are told apart differently. -/
theorem Definition.cleanMembers_toPlain {c : Catalogue} {d : Definition} {excluded : List String}
    (hexcluded : ∀ m ∈ d.methods, m.isPublic → (m.toPlain.name ∈ excluded ↔ m.name ∈ excluded))
    (hseeks : ∀ m, .method m ∈ d.visibleMembers excluded → m.seeksDoc →
      ∀ t ∈ d.interfaces, ∀ e ∈ c.lineage [t], e.Recognizes m)
    (hfaithful : ∀ a b, .method a ∈ d.visibleMembers excluded →
      .method b ∈ d.visibleMembers excluded → a.Faithful b) :
    d.toPlain.cleanMembers c.toPlain excluded = (d.cleanMembers c excluded).map Member.toPlain := by
  -- Documentation has no part in signatures.
  have horigin : ∀ b ∈ (d.inheritDocs c (d.visibleMembers excluded)).filterMap Member.method?,
      ∃ a, .method a ∈ d.visibleMembers excluded ∧ ∃ doc, b = { a with doc := doc } := by
    intro b hb
    obtain ⟨m, hm, hmb⟩ := List.mem_filterMap.mp hb
    obtain ⟨a, ha, rfl⟩ := List.mem_map.mp hm
    cases a with
    | method a =>
      obtain ⟨doc, hdoc⟩ := a.exists_inheritDoc_eq c d.interfaces
      obtain rfl : a.inheritDoc c d.interfaces = b := Option.some.inj hmb
      exact ⟨a, ha, doc, hdoc⟩
    | field f => cases hmb
    | nested e => cases hmb
  have hdup : dropDuplicates ((d.inheritDocs c (d.visibleMembers excluded)).map Member.toPlain) =
      (dropDuplicates (d.inheritDocs c (d.visibleMembers excluded))).map Member.toPlain := by
    have hall : ∀ a ∈ ([] : List Method) ++
        (d.inheritDocs c (d.visibleMembers excluded)).filterMap Member.method?,
        ∀ b ∈ (d.inheritDocs c (d.visibleMembers excluded)).filterMap Member.method?,
          a.Faithful b := by
      intro a ha b hb
      obtain ⟨a₀, ha₀, doc, rfl⟩ := horigin a ha
      obtain ⟨b₀, hb₀, doc', rfl⟩ := horigin b hb
      exact (((hfaithful a₀ b₀ ha₀ hb₀).withDoc doc).symm.withDoc doc').symm
    exact dropKnown_toPlain hall
  have hnested : ∀ m : Member, m.toPlain.isNested = m.isNested := by
    intro m
    cases m <;> rfl
  rw [cleanMembers, visibleMembers_toPlain hexcluded, settle, inheritDocs_toPlain hseeks, hdup,
    revertConflicts_toPlain, List.filter_map, cleanMembers, settle]
  simp only [Function.comp_def, hnested]

/-! ### Declarations -/

theorem Definition.functionMethod?_toPlain (d : Definition) :
    d.toPlain.functionMethod? = d.functionMethod?.map Method.toPlain := by
  rw [functionMethod?, d.kind_toPlain, d.members_toPlain, functionMethod?]
  cases d.kind <;> cases d.members with
    | nil => rfl
    | cons m ms =>
      cases m with
      | field f => rfl
      | nested e => rfl
      | method m =>
        simp only [List.map_cons, Member.toPlain, m.isStatic_toPlain]
        cases m.isStatic <;> rfl

section
variable {s : Settings} (hs : s.usesAccessors = false)
include hs

open Scoped in
theorem memberLines_toPlain (setters setters' : List String) (m : Member) :
    memberLines s setters' m.toPlain = memberLines s setters m := by
  have hmethod : ∀ m : Method, methodText s setters' m.toPlain = methodText s setters m := by
    rintro ⟨kind⟩
    cases kind <;> simp [methodText, plainText, Method.toPlain, Method.isAccessor, hs]
  cases m with
  | method m =>
    have hdoc : (Member.method m.toPlain).doc = (Member.method m).doc := m.doc_toPlain
    rw [Member.toPlain, memberLines, memberLines, hmethod, hdoc]
  | field f => rfl
  | nested e => rfl

namespace Declaration

theorem bodyLines_toPlain (heading : String) (isIterable : Bool) (ms : List Member) :
    bodyLines s heading isIterable (ms.map Member.toPlain) = bodyLines s heading isIterable ms := by
  have hlines : (ms.map Member.toPlain).mapM
        (Scoped.memberLines s (setterNames (ms.map Member.toPlain))) =
      ms.mapM (Scoped.memberLines s (setterNames ms)) := by
    rw [List.mapM_map]
    exact mapM_congr fun m _ => memberLines_toPlain hs _ _ m
  rw [bodyLines, bodyLines, hlines, List.isEmpty_map]

omit hs in
theorem isInterface_toPlain (d : Definition) : isInterface s d.toPlain = isInterface s d := by
  rw [isInterface, d.kind_toPlain, isInterface]

omit hs in
theorem isInterfaceMember_toPlain (m : Member) :
    isInterfaceMember m.toPlain = isInterfaceMember m := by
  cases m with
  | method m =>
    have hkind : m.toPlain.kind = .constructor ↔ m.kind = .constructor := m.isConstructor_toPlain
    simp [Member.toPlain, isInterfaceMember, hkind]
  | field f => rfl
  | nested e =>
    have hstatic : e.toPlain.isStatic = e.isStatic := by rw [Definition.toPlain_eq]
    simp [Member.toPlain, isInterfaceMember, Member.isStatic, hstatic]

/-- Only in the members to declare can it be seen whether there are accessors:
nothing that is written of them shows it. -/
theorem lines_toPlain {c : Catalogue} {d : Definition}
    (h : d.toPlain.cleanMembers c.toPlain s.excluded =
      (d.cleanMembers c s.excluded).map Member.toPlain) :
    lines c.toPlain s d.toPlain = lines c s d := by
  have hmembers : members c.toPlain s d.toPlain = (members c s d).map Member.toPlain := by
    simp only [members, h, isInterface_toPlain, List.filter_map, Function.comp_def,
      isInterfaceMember_toPlain]
    split <;> rfl
  have hname : Scoped.declaredName d.toPlain = Scoped.declaredName d := by
    rw [Scoped.declaredName, d.simpleName_toPlain, d.type_toPlain, Scoped.declaredName]
  have hheading : heading s d.toPlain = heading s d := by
    funext name
    rw [heading, d.parents_toPlain, isInterface_toPlain, d.superTypes_toPlain,
      d.interfaces_toPlain, heading]
  have hmerged : mergedLines s d.toPlain = mergedLines s d := by
    funext name
    rw [mergedLines, d.parents_toPlain, mergedLines]
  have hfunction : ∀ m : Method, Scoped.functionText m.toPlain = Scoped.functionText m := by
    rintro ⟨kind⟩
    cases kind <;> rfl
  rw [lines, lines, hname, d.functionMethod?_toPlain, d.doc_toPlain, d.name_toPlain, hheading,
    hmerged, hmembers]
  refine congrArg _ (funext fun name => ?_)
  cases d.functionMethod? with
  | some m =>
    -- A function type does not show the name of its method.
    show (do let function ← Scoped.functionText m.toPlain; _) = _
    rw [hfunction]
  | none =>
    simp only [Option.map_none, bodyLines_toPlain hs]

end Declaration

end

end Ambient

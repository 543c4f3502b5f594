/-
Functional interfaces as function types.

A functional interface is declared as a function type if it begins with a method that is
not static.  Nothing else of it is looked at, neither whether the method is visible nor
what comes after it.  This file compares the function type with the body that would be
declared in its place:

* `Definition.DeclaresOnly` — a body declares one method and nothing else;
* `Definition.IsSole` — a method is visible and all other visible members are repetitions
  of it or nested definitions;
* `Definition.declaresOnly_iff` — for the first member of a definition this is the same,
  unless it is an accessor that shares its name with a nested definition;
* `Definition.keepsFunction_iff` — when a function type stands for the whole body;
* `Definition.not_keepsFunction_sorter` — a functional interface that loses a method.
-/
import Ambient.Proofs.MemberwiseCleanup

namespace Ambient

/-! ### What is left beside a method -/

/-- Only methods are dropped. -/
theorem mem_dropKnown_of_signature?_eq_none {known : List Signature} {ms : List Member}
    {m : Member} (hm : m.signature? = none) : m ∈ dropKnown known ms ↔ m ∈ ms := by
  induction ms generalizing known with
  | nil => rfl
  | cons o ms ih =>
    rw [dropKnown_cons, ← Member.signature?]
    split
    next h =>
      have hne : m ≠ o := by
        rintro rfl
        rw [hm] at h
        cases h
      rw [ih, List.mem_cons, or_iff_right hne]
    next => rw [List.mem_cons, List.mem_cons, ih]

/-- Nested definitions alone are left if all the rest has known signatures. -/
theorem forall_isNested_dropKnown_iff {known : List Signature} {ms : List Member} :
    (∀ m ∈ dropKnown known ms, m.isNested) ↔
      ∀ m ∈ ms, m.isNested ∨ ∃ s ∈ known, m.signature? = some s := by
  induction ms with
  | nil => exact iff_of_true (List.forall_mem_nil _) (List.forall_mem_nil _)
  | cons m ms ih =>
    rw [List.forall_mem_cons]
    cases m with
    | method m =>
      by_cases hs : m.signature ∈ known
      · rw [dropKnown, if_pos hs, ih]
        exact (and_iff_right (.inr ⟨m.signature, hs, rfl⟩)).symm
      · -- The method is left, and it is not nested.
        rw [dropKnown, if_neg hs, List.forall_mem_cons]
        refine iff_of_false (fun h => Bool.noConfusion h.1) ?_
        rintro ⟨h | ⟨s, hsk, h⟩, -⟩
        · cases h
        · exact hs (Option.some.inj h ▸ hsk)
    | field f =>
      have hdrop : dropKnown known (.field f :: ms) = .field f :: dropKnown known ms := rfl
      rw [hdrop, List.forall_mem_cons]
      refine iff_of_false (fun h => Bool.noConfusion h.1) ?_
      rintro ⟨h | ⟨s, -, h⟩, -⟩ <;> cases h
    | nested e =>
      have hdrop : dropKnown known (.nested e :: ms) = .nested e :: dropKnown known ms := rfl
      rw [hdrop, List.forall_mem_cons, ih]
      exact and_congr_left fun _ => iff_of_true rfl (.inl rfl)

namespace Definition

variable {c : Catalogue} {d : Definition} {excluded : List String} {m : Method}

/-- A function type is made of the first member. -/
theorem exists_members_of_functionMethod? (h : d.functionMethod? = some m) :
    ∃ rest, d.members = .method m :: rest := by
  unfold functionMethod? at h
  split at h
  next o rest _ hmembers =>
    split at h
    · cases h
    · cases h
      exact ⟨rest, hmembers⟩
  · cases h

/-! ### One method alone -/

/-- The body of the declaration would declare this method, which may be given
documentation, and nothing else. -/
structure DeclaresOnly (c : Catalogue) (excluded : List String) (d : Definition) (m : Method) :
    Prop where
  visible : .method m ∈ d.visibleMembers excluded
  cleaned : ∃ doc, d.cleanMembers c excluded = [.method { m with doc := doc }]

/-- The method can be seen, and nothing beside it but repetitions of its signature and
nested definitions.  No nested definition takes its name from it. -/
structure IsSole (excluded : List String) (d : Definition) (m : Method) : Prop where
  isPublic : m.isPublic
  notExcluded : m.name ∉ excluded
  others : ∀ o ∈ d.visibleMembers excluded, o.isNested ∨ o.signature? = some m.signature
  keepsName : m.isAccessor → ∀ o ∈ d.visibleMembers excluded, o.isNested → o.name ≠ m.name

/-- A visible first method is kept, and after it what has another signature. -/
theorem exists_kept_eq {rest : List Member} (hmembers : d.members = .method m :: rest)
    (hm : .method m ∈ d.visibleMembers excluded) :
    ∃ others, d.visibleMembers excluded = .method m :: others ∧
      d.kept excluded = .method m :: dropKnown [m.signature] others := by
  have hvisible := (List.mem_filter.mp hm).2
  have hcons : d.visibleMembers excluded =
      .method m :: ({ d with members := rest } : Definition).visibleMembers excluded := by
    rw [visibleMembers, hmembers, List.filter_cons, if_pos hvisible]
    rfl
  refine ⟨_, hcons, ?_⟩
  rw [kept, hcons, dropDuplicates, dropKnown, if_neg List.not_mem_nil]

/-- The nested definitions that are kept are those that are visible. -/
theorem mem_others_iff {others : List Member} {o : Member}
    (hkept : d.kept excluded = .method m :: others) (ho : o.isNested) :
    o ∈ others ↔ o ∈ d.visibleMembers excluded := by
  have hnone : o.signature? = none := by
    cases o with
    | nested e => rfl
    | method m => cases ho
    | field f => cases ho
  have hne : o ≠ .method m := by
    rintro rfl
    cases ho
  have hmem : o ∈ d.kept excluded ↔ o ∈ d.visibleMembers excluded :=
    mem_dropKnown_of_signature?_eq_none hnone
  rw [← hmem, hkept, List.mem_cons, or_iff_right hne]

/-- Beside nested definitions alone, a method is in conflict if it is an accessor and one
of them has its name. -/
theorem inConflict_iff_of_forall_isNested {others : List Member}
    (hkept : d.kept excluded = .method m :: others) (hothers : ∀ o ∈ others, o.isNested) :
    d.inConflict excluded m ↔
      m.isAccessor ∧ ∃ o ∈ d.visibleMembers excluded, o.isNested ∧ o.name = m.name := by
  have hfilter : (d.kept excluded).filter (·.name = m.name) =
      .method m :: others.filter (·.name = m.name) := by
    rw [hkept, List.filter_cons]
    exact if_pos (decide_eq_true rfl)
  have hsome : (∃ o ∈ d.visibleMembers excluded, o.isNested ∧ o.name = m.name) ↔
      others.filter (·.name = m.name) ≠ [] := by
    simp only [ne_eq, List.filter_eq_nil_iff, not_forall, not_not, decide_eq_true_eq, exists_prop]
    constructor
    · rintro ⟨o, ho, hn, hname⟩
      exact ⟨o, (mem_others_iff hkept hn).mpr ho, hname⟩
    · rintro ⟨o, ho, hname⟩
      exact ⟨o, (mem_others_iff hkept (hothers o ho)).mp ho, hothers o ho, hname⟩
  rw [inConflict, Bool.and_eq_true, hfilter, hsome, Bool.not_eq_true']
  refine and_congr_right fun _ => ?_
  cases h : others.filter (·.name = m.name) with
  | nil => simp [isCompatible]
  | cons o os =>
    have ho : o.isNested := hothers o (List.mem_of_mem_filter (h ▸ List.mem_cons_self))
    -- A nested definition is no counterpart of anything.
    have hpair : isAccessorPair (.method m) o = false := by
      cases o with
      | nested e => rfl
      | method o => cases ho
      | field f => cases ho
    cases os with
    | nil => simpa [isCompatible] using hpair
    | cons p ps => simp [isCompatible]

/-- What a first method becomes is declared first. -/
theorem cleanMembers_eq_cons {others : List Member}
    (hkept : d.kept excluded = .method m :: others) :
    d.cleanMembers c excluded = .method (d.settleMethod c (d.kept excluded) m) ::
      (others.filter (!·.isNested)).map
        (Member.mapMethod (d.settleMethod c (d.kept excluded))) := by
  have hnested : ∀ (f : Method → Method) (o : Member), (o.mapMethod f).isNested = o.isNested := by
    intro f o
    cases o <;> rfl
  rw [cleanMembers_eq]
  generalize d.settleMethod c (d.kept excluded) = f
  rw [hkept, List.filter_map]
  simp only [Function.comp_def, hnested]
  rfl

/-- A method stays as it is but for documentation unless it is in conflict. -/
theorem exists_settleMethod_eq_iff :
    (∃ doc, d.settleMethod c (d.kept excluded) m = { m with doc := doc }) ↔
      d.inConflict excluded m = false := by
  obtain ⟨doc, hdoc⟩ := exists_settleMethod_eq c excluded d m
  rw [hdoc]
  cases h : d.inConflict excluded m with
  | false => exact iff_of_true ⟨doc, rfl⟩ rfl
  | true =>
    refine iff_of_false ?_ Bool.noConfusion
    rintro ⟨_, heq⟩
    have hkind : MethodKind.plain = m.kind := congrArg Method.kind heq
    have hacc := isAccessor_of_inConflict h
    rw [Method.isAccessor, ← hkind] at hacc
    cases hacc

/-- For a visible first member, to be declared alone is to be alone. -/
theorem exists_cleanMembers_eq_iff {rest : List Member} (hmembers : d.members = .method m :: rest)
    (hm : .method m ∈ d.visibleMembers excluded) :
    (∃ doc, d.cleanMembers c excluded = [.method { m with doc := doc }]) ↔
      (∀ o ∈ d.visibleMembers excluded, o.isNested ∨ o.signature? = some m.signature) ∧
      (m.isAccessor → ∀ o ∈ d.visibleMembers excluded, o.isNested → o.name ≠ m.name) := by
  obtain ⟨others, hall, hkept⟩ := exists_kept_eq hmembers hm
  have hcleaned : (∃ doc, d.cleanMembers c excluded = [.method { m with doc := doc }]) ↔
      (∀ o ∈ dropKnown [m.signature] others, o.isNested) ∧ d.inConflict excluded m = false := by
    rw [← exists_settleMethod_eq_iff (c := c), cleanMembers_eq_cons hkept, and_comm]
    simp [List.filter_eq_nil_iff]
  have hothers : (∀ o ∈ dropKnown [m.signature] others, o.isNested) ↔
      ∀ o ∈ d.visibleMembers excluded, o.isNested ∨ o.signature? = some m.signature := by
    rw [forall_isNested_dropKnown_iff, hall, List.forall_mem_cons]
    simp [Member.signature?, Member.method?]
  rw [hcleaned, ← hothers]
  refine and_congr_right fun hnested => ?_
  rw [← Bool.not_eq_true, inConflict_iff_of_forall_isNested hkept hnested]
  simp only [not_and, not_exists, ne_eq]

theorem declaresOnly_iff {rest : List Member} (hmembers : d.members = .method m :: rest) :
    d.DeclaresOnly c excluded m ↔ d.IsSole excluded m := by
  have hmem : m ∈ d.methods := mem_methods_iff.mpr (hmembers ▸ List.mem_cons_self)
  constructor
  · rintro ⟨hm, hclean⟩
    obtain ⟨-, hpublic, hname⟩ := mem_visibleMembers_iff.mp hm
    obtain ⟨hothers, hkeeps⟩ := (exists_cleanMembers_eq_iff hmembers hm).mp hclean
    exact ⟨hpublic, hname, hothers, hkeeps⟩
  · rintro ⟨hpublic, hname, hothers, hkeeps⟩
    have hm := mem_visibleMembers_iff.mpr ⟨hmem, hpublic, hname⟩
    exact ⟨hm, (exists_cleanMembers_eq_iff hmembers hm).mpr ⟨hothers, hkeeps⟩⟩

/-- If the definition is declared as a function type, then the body that it might have had
instead would declare the method of that type and nothing else. -/
def KeepsFunction (c : Catalogue) (excluded : List String) (d : Definition) : Prop :=
  ∀ m, d.functionMethod? = some m → d.DeclaresOnly c excluded m

/-- **Function types** stand for the whole body, and show nothing that would not be in it,
exactly if their method is visible and has no visible members beside it but repetitions and
nested definitions. -/
theorem keepsFunction_iff (c : Catalogue) (excluded : List String) (d : Definition) :
    d.KeepsFunction c excluded ↔
      ∀ m, d.functionMethod? = some m → d.IsSole excluded m := by
  refine forall_congr' fun m => forall_congr' fun hm => ?_
  obtain ⟨rest, hmembers⟩ := exists_members_of_functionMethod? hm
  exact declaresOnly_iff hmembers

/-- A functional interface with a further method that need not be implemented. -/
def sorter : Definition :=
  { empty .functionalInterface (.simple "a.Sorter") with
    members :=
      [.method (.plain "compare" (.simple "int") [] "a.Sorter"),
       .method (.plain "reversed" .void [] "a.Sorter")] }

/-- The further method is not declared. -/
theorem not_keepsFunction_sorter :
    ∃ c, Catalogue.ofList [sorter] = .ok c ∧ ¬sorter.KeepsFunction c [] ∧
      moduleText c {} "a" [sorter] = unlines
        ["declare module 'a' \x7b", "  export type Sorter = () => number;", "\x7d"] := by
  refine ⟨{ roots := [sorter] }, rfl, fun h => ?_, by decide +kernel⟩
  have hsole := (declaresOnly_iff rfl).mp (h _ rfl)
  obtain hother | hother := hsole.others
    (.method (.plain "reversed" .void [] "a.Sorter")) (.tail _ (.head _))
  · cases hother
  · exact absurd hother (by decide)

end Definition

end Ambient

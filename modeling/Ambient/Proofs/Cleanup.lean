/-
What becomes of the members of a definition.

The members that are declared in the end are the visible ones after three steps:
documentation is looked for, repeated signatures are dropped, and accessors that are
in conflict are reverted.  Documentation has no part in the other two, so they may as
well come first:

* `dropKnown_map`, `isCompatible_map`, `revertConflicts_mapMethod` — the two steps after
  a change to all members that they do not see;
* `Definition.kept` — the visible members, each signature once;
* `Definition.settleMethod` — what becomes of one method among those that are kept;
* `Definition.cleanMembers_eq` — the members that are declared are those that are kept,
  each for itself.
-/
import Mathlib.Data.List.Basic
import Ambient.Hierarchy.Cleanup
import Ambient.Proofs.Selection

namespace Ambient

/-! ### Changes that are not seen -/

theorem method?_mapMethod {β : Type} {f : Method → Method} {p : Method → β}
    (hf : ∀ m, p (f m) = p m) (m : Member) :
    (m.mapMethod f).method?.map p = m.method?.map p := by
  cases m with
  | method m => exact congrArg some (hf m)
  | field o => rfl
  | nested e => rfl

/-- One member at a time: it is dropped if it is a method of a known signature, and known
from then on if it is one of another. -/
theorem dropKnown_cons (known : List Signature) (m : Member) (ms : List Member) :
    dropKnown known (m :: ms) =
      if (m.method?.map Method.signature).any (· ∈ known) then dropKnown known ms
      else m :: dropKnown ((m.method?.map Method.signature).toList ++ known) ms := by
  cases m with
  | method m => simp [dropKnown, Member.method?]
  | field f => rfl
  | nested e => rfl

section
variable {f : Member → Member}

/-- Known signatures are dropped without a look at anything but signatures. -/
theorem dropKnown_map
    (hf : ∀ m, (f m).method?.map Method.signature = m.method?.map Method.signature)
    (known : List Signature) (ms : List Member) :
    dropKnown known (ms.map f) = (dropKnown known ms).map f := by
  induction ms generalizing known with
  | nil => rfl
  | cons m ms ih =>
    rw [List.map_cons, dropKnown_cons, dropKnown_cons, hf]
    split
    · exact ih known
    · rw [List.map_cons, ih]

/-- Whether members of one name go together is told from their kinds. -/
theorem isCompatible_map (hf : ∀ m, (f m).method?.map Method.kind = m.method?.map Method.kind)
    (ms : List Member) : isCompatible (ms.map f) = isCompatible ms := by
  -- Two members are a pair if their kinds, where they have any, are the two of a pair.
  have hpair : ∀ a b : Member, isAccessorPair a b =
      ((a.method?.map Method.kind = some .getter &&
          b.method?.map Method.kind = some .setter) ||
        (a.method?.map Method.kind = some .setter &&
          b.method?.map Method.kind = some .getter)) := by
    intro a b
    cases a <;> cases b <;> simp [isAccessorPair, Member.method?]
  match ms with
  | [] => rfl
  | [_] => rfl
  | [a, b] =>
    show isAccessorPair (f a) (f b) = isAccessorPair a b
    rw [hpair, hpair, hf, hf]
  | _ :: _ :: _ :: _ => rfl

end

section
variable {f : Method → Method}

/-- Which accessors are reverted is told from kinds and names. -/
theorem revertConflicts_mapMethod (hname : ∀ m, (f m).name = m.name)
    (hkind : ∀ m, (f m).kind = m.kind) (ms : List Member) :
    revertConflicts (ms.map (Member.mapMethod f)) = ms.map fun m =>
      if isCompatible (ms.filter (·.name = m.name)) then m.mapMethod f
      else (m.mapMethod f).mapMethod Method.toPlain := by
  have hnames : ∀ m : Member, (m.mapMethod f).name = m.name := by
    intro m
    cases m with
    | method m => exact hname m
    | field o => rfl
    | nested e => rfl
  rw [revertConflicts, List.map_map]
  refine List.map_congr_left fun m _ => ?_
  simp only [Function.comp_apply, List.filter_map, hnames, Function.comp_def,
    isCompatible_map (method?_mapMethod hkind)]

end

/-! ### Documentation -/

namespace Method

/-- Whether documentation for the method is looked for above the interfaces. -/
def seeksDoc (m : Method) : Bool :=
  !(m.isStatic || !m.isOverride || m.hasValuableDoc)

variable (c : Catalogue) (interfaces : List TypeExpr) (m : Method)

theorem exists_inheritDoc_eq : ∃ doc, m.inheritDoc c interfaces = { m with doc := doc } := by
  unfold inheritDoc
  split
  · exact ⟨m.doc, rfl⟩
  · split
    next doc _ => exact ⟨some doc, rfl⟩
    · exact ⟨m.doc, rfl⟩

theorem signature_inheritDoc : (m.inheritDoc c interfaces).signature = m.signature := by
  obtain ⟨doc, h⟩ := m.exists_inheritDoc_eq c interfaces
  rw [h]
  rfl

theorem name_inheritDoc : (m.inheritDoc c interfaces).name = m.name := by
  obtain ⟨doc, h⟩ := m.exists_inheritDoc_eq c interfaces
  rw [h]

theorem kind_inheritDoc : (m.inheritDoc c interfaces).kind = m.kind := by
  obtain ⟨doc, h⟩ := m.exists_inheritDoc_eq c interfaces
  rw [h]

end Method

/-! ### Members -/

theorem dropKnown_sublist (known : List Signature) (ms : List Member) :
    (dropKnown known ms).Sublist ms := by
  induction ms generalizing known with
  | nil => exact .refl _
  | cons m ms ih =>
    rw [dropKnown_cons]
    split
    · exact (ih known).cons _
    · exact (ih _).cons_cons _

/-- Methods are dropped among members as they are passed over when copies are chosen. -/
theorem filterMap_dropKnown (known : List Signature) (ms : List Member) :
    (dropKnown known ms).filterMap Member.method? =
      selectNew (fun _ => true) known (ms.filterMap Member.method?) := by
  induction ms generalizing known with
  | nil => rfl
  | cons m ms ih =>
    cases m with
    | field f => exact ih known
    | nested e => exact ih known
    | method m =>
      show (dropKnown known (.method m :: ms)).filterMap Member.method? =
        selectNew (fun _ => true) known (m :: ms.filterMap Member.method?)
      rw [dropKnown, selectNew]
      split
      · exact ih known
      · exact congrArg (m :: ·) (ih _)

/-- A method stays if its signature is not known and it is the first that has it. -/
theorem mem_dropKnown_iff {known : List Signature} {ms : List Member} {m : Method} :
    .method m ∈ dropKnown known ms ↔
      m.signature ∉ known ∧
        (ms.filterMap Member.method?).find? (·.signature = m.signature) = some m := by
  rw [← Definition.mem_filterMap_method?_iff, filterMap_dropKnown, mem_selectNew_iff]
  simp only [Bool.true_and]

namespace Definition

variable {c : Catalogue} {d : Definition} {excluded : List String} {m : Method}

theorem mem_visibleMembers_iff :
    .method m ∈ d.visibleMembers excluded ↔ m ∈ d.methods ∧ m.isPublic ∧ m.name ∉ excluded := by
  rw [visibleMembers, List.mem_filter, mem_methods_iff, Bool.and_eq_true, decide_eq_true_eq]
  rfl

/-- The visible members, each signature once. -/
def kept (excluded : List String) (d : Definition) : List Member :=
  dropDuplicates (d.visibleMembers excluded)

/-- What is kept was visible. -/
theorem kept_subset : d.kept excluded ⊆ d.visibleMembers excluded :=
  (dropKnown_sublist [] _).subset

/-- What becomes of a method among some members. -/
def settleMethod (c : Catalogue) (d : Definition) (ms : List Member) (m : Method) : Method :=
  if isCompatible (ms.filter (·.name = m.name)) then m.inheritDoc c d.interfaces
  else (m.inheritDoc c d.interfaces).toPlain

/-- **Cleaning up**: the members to declare are those that are kept, each method settled
among them, without the nested definitions. -/
theorem cleanMembers_eq :
    d.cleanMembers c excluded =
      ((d.kept excluded).map (Member.mapMethod (d.settleMethod c (d.kept excluded)))).filter
        (!·.isNested) := by
  rw [cleanMembers, settle, inheritDocs, dropDuplicates,
    dropKnown_map (method?_mapMethod (Method.signature_inheritDoc c d.interfaces)),
    revertConflicts_mapMethod (Method.name_inheritDoc c d.interfaces)
      (Method.kind_inheritDoc c d.interfaces)]
  refine congrArg _ (List.map_congr_left fun m _ => ?_)
  cases m with
  | method m => exact (apply_ite Member.method _ _ _).symm
  | field o => exact ite_self _
  | nested e => exact ite_self _

theorem filterMap_cleanMembers :
    (d.cleanMembers c excluded).filterMap Member.method? =
      ((d.kept excluded).filterMap Member.method?).map
        (d.settleMethod c (d.kept excluded)) := by
  rw [cleanMembers_eq, List.filterMap_filter, List.filterMap_map, List.map_filterMap]
  refine List.filterMap_congr fun m _ => ?_
  cases m <;> rfl

theorem mem_cleanMembers_iff :
    .method m ∈ d.cleanMembers c excluded ↔
      ∃ o, .method o ∈ d.kept excluded ∧ m = d.settleMethod c (d.kept excluded) o := by
  rw [← mem_filterMap_method?_iff, filterMap_cleanMembers, List.mem_map]
  simp only [mem_filterMap_method?_iff, eq_comm]

end Definition

end Ambient

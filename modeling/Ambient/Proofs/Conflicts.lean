/-
Accessors in conflict.

An accessor that shares its name with anything but its counterpart becomes a plain
method again.  Names are compared once, before anything is renamed, so a method that
gets its own name back may meet an accessor of that name which was in no conflict
until then.  This file shows that nothing else goes wrong:

* `ConflictFree` — no accessor shares its name, except with one counterpart;
* `Definition.inConflict` — the accessors that are made plain methods;
* `exists_settleMethod_eq` — what becomes of a method;
* `filter_cleanMembers` — the members of a name that no renamed method takes;
* `conflictFree_cleanMembers_iff` — the members to declare are free of conflicts
  exactly if no renamed method meets an accessor.

With names read off those of the methods, such a meeting takes a property that is
itself called like an accessor: `conflictFree_of_ofAccessor`.
-/
import Mathlib.Tactic.Set
import Ambient.Declaration.Basic
import Ambient.Proofs.Cleanup
import Ambient.Property

namespace Ambient

/-! ### Freedom from conflicts -/

/-- The two methods are the getter and the setter of a property, or the other way round. -/
def Method.IsCounterpart (m o : Method) : Prop :=
  (m.kind = .getter ∧ o.kind = .setter) ∨ (m.kind = .setter ∧ o.kind = .getter)

/-- No accessor shares its name with another member, except with one counterpart. -/
def ConflictFree (ms : List Member) : Prop :=
  ∀ m, .method m ∈ ms → m.isAccessor →
    ms.filter (·.name = m.name) = [.method m] ∨
      ∃ o, m.IsCounterpart o ∧
        (ms.filter (·.name = m.name) = [.method m, .method o] ∨
          ms.filter (·.name = m.name) = [.method o, .method m])

namespace Method.IsCounterpart

variable {m o : Method}

theorem symm (h : m.IsCounterpart o) : o.IsCounterpart m :=
  (Or.symm h).imp And.symm And.symm

theorem isAccessor (h : m.IsCounterpart o) : o.isAccessor := by
  rcases h with ⟨-, h⟩ | ⟨-, h⟩ <;> simp [Method.isAccessor, h]

end Method.IsCounterpart

theorem isAccessorPair_iff {a b : Member} :
    isAccessorPair a b ↔ ∃ m o, a = .method m ∧ b = .method o ∧ m.IsCounterpart o := by
  constructor
  · intro h
    match a, b with
    | .method m, .method o =>
      exact ⟨m, o, rfl, rfl, by simpa [isAccessorPair, Method.IsCounterpart] using h⟩
    | .method _, .field _ | .method _, .nested _ | .field _, _ | .nested _, _ => cases h
  · rintro ⟨m, o, rfl, rfl, h⟩
    simpa [isAccessorPair, Method.IsCounterpart] using h

/-- Members with a method among them go together if the method is alone or with its
counterpart. -/
theorem isCompatible_iff {ms : List Member} {m : Method} (hm : .method m ∈ ms) :
    isCompatible ms ↔
      ms = [.method m] ∨
        ∃ o, m.IsCounterpart o ∧ (ms = [.method m, .method o] ∨ ms = [.method o, .method m]) := by
  constructor
  · intro h
    match ms, hm, h with
    | [a], hm, _ => exact .inl (congrArg (· :: []) (List.mem_singleton.mp hm).symm)
    | [a, b], hm, h =>
      obtain ⟨x, y, rfl, rfl, hxy⟩ := isAccessorPair_iff.mp h
      have hm' : m = x ∨ m = y := by simpa using hm
      rcases hm' with rfl | rfl
      · exact .inr ⟨y, hxy, .inl rfl⟩
      · exact .inr ⟨x, hxy.symm, .inr rfl⟩
  · rintro (rfl | ⟨o, ho, rfl | rfl⟩)
    · rfl
    · exact isAccessorPair_iff.mpr ⟨m, o, rfl, rfl, ho⟩
    · exact isAccessorPair_iff.mpr ⟨o, m, rfl, rfl, ho.symm⟩

/-- The members of an accessor's name go together. -/
theorem conflictFree_iff {ms : List Member} :
    ConflictFree ms ↔
      ∀ m, .method m ∈ ms → m.isAccessor → isCompatible (ms.filter (·.name = m.name)) := by
  refine forall_congr' fun m => forall_congr' fun hm => forall_congr' fun _ => ?_
  exact (isCompatible_iff (List.mem_filter.mpr ⟨hm, decide_eq_true rfl⟩)).symm

/-- Whatever goes together with an accessor is an accessor. -/
theorem exists_accessor_of_isCompatible {ms : List Member} (h : isCompatible ms) {m : Method}
    (hm : .method m ∈ ms) (ha : m.isAccessor) {k : Member} (hk : k ∈ ms) :
    ∃ o : Method, k = .method o ∧ o.isAccessor := by
  rcases (isCompatible_iff hm).mp h with rfl | ⟨p, hp, rfl | rfl⟩
  · exact ⟨m, by simpa using hk, ha⟩
  · have hk' : k = .method m ∨ k = .method p := by simpa using hk
    exact hk'.elim (fun h => ⟨m, h, ha⟩) fun h => ⟨p, h, hp.isAccessor⟩
  · have hk' : k = .method p ∨ k = .method m := by simpa using hk
    exact hk'.elim (fun h => ⟨p, h, hp.isAccessor⟩) fun h => ⟨m, h, ha⟩

namespace Definition

variable {c : Catalogue} {d : Definition} {excluded : List String} {m : Method}

/-! ### What becomes of a method -/

/-- Whether the method is an accessor that shares its name with anything but its
counterpart. -/
def inConflict (excluded : List String) (d : Definition) (m : Method) : Bool :=
  m.isAccessor && !isCompatible ((d.kept excluded).filter (·.name = m.name))

theorem isAccessor_of_inConflict (h : d.inConflict excluded m) : m.isAccessor :=
  (Bool.and_eq_true_iff.mp h).1

/-- A method in conflict becomes plain and gets its own name back.  Besides, any method may
take over documentation. -/
theorem exists_settleMethod_eq (c : Catalogue) (excluded : List String) (d : Definition)
    (m : Method) : ∃ doc, d.settleMethod c (d.kept excluded) m =
    if d.inConflict excluded m then { m with kind := .plain, name := m.methodName, doc := doc }
    else { m with doc := doc } := by
  obtain ⟨doc, hdoc⟩ := m.exists_inheritDoc_eq c d.interfaces
  refine ⟨doc, ?_⟩
  rw [settleMethod, hdoc, inConflict]
  cases isCompatible ((d.kept excluded).filter (·.name = m.name)) with
  | true => simp
  | false => simp [Method.toPlain, Method.isAccessor]

theorem kind_settleMethod :
    (d.settleMethod c (d.kept excluded) m).kind =
      if d.inConflict excluded m then .plain else m.kind := by
  obtain ⟨doc, h⟩ := exists_settleMethod_eq c excluded d m
  rw [h]
  split <;> rfl

theorem name_settleMethod :
    (d.settleMethod c (d.kept excluded) m).name =
      if d.inConflict excluded m then m.methodName else m.name := by
  obtain ⟨doc, h⟩ := exists_settleMethod_eq c excluded d m
  rw [h]
  split <;> rfl

/-- A method stays an accessor if it was one that is in no conflict. -/
theorem isAccessor_settleMethod :
    (d.settleMethod c (d.kept excluded) m).isAccessor ↔
      m.isAccessor ∧ d.inConflict excluded m = false := by
  rw [Method.isAccessor, kind_settleMethod]
  cases h : d.inConflict excluded m with
  | true => simp
  | false => simp [Method.isAccessor]

/-! ### The members of a name -/

/-- If no method is renamed to some name, the members to declare under it are those that
were kept under it, each for itself. -/
theorem filter_cleanMembers {n : String}
    (hn : ∀ r, .method r ∈ d.kept excluded → d.inConflict excluded r →
      r.name ≠ n ∧ r.methodName ≠ n) :
    (d.cleanMembers c excluded).filter (·.name = n) =
      (((d.kept excluded).filter (·.name = n)).map
        (Member.mapMethod (d.settleMethod c (d.kept excluded)))).filter (!·.isNested) := by
  have hname : ∀ k ∈ d.kept excluded,
      ((k.mapMethod (d.settleMethod c (d.kept excluded))).name = n ↔ k.name = n) := by
    intro k hk
    cases k with
    | field f => exact Iff.rfl
    | nested e => exact Iff.rfl
    | method r =>
      show (d.settleMethod c (d.kept excluded) r).name = n ↔ r.name = n
      rw [name_settleMethod]
      cases hr : d.inConflict excluded r with
      | false => exact Iff.rfl
      | true =>
        -- Such a method has another name before and after.
        obtain ⟨hbefore, hafter⟩ := hn r hk hr
        exact iff_of_false hafter hbefore
  -- Nested definitions are left out after the names are compared or before: it is the same.
  rw [cleanMembers_eq, List.filter_filter, List.filter_map, List.filter_map, List.filter_filter]
  refine congrArg _ (List.filter_congr fun k hk => ?_)
  simp only [Function.comp_apply, decide_eq_decide.mpr (hname k hk)]
  exact Bool.and_comm _ _

/-- The members to declare under the name of an accessor in no conflict go together, if
no method is renamed to it. -/
theorem isCompatible_filter_cleanMembers {a : Method} (ha : .method a ∈ d.kept excluded)
    (hacc : a.isAccessor) (hfree : d.inConflict excluded a = false)
    (hmeet : ∀ r, .method r ∈ d.kept excluded → d.inConflict excluded r → r.methodName ≠ a.name) :
    isCompatible ((d.cleanMembers c excluded).filter (·.name = a.name)) := by
  set group := (d.kept excluded).filter (·.name = a.name) with hgroup
  have hcompatible : isCompatible group := by simpa [inConflict, hacc] using hfree
  -- The members of a name are in conflict together, or none of them is.
  have hothers : ∀ o : Method, o.name = a.name → d.inConflict excluded o = false := by
    intro o ho
    rw [inConflict, ho, ← hgroup, hcompatible]
    exact Bool.and_false _
  have hmem : .method a ∈ group := List.mem_filter.mpr ⟨ha, decide_eq_true rfl⟩
  have haccessors : ∀ k ∈ group, ∃ o : Method, k = .method o ∧ o.isAccessor :=
    fun k hk => exists_accessor_of_isCompatible hcompatible hmem hacc hk
  rw [filter_cleanMembers fun r hr hconflict =>
    ⟨fun hn => by simp [hothers r hn] at hconflict, hmeet r hr hconflict⟩, ← hgroup]
  -- All of them are accessors in no conflict, so only their documentation changes.
  have hsettle : group.map (Member.mapMethod (d.settleMethod c (d.kept excluded))) =
      group.map (Member.mapMethod (·.inheritDoc c d.interfaces)) := by
    refine List.map_congr_left fun k hk => ?_
    obtain ⟨o, rfl, -⟩ := haccessors k hk
    have ho : o.name = a.name := of_decide_eq_true (List.mem_filter.mp hk).2
    show Member.method (d.settleMethod c (d.kept excluded) o) =
      .method (o.inheritDoc c d.interfaces)
    rw [settleMethod, ho, ← hgroup, if_pos hcompatible]
  have hnested : (group.map (Member.mapMethod (·.inheritDoc c d.interfaces))).filter
      (!·.isNested) = group.map (Member.mapMethod (·.inheritDoc c d.interfaces)) := by
    refine List.filter_eq_self.mpr fun _ hmap => ?_
    obtain ⟨k, hk, rfl⟩ := List.mem_map.mp hmap
    obtain ⟨o, rfl, -⟩ := haccessors k hk
    rfl
  rw [hsettle, hnested,
    isCompatible_map (method?_mapMethod (Method.kind_inheritDoc c d.interfaces))]
  exact hcompatible

/-! ### When conflicts are left -/

/-- Where conflicts are resolved, a method that gets its own name back meets no accessor of
that name. -/
theorem methodName_ne_of_conflictFree (h : ConflictFree (d.cleanMembers c excluded))
    {a r : Method} (ha : .method a ∈ d.kept excluded) (hacc : a.isAccessor)
    (hfree : d.inConflict excluded a = false) (hr : .method r ∈ d.kept excluded)
    (hconflict : d.inConflict excluded r) : r.methodName ≠ a.name := by
  intro hname
  -- Both are declared under the one name, the one as an accessor and the other not.
  have ha' : .method (d.settleMethod c (d.kept excluded) a) ∈ d.cleanMembers c excluded :=
    mem_cleanMembers_iff.mpr ⟨a, ha, rfl⟩
  have hr' : .method (d.settleMethod c (d.kept excluded) r) ∈ d.cleanMembers c excluded :=
    mem_cleanMembers_iff.mpr ⟨r, hr, rfl⟩
  have hnames : (d.settleMethod c (d.kept excluded) r).name =
      (d.settleMethod c (d.kept excluded) a).name := by
    rw [name_settleMethod, name_settleMethod, if_pos hconflict, hfree, hname]
    rfl
  have hacc' := isAccessor_settleMethod (c := c).mpr ⟨hacc, hfree⟩
  obtain ⟨o, ho, hoacc⟩ := exists_accessor_of_isCompatible (conflictFree_iff.mp h _ ha' hacc')
    (List.mem_filter.mpr ⟨ha', decide_eq_true rfl⟩) hacc'
    (List.mem_filter.mpr ⟨hr', decide_eq_true hnames⟩)
  obtain rfl := Member.method.inj ho
  have hfree' := (isAccessor_settleMethod.mp hoacc).2
  rw [hconflict] at hfree'
  cases hfree'

/-- Conflicts are resolved if no method that gets its own name back meets an accessor of
that name. -/
theorem conflictFree_of_methodName_ne
    (h : ∀ a r, .method a ∈ d.kept excluded → a.isAccessor → d.inConflict excluded a = false →
      .method r ∈ d.kept excluded → d.inConflict excluded r → r.methodName ≠ a.name) :
    ConflictFree (d.cleanMembers c excluded) := by
  refine conflictFree_iff.mpr fun m hm hacc => ?_
  obtain ⟨a, ha, rfl⟩ := mem_cleanMembers_iff.mp hm
  obtain ⟨hacc, hfree⟩ := isAccessor_settleMethod.mp hacc
  have hname : (d.settleMethod c (d.kept excluded) a).name = a.name := by
    rw [name_settleMethod, hfree]
    rfl
  rw [hname]
  exact isCompatible_filter_cleanMembers ha hacc hfree fun r => h a r ha hacc hfree

/-- **Conflicts are resolved** exactly if no method that gets its own name back meets an
accessor of that name which was in no conflict. -/
theorem conflictFree_cleanMembers_iff (c : Catalogue) (excluded : List String) (d : Definition) :
    ConflictFree (d.cleanMembers c excluded) ↔
      ∀ a r, .method a ∈ d.kept excluded → a.isAccessor → d.inConflict excluded a = false →
        .method r ∈ d.kept excluded → d.inConflict excluded r → r.methodName ≠ a.name :=
  ⟨fun h _ _ => methodName_ne_of_conflictFree h, conflictFree_of_methodName_ne⟩

/-- With property names that are read off those of the methods, and none of which is
itself the name of such a method, no conflicts are left. -/
theorem conflictFree_of_ofAccessor
    (hread : ∀ m, .method m ∈ d.kept excluded → m.isAccessor →
      Property.ofAccessor m.methodName = some m.name)
    (hnames : ∀ m, .method m ∈ d.kept excluded → m.isAccessor → Property.ofAccessor m.name = none) :
    ConflictFree (d.cleanMembers c excluded) := by
  refine conflictFree_of_methodName_ne fun a r ha hacc _ hr hconflict hname => ?_
  have hsome : Property.ofAccessor a.name = some r.name :=
    hname ▸ hread r hr (isAccessor_of_inConflict hconflict)
  rw [hnames a ha hacc] at hsome
  cases hsome

/-- A class with the getters `getX` and `getGetX` and a field `x`. -/
def relay : Definition :=
  { Definition.empty .classType (.simple "a.Relay") with
    members :=
      [.method (.getter "x" "getX" (.simple "int") "a.Relay"),
       .field { name := "x", type := .simple "int" },
       .method (.getter "getX" "getGetX" (.simple "int") "a.Relay")] }

/-- The field takes the name of the first getter, which then takes that of the second. -/
theorem not_conflictFree_relay :
    ∃ c, Catalogue.ofList [relay] = .ok c ∧ ¬ConflictFree (relay.cleanMembers c []) ∧
      moduleText c {} "a" [relay] = unlines
        ["declare module 'a' \x7b", "  export class Relay \x7b", "    getX(): number;",
          "    x: number;", "    get getX(): number;", "  \x7d", "\x7d"] := by
  refine ⟨_, rfl, fun h => ?_, by decide +kernel⟩
  have second : .method (.getter "getX" "getGetX" (.simple "int") "a.Relay") ∈ relay.kept [] :=
    .tail _ (.tail _ (.head _))
  have first : .method (.getter "x" "getX" (.simple "int") "a.Relay") ∈ relay.kept [] := .head _
  exact methodName_ne_of_conflictFree h second rfl rfl first rfl rfl

end Definition

end Ambient

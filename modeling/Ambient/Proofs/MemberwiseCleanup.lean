/-
Cleaning up, member by member.

The steps of cleaning up go through the members in turn: the one remembers the
signatures that it has met, the other takes name after name and renames methods on the
way.  This file says of each member for itself what becomes of it:

* `firsts`, `dropDuplicates_eq_firsts` — the members that repeat no signature, each
  compared with those before it;
* `revertInTurn_eq` — names may be taken in turn, since what is done about one of them
  leaves the members of the others as they are;
* `Contested`, `isCompatible_iff_not_contested` — the names whose accessors are
  reverted;
* `SettlesTo`, `cleanMembers_exact` — the members to declare, one for each of the
  first ones that are not nested definitions.
-/
import Mathlib.Data.List.Permutation
import Ambient.Grouping
import Ambient.Proofs.Conflicts

namespace Ambient

/-! ### Repetitions -/

/-- The signature of a member that is a method. -/
def Member.signature? (m : Member) : Option Signature :=
  m.method?.map Method.signature

/-- Whether a member is a method of a signature that one before it has. -/
def Member.repeats (m : Member) (before : List Member) : Bool :=
  m.signature?.any fun s => some s ∈ before.map Member.signature?

/-- The members that repeat none of those before them. -/
def firsts (ms : List Member) : List Member :=
  (ms.zipIdx.filter fun p => !p.1.repeats (ms.take p.2)).map Prod.fst

/-- The known signatures are those of the members that went before. -/
theorem dropKnown_eq {known : List Signature} (before : List Member)
    (hknown : ∀ s, s ∈ known ↔ some s ∈ before.map Member.signature?) (ms : List Member) :
    dropKnown known ms =
      (ms.zipIdx.filter fun p => !p.1.repeats (before ++ ms.take p.2)).map Prod.fst := by
  induction ms generalizing known before with
  | nil => rfl
  | cons m ms ih =>
    -- The rest is compared with `m` as well.
    have hrest : ∀ known', (∀ s, s ∈ known' ↔ some s ∈ (before ++ [m]).map Member.signature?) →
        dropKnown known' ms =
          ((ms.zipIdx.map (Prod.map id (· + 1))).filter fun p =>
            !p.1.repeats (before ++ (m :: ms).take p.2)).map Prod.fst := by
      intro known' hknown'
      rw [ih _ hknown', List.filter_map, List.map_map]
      simp only [Function.comp_def, Prod.map_fst, Prod.map_snd, id_eq, List.take_succ_cons,
        List.append_assoc, List.singleton_append]
    have hrepeats : m.repeats before = m.signature?.any (· ∈ known) := by
      simp only [Member.repeats, hknown]
    rw [dropKnown_cons, List.zipIdx_cons', List.filter_cons, List.take_zero, List.append_nil,
      hrepeats, ← Member.signature?]
    cases h : m.signature?.any (· ∈ known) with
    | true =>
      obtain ⟨s, hs, hmem⟩ := (Option.any_eq_true _ _).mp h
      refine hrest known fun t => ?_
      rw [List.map_append, List.mem_append, ← hknown, List.map_singleton, List.mem_singleton, hs]
      refine ⟨.inl, ?_⟩
      rintro (ht | ht)
      · exact ht
      · exact Option.some.inj ht ▸ of_decide_eq_true hmem
    | false =>
      refine congrArg (m :: ·) (hrest _ fun t => ?_)
      rw [List.mem_append, Option.mem_toList, List.map_append, List.mem_append, ← hknown,
        List.map_singleton, List.mem_singleton, eq_comm]
      exact Or.comm

/-- **Repeated signatures**: of the members that are gone through, those are left that
repeat none of the ones before them. -/
theorem dropDuplicates_eq_firsts (ms : List Member) : dropDuplicates ms = firsts ms :=
  dropKnown_eq [] (fun _ => iff_of_false List.not_mem_nil List.not_mem_nil) ms

/-- What is left has no repetitions. -/
theorem dropKnown_dropKnown (known : List Signature) (ms : List Member) :
    dropKnown known (dropKnown known ms) = dropKnown known ms := by
  induction ms generalizing known with
  | nil => rfl
  | cons m ms ih =>
    rw [dropKnown_cons]
    split
    · exact ih known
    next h => rw [dropKnown_cons, if_neg h, ih]

/-! ### Names in turn -/

/-- Makes plain methods of the accessors of one name, if the members that stand there now
do not go together. Each member comes with the name that it had at first. -/
def revertName (ms : List (String × Member)) (n : String) : List (String × Member) :=
  if isCompatible ((ms.filter (·.1 = n)).map Prod.snd) then ms
  else ms.map fun p => if p.1 = n then (p.1, p.2.mapMethod Method.toPlain) else p

/-- Makes plain methods of accessors, one name after the other in the order in which they
occur. -/
def revertInTurn (ms : List Member) : List Member :=
  let names := Grouping.distinct (ms.map Member.name)
  (names.foldl revertName (ms.map fun m => (m.name, m))).map Prod.snd

/-- What becomes of a member when some names are done with. -/
def revertedAmong (ms : List Member) (done : List String) (m : Member) : Member :=
  if m.name ∈ done ∧ ¬isCompatible (ms.filter (·.name = m.name)) then m.mapMethod Method.toPlain
  else m

/-- The members, with the names that they had at first, when some names are done with. -/
def afterNames (ms : List Member) (done : List String) : List (String × Member) :=
  ms.map fun m => (m.name, revertedAmong ms done m)

section
variable (ms : List Member) {done : List String}

theorem revertedAmong_of_notMem {m : Member} (h : m.name ∉ done) : revertedAmong ms done m = m :=
  if_neg fun hm => h hm.1

/-- The members of a name that is not done with are as they were at first. -/
theorem filter_afterNames {n : String} (hn : n ∉ done) :
    ((afterNames ms done).filter (·.1 = n)).map Prod.snd = ms.filter (·.name = n) := by
  rw [afterNames, List.filter_map, List.map_map]
  refine (List.map_congr_left fun m hm => ?_).trans (List.map_id _)
  have hmn : m.name = n := of_decide_eq_true (List.mem_filter.mp hm).2
  exact revertedAmong_of_notMem ms (hmn ▸ hn)

/-- One name more: whether its members are reverted is decided on what they were at first. -/
theorem revertName_afterNames {n : String} (hn : n ∉ done) :
    revertName (afterNames ms done) n = afterNames ms (n :: done) := by
  have hthese : ∀ m : Member, m.name = n → revertedAmong ms done m = m := by
    rintro m rfl
    exact revertedAmong_of_notMem ms hn
  have hothers : ∀ m : Member, m.name ≠ n →
      revertedAmong ms (n :: done) m = revertedAmong ms done m := by
    intro m hm
    simp only [revertedAmong, List.mem_cons, hm, false_or]
  rw [revertName, filter_afterNames ms hn]
  split
  next hc =>
    refine List.map_congr_left fun m _ => congrArg (m.name, ·) ?_
    by_cases hm : m.name = n
    · -- The members go together, so nothing is done about them.
      rw [hthese m hm, revertedAmong, hm, if_neg fun h => h.2 hc]
    · exact (hothers m hm).symm
  next hc =>
    rw [afterNames, List.map_map]
    refine List.map_congr_left fun m _ => ?_
    show (if m.name = n then (m.name, (revertedAmong ms done m).mapMethod Method.toPlain)
      else (m.name, revertedAmong ms done m)) = _
    split
    next hm => rw [hthese m hm, revertedAmong, hm, if_pos ⟨List.mem_cons_self, hc⟩]
    next hm => rw [hothers m hm]

theorem foldl_revertName {names : List String} (hnodup : (names ++ done).Nodup) :
    names.foldl revertName (afterNames ms done) = afterNames ms (names.reverse ++ done) := by
  induction names generalizing done with
  | nil => rfl
  | cons n names ih =>
    have hn : n ∉ done := fun h =>
      (List.nodup_cons.mp hnodup).1 (List.mem_append_right names h)
    rw [List.foldl_cons, revertName_afterNames ms hn, ih (List.nodup_middle.mpr hnodup),
      List.reverse_cons, List.append_assoc, List.singleton_append]

/-- **Names in turn**: reverting the accessors of one name after the other is to look at
all members as they were at first. -/
theorem revertInTurn_eq : revertInTurn ms = revertConflicts ms := by
  have hstart : (ms.map fun m => (m.name, m)) = afterNames ms [] :=
    List.map_congr_left fun m _ => by rw [revertedAmong_of_notMem ms List.not_mem_nil]
  have hnodup : (Grouping.distinct (ms.map Member.name) ++ []).Nodup := by
    rw [List.append_nil]
    exact Grouping.nodup_distinct _
  rw [revertInTurn, hstart, foldl_revertName ms hnodup, afterNames, List.map_map, revertConflicts]
  refine List.map_congr_left fun m hm => ?_
  have hname : m.name ∈ (Grouping.distinct (ms.map Member.name)).reverse ++ [] := by
    rw [List.append_nil, List.mem_reverse, Grouping.mem_distinct]
    exact List.mem_map_of_mem hm
  show revertedAmong ms _ m = _
  simp only [revertedAmong, hname, true_and, ite_not]

end

/-! ### Contested names -/

/-- The members are exactly one getter and one setter, in either order. -/
def IsPair (ms : List Member) : Prop :=
  ∃ g s : Method, g.kind = .getter ∧ s.kind = .setter ∧ ms.Perm [.method g, .method s]

/-- The name is that of at least two members, which are not just a getter and a setter. -/
def Contested (ms : List Member) (n : String) : Prop :=
  2 ≤ (ms.filter (·.name = n)).length ∧ ¬IsPair (ms.filter (·.name = n))

theorem isAccessorPair_iff_isPair {a b : Member} : isAccessorPair a b ↔ IsPair [a, b] := by
  rw [isAccessorPair_iff]
  constructor
  · rintro ⟨m, o, rfl, rfl, ⟨hm, ho⟩ | ⟨hm, ho⟩⟩
    · exact ⟨m, o, hm, ho, .refl _⟩
    · exact ⟨o, m, ho, hm, .swap _ _ _⟩
  · rintro ⟨g, s, hg, hs, hperm⟩
    rcases List.perm_pair.mp hperm with h | h
    · obtain ⟨rfl, rfl⟩ : a = .method g ∧ b = .method s := by simpa using h
      exact ⟨g, s, rfl, rfl, .inl ⟨hg, hs⟩⟩
    · obtain ⟨rfl, rfl⟩ : a = .method s ∧ b = .method g := by simpa using h
      exact ⟨s, g, rfl, rfl, .inr ⟨hs, hg⟩⟩

/-- Members go together if there is one, or exactly a getter and a setter. -/
theorem isCompatible_iff_isPair {ms : List Member} :
    isCompatible ms ↔ ms.length = 1 ∨ IsPair ms := by
  have hlength : IsPair ms → ms.length = 2 := fun ⟨_, _, _, _, hperm⟩ => hperm.length_eq
  match ms with
  | [] => simpa [isCompatible] using hlength
  | [a] => simp [isCompatible]
  | [a, b] => simpa [isCompatible] using isAccessorPair_iff_isPair
  | a :: b :: c :: ms => simpa [isCompatible] using hlength

theorem isCompatible_iff_not_contested {ms : List Member} {m : Member} (hm : m ∈ ms) :
    isCompatible (ms.filter (·.name = m.name)) ↔ ¬Contested ms m.name := by
  have hpos : 0 < (ms.filter (·.name = m.name)).length :=
    List.length_pos_of_mem (List.mem_filter.mpr ⟨hm, decide_eq_true rfl⟩)
  rw [isCompatible_iff_isPair, Contested, not_and, not_not]
  constructor
  · rintro (hone | hpair) htwo
    · omega
    · exact hpair
  · intro h
    by_cases hone : (ms.filter (·.name = m.name)).length = 1
    · exact .inl hone
    · exact .inr (h (by omega))

/-! ### What becomes of each member -/

/-- What becomes of a member among others: an accessor of a contested name becomes the
method that it was read from, and all else stays as it is. -/
inductive SettlesTo (ms : List Member) : Member → Member → Prop
  | reverts {m : Method} (hm : m.isAccessor) (hcontested : Contested ms m.name) :
      SettlesTo ms (.method m) (.method m.toPlain)
  | stays {m : Member} (hm : ∀ o, m = .method o → o.isAccessor → ¬Contested ms o.name) :
      SettlesTo ms m m

theorem settlesTo_of_mem {ms : List Member} {m : Member} (hm : m ∈ ms) :
    SettlesTo ms m
      (if isCompatible (ms.filter (·.name = m.name)) then m else m.mapMethod Method.toPlain) := by
  split
  next hc =>
    refine .stays fun o ho _ => ?_
    subst ho
    exact (isCompatible_iff_not_contested hm).mp hc
  next hc =>
    have hcontested : Contested ms m.name := by
      rwa [isCompatible_iff_not_contested hm, not_not] at hc
    cases m with
    | field f => exact .stays fun o ho => Member.noConfusion ho
    | nested e => exact .stays fun o ho => Member.noConfusion ho
    | method m =>
      show SettlesTo ms (.method m) (.method m.toPlain)
      cases hacc : m.isAccessor with
      | true => exact .reverts hacc hcontested
      | false =>
        have hplain : m.toPlain = m := by rw [Method.toPlain, hacc]; rfl
        rw [hplain]
        refine .stays fun o ho hoacc => ?_
        obtain rfl := Member.method.inj ho
        rw [hacc] at hoacc
        cases hoacc

/-- The member as a field. -/
def Member.field? : Member → Option Field
  | .field f => some f
  | _ => none

theorem fields_dropKnown (known : List Signature) (ms : List Member) :
    (dropKnown known ms).filterMap Member.field? = ms.filterMap Member.field? := by
  induction ms generalizing known with
  | nil => rfl
  | cons m ms ih =>
    cases m with
    | field f => exact congrArg (f :: ·) (ih known)
    | nested e => exact ih known
    | method m =>
      rw [dropKnown]
      split
      · exact ih known
      · exact ih _

theorem fields_revertConflicts (ms : List Member) :
    (revertConflicts ms).filterMap Member.field? = ms.filterMap Member.field? := by
  rw [revertConflicts, List.filterMap_map]
  refine List.filterMap_congr fun m _ => ?_
  show Member.field? (if _ then _ else _) = _
  split
  · rfl
  · cases m <;> rfl

namespace Definition

variable {c : Catalogue} {d : Definition} {excluded : List String}

theorem visibleMembers_eq_filter : d.visibleMembers excluded =
    d.members.filter fun m => m.isPublic ∧ ∀ o ∈ m.method?, o.name ∉ excluded := by
  refine List.filter_congr fun m _ => ?_
  cases m with
  | method m => simp [Member.method?]
  | field f => simp [Member.method?]
  | nested e => simp [Member.method?]

/-- **Cleaning up** starts from the public members, without the methods of an excluded name
and with the documentation that they get.  Those that repeat no signature are settled among
each other, and declared in their order but for the nested definitions.  Of any members,
names may be settled in turn, no field is touched by either step, and repetitions are gone
after they are dropped once. -/
theorem cleanMembers_exact (c : Catalogue) (excluded : List String) (d : Definition) :
    (∃ visible distinct : List Member,
      visible =
        (d.members.filter fun m => m.isPublic ∧ ∀ o ∈ m.method?, o.name ∉ excluded) ∧
      distinct = firsts (d.inheritDocs c visible) ∧
      List.Forall₂ (SettlesTo distinct) (distinct.filter (!·.isNested))
        (d.cleanMembers c excluded)) ∧
    ∀ ms : List Member,
      revertInTurn ms = revertConflicts ms ∧
      (revertConflicts ms).filterMap Member.field? = ms.filterMap Member.field? ∧
      (dropDuplicates ms).filterMap Member.field? = ms.filterMap Member.field? ∧
      dropDuplicates (dropDuplicates ms) = dropDuplicates ms := by
  refine ⟨⟨_, _, rfl, rfl, ?_⟩, fun ms => ⟨revertInTurn_eq ms, fields_revertConflicts ms,
    fields_dropKnown [] ms, dropKnown_dropKnown [] ms⟩⟩
  have hnested : ∀ (ms : List Member) (m : Member),
      (if isCompatible (ms.filter (·.name = m.name)) then m
        else m.mapMethod Method.toPlain).isNested = m.isNested := by
    intro ms m
    split
    · rfl
    · cases m <;> rfl
  rw [← visibleMembers_eq_filter, cleanMembers, settle, dropDuplicates_eq_firsts, revertConflicts,
    List.filter_map, List.forall₂_map_right_iff]
  simp only [Function.comp_def, hnested]
  exact List.forall₂_same.mpr fun m hm => settlesTo_of_mem (List.mem_of_mem_filter hm)

end Definition

end Ambient

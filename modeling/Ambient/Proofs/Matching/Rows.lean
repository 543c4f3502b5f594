/-
Relations between positions, as rows of bits.

Where a match that begins at one position may end is a row of bits, one row for each position.
Repetition is steps of a relation one after the other, of which the search takes no more than there
are positions.

* `Steps` — so many steps of a relation one after the other;
* `Spans.Computes` — rows of bits hold a relation between the positions of a text;
* `Spans.Computes.andThen`, `.orElse`, `.many`, `.times` — what becomes of the relations;
* `Spans.Computes.testBit_timesFrom` — the search round by round for what is repeated.
-/
import Mathlib.Data.Nat.Bitwise
import Mathlib.Logic.Relation
import Ambient.Pattern.Occurrence

namespace Ambient.Pattern

open Relation (Comp)

/-! ### Steps of a relation -/

/-- So many steps of a relation one after the other. -/
def Steps (R : Nat → Nat → Prop) : Nat → Nat → Nat → Prop
  | 0 => Eq
  | n + 1 => Comp R (Steps R n)

/-- A number of repetitions is within bounds. The lower bound itself always is. -/
def Bounds.Admits (b : Bounds) (n : Nat) : Prop :=
  b.min ≤ n ∧ ∀ most ∈ b.max, n ≤ most ∨ n = b.min

section
variable {R S : Nat → Nat → Prop} {i j k m n : Nat}

theorem steps_add : Steps R (m + n) i j ↔ ∃ k, Steps R m i k ∧ Steps R n k j := by
  induction m generalizing i with
  | zero => simp [Steps]
  | succ m ih =>
    rw [Nat.succ_add]
    simp only [Steps, Comp, ih]
    constructor
    · rintro ⟨l, hl, k, hk, hj⟩
      exact ⟨k, ⟨l, hl, hk⟩, hj⟩
    · rintro ⟨k, ⟨l, hl, hk⟩, hj⟩
      exact ⟨l, hl, k, hk, hj⟩

theorem steps_one : Steps R 1 i j ↔ R i j := by
  simp [Steps, Comp]

/-- Steps that may be left out. -/
theorem steps_eq_or : Steps (fun i j => j = i ∨ R i j) n i j ↔ ∃ m ≤ n, Steps R m i j := by
  induction n generalizing i with
  | zero => simp [Steps]
  | succ n ih =>
    simp only [Steps, Comp, ih]
    constructor
    · rintro ⟨k, rfl | hk, m, hm, hj⟩
      · exact ⟨m, by omega, hj⟩
      · exact ⟨m + 1, by omega, k, hk, hj⟩
    · rintro ⟨m, hm, hj⟩
      match m, hj with
      | 0, hj => exact ⟨i, .inl rfl, 0, by omega, hj⟩
      | m + 1, ⟨k, hk, hj⟩ => exact ⟨k, .inr hk, m, by omega, hj⟩

/-- What a step keeps, all steps keep. -/
theorem Steps.invariant {P : Nat → Prop} (h : Steps R n i j) (hP : ∀ i j, P i → R i j → P j)
    (hi : P i) : P j := by
  induction n generalizing i with
  | zero => exact h ▸ hi
  | succ n ih =>
    obtain ⟨k, hk, hj⟩ := h
    exact ih hj (hP i k hi hk)

/-- Any number of steps that go forward: none, or one to a later position and others from there. -/
theorem exists_steps_iff (hR : ∀ i j, R i j → i ≤ j) :
    (∃ n, Steps R n i j) ↔ j = i ∨ ∃ k, i < k ∧ R i k ∧ ∃ n, Steps R n k j := by
  constructor
  · rintro ⟨n, hn⟩
    induction n with
    | zero => exact .inl hn.symm
    | succ n ih =>
      obtain ⟨k, hk, hj⟩ := hn
      -- A step that stays where it is can be left out.
      rcases (hR i k hk).eq_or_lt with rfl | hlt
      · exact ih hj
      · exact .inr ⟨k, hlt, hk, n, hj⟩
  · rintro (rfl | ⟨k, -, hk, n, hj⟩)
    · exact ⟨0, rfl⟩
    · exact ⟨n + 1, k, hk, hj⟩

/-- There need not be more steps than positions. -/
theorem exists_steps_short (hR : ∀ i j, R i j → i ≤ j) (h : Steps R n i j) :
    i ≤ j ∧ ∃ m ≤ j - i, Steps R m i j := by
  induction n generalizing i with
  | zero => exact ⟨h.le, 0, Nat.zero_le _, h⟩
  | succ n ih =>
    obtain ⟨k, hk, hj⟩ := h
    obtain ⟨hkj, m, hm, hsteps⟩ := ih hj
    rcases (hR i k hk).eq_or_lt with rfl | hlt
    · exact ⟨hkj, m, hm, hsteps⟩
    · exact ⟨hlt.le.trans hkj, m + 1, by omega, k, hk, hsteps⟩

end

/-! ### Rows of bits -/

namespace Spans

/-- A bit is set in a row. -/
def Leads (a : Spans) (i j : Nat) : Prop :=
  (a[i]?.getD 0).testBit j

/-- What some positions lead to: in the rows from the first one on. -/
theorem testBit_imageOf (rows : Spans) (starts : Positions) (j : Nat) :
    (imageOf starts rows).testBit j ↔ ∃ i, starts.testBit i ∧ rows.Leads i j := by
  induction rows generalizing starts with
  | nil => simp [imageOf, Leads]
  | cons ends rows ih =>
    rw [← Nat.or_exists_add_one]
    have hrest : (∃ i, starts.testBit (i + 1) ∧ Leads (ends :: rows) (i + 1) j) ↔
        (imageOf (starts / 2) rows).testBit j := by
      rw [ih]
      simp [Leads, Nat.testBit_succ]
    rw [hrest, imageOf, Nat.testBit_zero]
    split
    next hzero => simp [hzero, ih]
    · split
      next hodd => simp [hodd, Leads]
      next hodd => simp [hodd]

theorem testBit_imageWithin {limit : Nat} {rows : Spans} (h : rows.length ≤ 32 * limit)
    (starts : Positions) (j : Nat) :
    (imageWithin starts limit rows).testBit j ↔ ∃ i, starts.testBit i ∧ rows.Leads i j := by
  induction limit generalizing starts rows with
  | zero =>
    obtain rfl := List.eq_nil_of_length_eq_zero (Nat.le_zero.mp h)
    simp [imageWithin, Leads]
  | succ limit ih =>
    have hdrop : (rows.drop 32).length ≤ 32 * limit := by
      rw [List.length_drop]
      omega
    rw [imageWithin]
    split
    next hzero => simp [hzero]
    · rw [Nat.testBit_or, Bool.or_eq_true, testBit_imageOf, ih hdrop]
      rw [show 4294967296 = 2 ^ 32 from rfl]
      simp only [Nat.testBit_mod_two_pow, Nat.testBit_div_two_pow, Bool.and_eq_true,
        decide_eq_true_eq, Leads, List.getElem?_drop]
      -- The first 32 rows, and the others.
      constructor
      · rintro (⟨i, ⟨-, hi⟩, hj⟩ | ⟨i, hi, hj⟩)
        · exact ⟨i, hi, hj⟩
        · exact ⟨32 + i, by rwa [Nat.add_comm], hj⟩
      · rintro ⟨i, hi, hj⟩
        by_cases hlt : i < 32
        · exact .inl ⟨i, ⟨hlt, hi⟩, hj⟩
        · obtain ⟨k, rfl⟩ := Nat.exists_eq_add_of_le (not_lt.mp hlt)
          exact .inr ⟨k, by rwa [Nat.add_comm], hj⟩

theorem testBit_image (rows : Spans) (starts : Positions) (j : Nat) :
    (rows.image starts).testBit j ↔ ∃ i, starts.testBit i ∧ rows.Leads i j :=
  testBit_imageWithin (by omega) starts j

/-- Rows of bits hold a relation between the positions of a text, which leads forward. -/
structure Computes (last : Nat) (a : Spans) (R : Nat → Nat → Prop) : Prop where
  length_eq : a.length = last + 1
  leads_iff : ∀ i j, a.Leads i j ↔ i ≤ last ∧ R i j
  ascends : ∀ i j, i ≤ last → R i j → i ≤ j ∧ j ≤ last

section
variable {last : Nat} {a b : Spans} {R S : Nat → Nat → Prop}

theorem Computes.congr (h : Computes last a R) (hRS : ∀ i j, R i j ↔ S i j) :
    Computes last a S := by
  have : R = S := funext fun i => funext fun j => propext (hRS i j)
  rwa [← this]

theorem Computes.andThen (ha : Computes last a R) (hb : Computes last b S) :
    Computes last (a.andThen b) (Comp R S) where
  length_eq := by rw [Spans.andThen, List.length_map, ha.length_eq]
  leads_iff := by
    intro i j
    have hrow : (a.andThen b).Leads i j ↔ ∃ k, a.Leads i k ∧ b.Leads k j := by
      rw [Leads, Spans.andThen, List.getElem?_map]
      cases hi : a[i]? with
      | none => simp [Leads, hi]
      | some row => simp [testBit_image, Leads, hi]
    rw [hrow]
    simp only [ha.leads_iff, hb.leads_iff, Comp]
    constructor
    · rintro ⟨k, ⟨hi, hk⟩, -, hj⟩
      exact ⟨hi, k, hk, hj⟩
    · rintro ⟨hi, k, hk, hj⟩
      exact ⟨k, ⟨hi, hk⟩, (ha.ascends i k hi hk).2, hj⟩
  ascends := by
    rintro i j hi ⟨k, hk, hj⟩
    obtain ⟨hik, hkl⟩ := ha.ascends i k hi hk
    obtain ⟨hkj, hjl⟩ := hb.ascends k j hkl hj
    exact ⟨hik.trans hkj, hjl⟩

theorem Computes.orElse (ha : Computes last a R) (hb : Computes last b S) :
    Computes last (a.orElse b) (fun i j => R i j ∨ S i j) where
  length_eq := by
    rw [Spans.orElse, List.length_zipWith, ha.length_eq, hb.length_eq, Nat.min_self]
  leads_iff := by
    intro i j
    have hrow : (a.orElse b).Leads i j ↔ a.Leads i j ∨ b.Leads i j := by
      have hlen : a.length = b.length := ha.length_eq.trans hb.length_eq.symm
      rw [Leads, Leads, Leads, Spans.orElse, List.getElem?_zipWith]
      by_cases hi : i < a.length
      · rw [List.getElem?_eq_getElem hi, List.getElem?_eq_getElem (hlen ▸ hi)]
        simp [Nat.testBit_or]
      · rw [List.getElem?_eq_none (not_lt.mp hi), List.getElem?_eq_none (hlen ▸ not_lt.mp hi)]
        simp
    rw [hrow, ha.leads_iff, hb.leads_iff, and_or_left]
  ascends := by
    rintro i j hi (h | h)
    · exact ha.ascends i j hi h
    · exact hb.ascends i j hi h

/-- The relation is that of the bits, and the number of steps is the same. -/
theorem Computes.steps_leads (ha : Computes last a R) {n i j : Nat} (hi : i ≤ last) :
    Steps a.Leads n i j ↔ Steps R n i j := by
  induction n generalizing i with
  | zero => rfl
  | succ n ih =>
    refine exists_congr fun k => ?_
    rw [ha.leads_iff, and_iff_right hi]
    exact and_congr_right fun hk => ih (ha.ascends i k hi hk).2

theorem Computes.le_of_leads (ha : Computes last a R) {i j : Nat} (h : a.Leads i j) :
    i ≤ j ∧ j ≤ last := by
  obtain ⟨hi, hj⟩ := (ha.leads_iff i j).mp h
  exact ha.ascends i j hi hj

/-- Steps lead forward. -/
theorem Computes.ascends_steps (ha : Computes last a R) {n i j : Nat} (hi : i ≤ last)
    (h : Steps R n i j) : i ≤ j ∧ j ≤ last := by
  induction n generalizing i with
  | zero => exact ⟨h.le, h ▸ hi⟩
  | succ n ih =>
    obtain ⟨k, hk, hj⟩ := h
    obtain ⟨hik, hkl⟩ := ha.ascends i k hi hk
    obtain ⟨hkj, hjl⟩ := ih hkl hj
    exact ⟨hik.trans hkj, hjl⟩

/-- The rows from a position on, for any number of steps. -/
theorem leads_manyFrom (hR : ∀ i j, R i j → i ≤ j ∧ j ≤ last) {rows : Spans} {index : Nat}
    (hlen : index + rows.length = last + 1) (h : ∀ i j, rows.Leads i j ↔ R (index + i) j)
    (i j : Nat) :
    (manyFrom index rows).Leads i j ↔ i < rows.length ∧ ∃ n, Steps R n (index + i) j := by
  induction rows generalizing index i with
  | nil => simp [manyFrom, Leads]
  | cons ends rows ih =>
    rw [List.length_cons] at hlen
    have hlater : ∀ i, (manyFrom (index + 1) rows).Leads i j ↔
        i < rows.length ∧ ∃ n, Steps R n (index + 1 + i) j := by
      refine ih (by omega) fun i j => ?_
      rw [show index + 1 + i = index + (i + 1) by omega, ← h]
      rfl
    cases i with
    | succ i =>
      rw [show index + (i + 1) = index + 1 + i by omega, List.length_cons,
        Nat.add_lt_add_iff_right]
      exact hlater i
    | zero =>
      have hends : ∀ k, ends.testBit k ↔ R index k := fun k => h 0 k
      rw [Nat.add_zero, exists_steps_iff fun i j hij => (hR i j hij).1, manyFrom, Leads]
      simp only [List.getElem?_cons_zero, Option.getD_some, Nat.testBit_or, Bool.or_eq_true,
        testBit_image, Nat.testBit_shiftRight, hlater, hends, Nat.one_shiftLeft,
        Nat.testBit_two_pow, decide_eq_true_eq, List.length_cons, Nat.zero_lt_succ, true_and]
      refine or_congr eq_comm ⟨?_, ?_⟩
      · rintro ⟨i, hi, -, hj⟩
        exact ⟨index + 1 + i, by omega, hi, hj⟩
      · rintro ⟨k, hlt, hk, hj⟩
        obtain ⟨i, rfl⟩ := Nat.exists_eq_add_of_lt hlt
        rw [show index + i + 1 = index + 1 + i by omega] at hk hj
        have := (hR _ _ hk).2
        exact ⟨i, hk, by omega, hj⟩

theorem length_manyFrom (rows : Spans) (index : Nat) :
    (manyFrom index rows).length = rows.length := by
  induction rows generalizing index with
  | nil => rfl
  | cons ends rows ih => rw [manyFrom, List.length_cons, List.length_cons, ih]

theorem Computes.many (ha : Computes last a R) :
    Computes last a.many (fun i j => ∃ n, Steps R n i j) where
  length_eq := by rw [Spans.many, length_manyFrom, ha.length_eq]
  leads_iff := by
    intro i j
    rw [Spans.many, leads_manyFrom (R := a.Leads) (fun i j => ha.le_of_leads)
      (by rw [ha.length_eq, Nat.zero_add]) (fun i j => by rw [Nat.zero_add]), Nat.zero_add,
      ha.length_eq, Nat.lt_succ_iff]
    exact and_congr_right fun hi => exists_congr fun n => ha.steps_leads hi
  ascends := by
    rintro i j hi ⟨n, hn⟩
    exact ha.ascends_steps hi hn

theorem Computes.power {one : Spans} (hone : Computes last one (fun i j => j = i))
    (ha : Computes last a R) {limit n : Nat} (h : n < 2 ^ limit) :
    Computes last (power one a limit n) (Steps R n) := by
  have hzero : Computes last one (Steps R 0) := hone.congr fun i j => eq_comm
  induction limit generalizing n with
  | zero =>
    obtain rfl : n = 0 := by omega
    exact hzero
  | succ limit ih =>
    have hhalf := ih (n := n / 2) (by omega)
    have htwice : Computes last _ (Steps R (n / 2 + n / 2)) :=
      (hhalf.andThen hhalf).congr fun i j => steps_add.symm
    generalize hm : n / 2 + n / 2 = m at htwice
    rw [Spans.power]
    split
    next hn => exact hn ▸ hzero
    · split
      next hodd =>
        obtain rfl : n = m + 1 := by omega
        refine (htwice.andThen ha).congr fun i j => ?_
        rw [steps_add]
        exact exists_congr fun k => and_congr_right fun _ => steps_one.symm
      next heven =>
        obtain rfl : m = n := by omega
        exact htwice

theorem Computes.times {one : Spans} (hone : Computes last one (fun i j => j = i))
    (ha : Computes last a R) (b : Bounds) :
    Computes last (times one a b) (fun i j => ∃ n, b.Admits n ∧ Steps R n i j) := by
  have hleast : Computes last _ (Steps R b.min) := hone.power ha Nat.lt_log2_self
  rw [Spans.times]
  cases hmax : b.max with
  | none =>
    refine (hleast.andThen ha.many).congr fun i j => ?_
    simp only [Comp, Bounds.Admits, hmax]
    constructor
    · rintro ⟨k, hk, n, hn⟩
      exact ⟨b.min + n, ⟨Nat.le_add_right _ _, by simp⟩, steps_add.mpr ⟨k, hk, hn⟩⟩
    · rintro ⟨n, ⟨hle, -⟩, hn⟩
      obtain ⟨m, rfl⟩ := Nat.exists_eq_add_of_le hle
      obtain ⟨k, hk, hm⟩ := steps_add.mp hn
      exact ⟨k, hk, m, hm⟩
  | some most =>
    have hextra : Computes last _ (Steps (fun i j => j = i ∨ R i j) (most - b.min)) :=
      hone.power (hone.orElse ha) Nat.lt_log2_self
    refine (hleast.andThen hextra).congr fun i j => ?_
    simp only [Comp, steps_eq_or, Bounds.Admits, hmax, Option.mem_some_iff, forall_eq']
    constructor
    · rintro ⟨k, hk, n, hle, hn⟩
      exact ⟨b.min + n, ⟨Nat.le_add_right _ _, by omega⟩, steps_add.mpr ⟨k, hk, hn⟩⟩
    · rintro ⟨n, ⟨hle, hmost⟩, hn⟩
      obtain ⟨m, rfl⟩ := Nat.exists_eq_add_of_le hle
      obtain ⟨k, hk, hm⟩ := steps_add.mp hn
      exact ⟨k, hk, m, by omega, hm⟩

end

/-! ### Searching round by round -/

section
variable {a : Spans} {j : Nat}

/-- Where nothing changes any more, all further steps lead to the same positions. -/
theorem exists_steps_of_image_eq {starts : Positions} (h : a.image starts = starts) (n : Nat) :
    (∃ i, starts.testBit i ∧ Steps a.Leads n i j) ↔ starts.testBit j := by
  induction n with
  | zero => simp [Steps]
  | succ n ih =>
    rw [← ih]
    simp only [Steps, Comp]
    constructor
    · rintro ⟨i, hi, k, hk, hj⟩
      exact ⟨k, by rw [← h, testBit_image]; exact ⟨i, hi, hk⟩, hj⟩
    · rintro ⟨k, hk, hj⟩
      rw [← h, testBit_image] at hk
      obtain ⟨i, hi, hik⟩ := hk
      exact ⟨i, hi, k, hik, hj⟩

theorem testBit_step (a : Spans) (n : Nat) (starts : Positions) (j : Nat) :
    (a.step n starts).testBit j ↔ ∃ i, starts.testBit i ∧ Steps a.Leads n i j := by
  induction n generalizing starts with
  | zero => simp [step, Steps]
  | succ n ih =>
    rw [step]
    split
    next heq => rw [exists_steps_of_image_eq heq]
    · rw [ih]
      simp only [testBit_image, Steps, Comp]
      constructor
      · rintro ⟨k, ⟨i, hi, hk⟩, hj⟩
        exact ⟨i, hi, k, hk, hj⟩
      · rintro ⟨i, hi, k, hk, hj⟩
        exact ⟨k, ⟨i, hi, hk⟩, hj⟩

/-- What was reached before the last round leads to nothing that was not reached. -/
theorem testBit_spread (n : Nat) {seen latest : Positions}
    (hlatest : ∀ i, latest.testBit i → seen.testBit i)
    (hearlier : ∀ i k, seen.testBit i → a.Leads i k → latest.testBit i ∨ seen.testBit k)
    (j : Nat) :
    (a.spread n seen latest).testBit j ↔
      ∃ i, seen.testBit i ∧ ∃ m ≤ n, Steps a.Leads m i j := by
  induction n generalizing seen latest with
  | zero => simp [spread, Steps]
  | succ n ih =>
    have hnew : ∀ k, ((a.image latest ||| seen) ^^^ seen).testBit k ↔
        (a.image latest).testBit k ∧ ¬seen.testBit k := by
      intro k
      rw [Nat.testBit_xor, Nat.testBit_or]
      cases (a.image latest).testBit k <;> cases seen.testBit k <;> decide
    -- What is led to in one step is either known or new.
    have hstep : ∀ i k, seen.testBit i → a.Leads i k → seen.testBit k ∨
        ((a.image latest ||| seen) ^^^ seen).testBit k := by
      intro i k hi hk
      by_cases hseen : seen.testBit k
      · exact .inl hseen
      · refine .inr ((hnew k).mpr ⟨(testBit_image a latest k).mpr ⟨i, ?_, hk⟩, hseen⟩)
        exact (hearlier i k hi hk).resolve_right hseen
    rw [spread]
    generalize (a.image latest ||| seen) ^^^ seen = new at hnew hstep ⊢
    have hor : ∀ k, (seen ||| new).testBit k ↔ seen.testBit k ∨ new.testBit k := by
      intro k
      rw [Nat.testBit_or, Bool.or_eq_true]
    split
    next hzero =>
      -- Nothing new: no number of steps leads any further.
      have hclosed : ∀ i k, seen.testBit i → a.Leads i k → seen.testBit k := by
        intro i k hi hk
        simpa [hzero] using hstep i k hi hk
      exact ⟨fun hj => ⟨j, hj, 0, Nat.zero_le _, rfl⟩,
        fun ⟨i, hi, _, _, hj⟩ => hj.invariant hclosed hi⟩
    · rw [ih (fun i hi => (hor i).mpr (.inr hi)) ?_]
      · constructor
        · rintro ⟨k, hk, m, hm, hj⟩
          rcases (hor k).mp hk with hk | hk
          · exact ⟨k, hk, m, by omega, hj⟩
          · obtain ⟨i, hi, hik⟩ := (testBit_image a latest k).mp ((hnew k).mp hk).1
            exact ⟨i, hlatest i hi, m + 1, by omega, k, hik, hj⟩
        · rintro ⟨i, hi, m, hm, hj⟩
          match m, hj with
          | 0, hj => exact ⟨i, (hor i).mpr (.inl hi), 0, Nat.zero_le _, hj⟩
          | m + 1, ⟨k, hk, hj⟩ =>
            exact ⟨k, (hor k).mpr (hstep i k hi hk), m, by omega, hj⟩
      · intro i k hi hk
        rcases (hor i).mp hi with hi | hi
        · exact .inr ((hor k).mpr (hstep i k hi hk))
        · exact .inl hi

end

/-- The search finds what as many steps as the bounds admit lead to. -/
theorem Computes.testBit_timesFrom {last : Nat} {a : Spans} {R : Nat → Nat → Prop}
    (ha : Computes last a R) (b : Bounds) {starts : Positions}
    (hstarts : ∀ i, starts.testBit i → i ≤ last) (j : Nat) :
    (a.timesFrom b starts).testBit j ↔
      ∃ i, starts.testBit i ∧ ∃ n, b.Admits n ∧ Steps R n i j := by
  have hspread : ∀ extra, (a.spread extra (a.step b.min starts) (a.step b.min starts)).testBit j ↔
      ∃ i, starts.testBit i ∧ ∃ m ≤ extra, Steps a.Leads (b.min + m) i j := by
    intro extra
    rw [testBit_spread _ (fun _ h => h) (fun _ _ h _ => .inl h)]
    simp only [testBit_step, steps_add]
    constructor
    · rintro ⟨k, ⟨i, hi, hk⟩, m, hm, hj⟩
      exact ⟨i, hi, m, hm, k, hk, hj⟩
    · rintro ⟨i, hi, m, hm, k, hk, hj⟩
      exact ⟨k, ⟨i, hi, hk⟩, m, hm, hj⟩
  rw [timesFrom, hspread]
  refine exists_congr fun i => and_congr_right fun hi => ?_
  simp only [ha.steps_leads (hstarts i hi), Bounds.Admits]
  cases b.max with
  | some most =>
    constructor
    · rintro ⟨m, hm, hj⟩
      replace hm : m ≤ most - b.min := hm
      refine ⟨b.min + m, ⟨Nat.le_add_right _ _, ?_⟩, hj⟩
      rintro _ ⟨⟩
      omega
    · rintro ⟨n, ⟨hle, hmost⟩, hj⟩
      obtain ⟨m, rfl⟩ := Nat.exists_eq_add_of_le hle
      have hm : m ≤ most - b.min := by
        have := hmost most rfl
        omega
      exact ⟨m, hm, hj⟩
  | none =>
    constructor
    · rintro ⟨m, -, hj⟩
      exact ⟨b.min + m, ⟨Nat.le_add_right _ _, fun _ h => nomatch h⟩, hj⟩
    · -- There are fewer positions than rounds.
      rintro ⟨n, ⟨hle, -⟩, hj⟩
      obtain ⟨m, rfl⟩ := Nat.exists_eq_add_of_le hle
      obtain ⟨k, hk, hm⟩ := steps_add.mp hj
      obtain ⟨-, hkl⟩ := ha.ascends_steps (hstarts i hi) hk
      obtain ⟨-, hjl⟩ := ha.ascends_steps hkl hm
      obtain ⟨-, m', hle', hm'⟩ :=
        exists_steps_short (fun i j h => (ha.le_of_leads h).1) ((ha.steps_leads hkl).mpr hm)
      have hlength : m' ≤ a.length := by
        rw [ha.length_eq]
        omega
      exact ⟨m', hlength, steps_add.mpr ⟨k, hk, (ha.steps_leads hkl).mp hm'⟩⟩

end Spans

end Ambient.Pattern

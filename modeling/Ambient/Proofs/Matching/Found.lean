/-
What an expression matches, and that the search finds it.

* `Regex.Matches` — an expression matches the characters between two positions of a text;
* `Regex.spans_computes` — the spans of an expression hold its matches;
* `Regex.testBit_ends` — the ends that are found without them are those of its matches;
* `Regex.occursIn_iff` — the search finds a match if there is one.
-/
import Ambient.Proofs.Matching.Rows

namespace Ambient.Pattern

open Relation (Comp)

/-! ### What an expression matches -/

/-- The character before a position. -/
def charBefore (cs : List Char) : Nat → Option Char
  | 0 => none
  | i + 1 => cs[i]?

namespace Regex

mutual

/-- An expression matches the characters of a text between two positions. -/
def Matches (cs : List Char) : Regex → Nat → Nat → Prop
  | .empty, i, j => j = i
  | .literal ds, i, j => ds <+: cs.drop i ∧ j = i + ds.length
  | .chars set _, i, j => (∃ c ∈ cs[i]?, set.mem c.toNat) ∧ j = i + 1
  | .look l, i, j => l.holds (charBefore cs i) cs[i]? ∧ j = i
  | .repeat r b, i, j => ∃ n, b.Admits n ∧ Steps (Matches cs r) n i j
  | .capture r, i, j => Matches cs r i j
  | .concat rs, i, j => MatchesAll cs rs i j
  | .alt rs, i, j => MatchesOne cs rs i j

/-- Several expressions match one after the other. -/
def MatchesAll (cs : List Char) : List Regex → Nat → Nat → Prop
  | [], i, j => j = i
  | r :: rs, i, j => Comp (Matches cs r) (MatchesAll cs rs) i j

/-- One of several expressions matches. -/
def MatchesOne (cs : List Char) : List Regex → Nat → Nat → Prop
  | [], _, _ => False
  | r :: rs, i, j => Matches cs r i j ∨ MatchesOne cs rs i j

end

/-- An expression matches a whole text. -/
def MatchesWhole (r : Regex) (text : String) : Prop :=
  r.Matches text.toList 0 text.toList.length

end Regex

/-! ### Places -/

/-- The place at a position. -/
def Place.at (cs : List Char) (i : Nat) : Place :=
  ⟨i, charBefore cs i, cs.drop i⟩

theorem Place.getElem?_allFrom (cs : List Char) (index : Nat) (before : Option Char) (i : Nat) :
    (allFrom index before cs)[i]? =
      if i ≤ cs.length then
        some ⟨index + i, if i = 0 then before else charBefore cs i, cs.drop i⟩
      else none := by
  induction cs generalizing index before i with
  | nil => cases i <;> simp [allFrom]
  | cons c cs ih =>
    cases i with
    | zero => simp [allFrom]
    | succ i =>
      rw [allFrom, List.getElem?_cons_succ, ih]
      have hbefore : (if i = 0 then some c else charBefore cs i) =
          charBefore (c :: cs) (i + 1) := by
        cases i <;> rfl
      simp [hbefore, Nat.add_assoc, Nat.add_comm 1]

variable {text : String}

theorem Place.getElem?_all (i : Nat) :
    (all text)[i]? =
      if i ≤ text.toList.length then some (Place.at text.toList i) else none := by
  rw [all, getElem?_allFrom, Nat.zero_add]
  cases i <;> rfl

theorem Place.length_all : (all text).length = text.toList.length + 1 := by
  refine Nat.le_antisymm ?_ ?_
  · rw [← List.getElem?_eq_none_iff, getElem?_all, if_neg (by omega)]
  · by_contra h
    have hlast : (all text)[text.toList.length]? = none := List.getElem?_eq_none (by omega)
    rw [getElem?_all, if_pos le_rfl] at hlast
    cases hlast

theorem Positions.testBit_ofPlaces (test : Place → Bool) (places : List Place) (i : Nat) :
    (ofPlaces test places).testBit i ↔ ∃ p ∈ places[i]?, test p := by
  induction places generalizing i with
  | nil => simp [ofPlaces]
  | cons p places ih =>
    have hcons : ofPlaces test (p :: places) = 2 * ofPlaces test places + (test p).toNat := by
      cases h : test p <;> simp [ofPlaces, h]
    cases i with
    | zero => cases h : test p <;> simp [hcons, h, Nat.testBit_zero]
    | succ i =>
      have hdiv : ofPlaces test (p :: places) / 2 = ofPlaces test places := by
        rw [hcons, Nat.mul_add_div (by decide), Nat.div_eq_of_lt (Bool.toNat_lt _), Nat.add_zero]
      rw [Nat.testBit_succ, hdiv, ih, List.getElem?_cons_succ]

theorem Positions.testBit_ofPlaces_all (test : Place → Bool) (i : Nat) :
    (ofPlaces test (Place.all text)).testBit i ↔
      i ≤ text.toList.length ∧ test (Place.at text.toList i) := by
  rw [testBit_ofPlaces, Place.getElem?_all]
  split <;> simp [*]

theorem Spans.Computes.ofPlaces {test : Place → Bool} {length : Nat}
    (h : ∀ i ≤ text.toList.length, test (Place.at text.toList i) →
      i + length ≤ text.toList.length) :
    Computes text.toList.length (ofPlaces test length (Place.all text))
      (fun i j => test (Place.at text.toList i) ∧ j = i + length) where
  length_eq := by rw [Spans.ofPlaces, List.length_map, Place.length_all]
  leads_iff := by
    intro i j
    rw [Leads, Spans.ofPlaces, List.getElem?_map, Place.getElem?_all]
    by_cases hi : i ≤ text.toList.length
    · cases ht : test (Place.at text.toList i)
      · simp [hi, ht]
      · simp only [hi, ht, if_true, Option.map_some, Option.getD_some, Nat.one_shiftLeft,
          Nat.testBit_two_pow, decide_eq_true_eq, true_and]
        exact eq_comm
    · simp [hi]
  ascends := by
    rintro i j hi ⟨ht, rfl⟩
    exact ⟨Nat.le_add_right _ _, h i hi ht⟩

/-! ### Expressions -/

namespace Regex

theorem isBeforeAll_at {cs ds : List Char} {i : Nat} :
    (Place.at cs i).isBeforeAll ds ↔ ds <+: cs.drop i := by
  rw [Place.isBeforeAll, List.isPrefixOf_iff_prefix]
  rfl

theorem isBefore_at {cs : List Char} {set : CharSet} {i : Nat} :
    (Place.at cs i).isBefore set ↔ ∃ c ∈ cs[i]?, set.mem c.toNat := by
  rw [Place.isBefore, Option.any_eq_true]
  simp [Place.at]

theorem satisfies_at {cs : List Char} {l : Look} {i : Nat} :
    (Place.at cs i).satisfies l ↔ l.holds (charBefore cs i) cs[i]? := by
  rw [Place.satisfies]
  simp [Place.at]

/-- What is read of a text stays within it. -/
theorem add_length_le {cs ds : List Char} {i : Nat} (hi : i ≤ cs.length) (h : ds <+: cs.drop i) :
    i + ds.length ≤ cs.length := by
  have := h.length_le
  rw [List.length_drop] at this
  omega

theorem succ_le_of_mem {cs : List Char} {i : Nat} {c : Char} (h : c ∈ cs[i]?) :
    i + 1 ≤ cs.length :=
  (List.getElem?_eq_some_iff.mp h).1

theorem computes_empty :
    Spans.Computes text.toList.length (.ofPlaces (fun _ => true) 0 (Place.all text))
      (fun i j => j = i) :=
  (Spans.Computes.ofPlaces fun _ hi _ => hi).congr fun i j => by simp

mutual

/-- **The spans of an expression hold what it matches.** -/
theorem spans_computes :
    ∀ r : Regex, Spans.Computes text.toList.length (r.spans (Place.all text))
      (r.Matches text.toList)
  | .empty => by
    refine computes_empty.congr fun i j => ?_
    rw [Matches]
  | .literal ds => by
    refine (Spans.Computes.ofPlaces fun i hi h => add_length_le hi (isBeforeAll_at.mp h)).congr
      fun i j => ?_
    rw [Matches, isBeforeAll_at]
  | .chars set _ => by
    refine (Spans.Computes.ofPlaces fun i _ h => ?_).congr fun i j => ?_
    · obtain ⟨c, hc, -⟩ := isBefore_at.mp h
      exact succ_le_of_mem hc
    · rw [Matches, isBefore_at]
  | .look l => by
    refine (Spans.Computes.ofPlaces fun _ hi _ => hi).congr fun i j => ?_
    rw [Matches, satisfies_at, Nat.add_zero]
  | .repeat r b => by
    refine (computes_empty.times (spans_computes r) b).congr fun i j => ?_
    rw [Matches]
  | .capture r => by
    refine (spans_computes r).congr fun i j => ?_
    rw [Matches]
  | .concat rs => by
    refine (concatSpans_computes rs).congr fun i j => ?_
    rw [Matches]
  | .alt rs => by
    refine (altSpans_computes rs).congr fun i j => ?_
    rw [Matches]

theorem concatSpans_computes :
    ∀ rs : List Regex, Spans.Computes text.toList.length (concatSpans (Place.all text) rs)
      (MatchesAll text.toList rs)
  | [] => by
    refine computes_empty.congr fun i j => ?_
    rw [MatchesAll]
  | r :: rs => by
    refine ((spans_computes r).andThen (concatSpans_computes rs)).congr fun i j => ?_
    rw [MatchesAll]

theorem altSpans_computes :
    ∀ rs : List Regex, Spans.Computes text.toList.length (altSpans (Place.all text) rs)
      (MatchesOne text.toList rs)
  | [] => by
    refine (Spans.Computes.ofPlaces fun _ hi _ => hi).congr fun i j => ?_
    simp [MatchesOne]
  | r :: rs => by
    refine ((spans_computes r).orElse (altSpans_computes rs)).congr fun i j => ?_
    rw [MatchesOne]

end

/-- A match ends in the text. -/
theorem Matches.le_length {r : Regex} {i j : Nat} (h : r.Matches text.toList i j)
    (hi : i ≤ text.toList.length) : j ≤ text.toList.length :=
  ((spans_computes r).ascends i j hi h).2

/-- Positions before some that pass a test, and so many characters on. -/
theorem testBit_shifted {starts : Positions}
    (hstarts : ∀ i, starts.testBit i → i ≤ text.toList.length) (test : Place → Bool)
    (length j : Nat) :
    ((starts &&& .ofPlaces test (Place.all text)) <<< length).testBit j ↔
      ∃ i, starts.testBit i ∧ test (Place.at text.toList i) ∧ j = i + length := by
  simp only [Nat.testBit_shiftLeft, Nat.testBit_and, Bool.and_eq_true, decide_eq_true_eq,
    Positions.testBit_ofPlaces_all]
  constructor
  · rintro ⟨hle, hi, -, ht⟩
    exact ⟨j - length, hi, ht, (Nat.sub_add_cancel hle).symm⟩
  · rintro ⟨i, hi, ht, rfl⟩
    rw [Nat.add_sub_cancel]
    exact ⟨Nat.le_add_left _ _, hi, hstarts i hi, ht⟩

mutual

/-- **The ends that are found are those of the matches.** -/
theorem testBit_ends : ∀ (r : Regex) {starts : Positions},
    (∀ i, starts.testBit i → i ≤ text.toList.length) → ∀ j,
    ((r.ends (Place.all text) starts).testBit j ↔
      ∃ i, starts.testBit i ∧ r.Matches text.toList i j)
  | .empty, starts, _, j => by
    simp [ends, Matches]
  | .literal ds, starts, hstarts, j => by
    simp only [ends, Matches, testBit_shifted hstarts, isBeforeAll_at]
  | .chars set _, starts, hstarts, j => by
    simp only [ends, Matches, testBit_shifted hstarts, isBefore_at]
  | .look l, starts, hstarts, j => by
    have := testBit_shifted hstarts (·.satisfies l) 0 j
    rw [Nat.shiftLeft_zero] at this
    simp only [ends, Matches, this, satisfies_at, Nat.add_zero]
  | .repeat r b, starts, hstarts, j => by
    simp only [ends, Matches, (spans_computes r).testBit_timesFrom b hstarts]
  | .capture r, starts, hstarts, j => by
    simp only [ends, Matches, testBit_ends r hstarts]
  | .concat rs, starts, hstarts, j => by
    simp only [ends, Matches, testBit_concatEnds rs hstarts]
  | .alt rs, starts, hstarts, j => by
    simp only [ends, Matches, testBit_altEnds rs hstarts]

theorem testBit_concatEnds : ∀ (rs : List Regex) {starts : Positions},
    (∀ i, starts.testBit i → i ≤ text.toList.length) → ∀ j,
    ((concatEnds (Place.all text) rs starts).testBit j ↔
      ∃ i, starts.testBit i ∧ MatchesAll text.toList rs i j)
  | [], starts, _, j => by
    simp [concatEnds, MatchesAll]
  | r :: rs, starts, hstarts, j => by
    rw [concatEnds]
    split
    next hzero => simp [hzero]
    · have hends : ∀ k, (r.ends (Place.all text) starts).testBit k → k ≤ text.toList.length := by
        intro k hk
        obtain ⟨i, hi, h⟩ := (testBit_ends r hstarts k).mp hk
        exact h.le_length (hstarts i hi)
      simp only [testBit_concatEnds rs hends, testBit_ends r hstarts, MatchesAll, Comp]
      constructor
      · rintro ⟨k, ⟨i, hi, hk⟩, hj⟩
        exact ⟨i, hi, k, hk, hj⟩
      · rintro ⟨i, hi, k, hk, hj⟩
        exact ⟨k, ⟨i, hi, hk⟩, hj⟩

theorem testBit_altEnds : ∀ (rs : List Regex) {starts : Positions},
    (∀ i, starts.testBit i → i ≤ text.toList.length) → ∀ j,
    ((altEnds (Place.all text) rs starts).testBit j ↔
      ∃ i, starts.testBit i ∧ MatchesOne text.toList rs i j)
  | [], starts, _, j => by
    simp [altEnds, MatchesOne]
  | r :: rs, starts, hstarts, j => by
    simp only [altEnds, Nat.testBit_or, Bool.or_eq_true, testBit_ends r hstarts,
      testBit_altEnds rs hstarts, MatchesOne, and_or_left, exists_or]

end

/-- **The search finds a match if there is one.** -/
theorem occursIn_iff (r : Regex) (text : String) :
    r.occursIn text ↔ ∃ i ≤ text.toList.length, ∃ j, r.Matches text.toList i j := by
  have hall : ∀ i, (Positions.ofPlaces (fun _ => true) (Place.all text)).testBit i ↔
      i ≤ text.toList.length := by
    intro i
    rw [Positions.testBit_ofPlaces_all, and_iff_left rfl]
  have hends := testBit_ends r fun i hi => (hall i).mp hi
  rw [occursIn, bne_iff_ne]
  constructor
  · intro hne
    obtain ⟨j, hj⟩ := Nat.exists_testBit_of_ne_zero hne
    obtain ⟨i, hi, h⟩ := (hends j).mp hj
    exact ⟨i, (hall i).mp hi, j, h⟩
  · rintro ⟨i, hi, j, h⟩ hzero
    have hj := (hends j).mpr ⟨i, (hall i).mpr hi, h⟩
    rw [hzero, Nat.zero_testBit] at hj
    cases hj

end Regex

end Ambient.Pattern

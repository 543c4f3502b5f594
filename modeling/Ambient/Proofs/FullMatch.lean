/-
Whitelists and matches of whole texts.

A pattern is read between `^(?:` and `)$`.  If it can be read alone as well, the expression between
the anchors is the same, and they make of its matches those of the whole text.

* `Regex.matches_concatOf` — joining parts does not change what is matched one after the other;
* `Regex.occursIn_anchored` — between the anchors an expression occurs where it matches the whole;
* `Regex.read_anchored` — what is read between the anchors;
* `Whitelist.Faithful`, `Whitelist.faithful_iff` — when a whitelist means a full match of each of
  its patterns.
-/
import Ambient.Proofs.Enclosing.Groups
import Ambient.Proofs.Matching.Found

namespace Ambient

namespace Pattern

open Relation (Comp)

namespace Regex

/-! ### Parts one after the other -/

section
variable {cs : List Char} {i j : Nat}

theorem matchesAll_append {rs ss : List Regex} :
    MatchesAll cs (rs ++ ss) i j ↔ Comp (MatchesAll cs rs) (MatchesAll cs ss) i j := by
  induction rs generalizing i with
  | nil => simp [MatchesAll, Comp]
  | cons r rs ih =>
    rw [List.cons_append, MatchesAll]
    simp only [Comp, ih, MatchesAll]
    constructor
    · rintro ⟨k, hk, l, hl, hj⟩
      exact ⟨l, ⟨k, hk, hl⟩, hj⟩
    · rintro ⟨l, ⟨k, hk, hl⟩, hj⟩
      exact ⟨k, hk, l, hl, hj⟩

theorem matchesAll_singleton {r : Regex} : MatchesAll cs [r] i j ↔ r.Matches cs i j := by
  simp [MatchesAll, Comp]

theorem matchesAll_parts {r : Regex} : MatchesAll cs r.parts i j ↔ r.Matches cs i j := by
  unfold parts
  split
  · rw [MatchesAll, Matches]
  · rw [Matches]
  · exact matchesAll_singleton

theorem matchesAll_flatMap_parts {rs : List Regex} :
    MatchesAll cs (rs.flatMap parts) i j ↔ MatchesAll cs rs i j := by
  induction rs generalizing i with
  | nil => rfl
  | cons r rs ih =>
    rw [List.flatMap_cons, matchesAll_append, MatchesAll]
    simp only [Comp, matchesAll_parts, ih]

/-- Two literals one after the other are one. -/
theorem matchesAll_literals {ds es : List Char} {rs : List Regex} :
    MatchesAll cs (.literal ds :: .literal es :: rs) i j ↔
      MatchesAll cs (.literal (ds ++ es) :: rs) i j := by
  simp only [MatchesAll, Comp, Matches, List.length_append]
  constructor
  · rintro ⟨_, ⟨hds, rfl⟩, _, ⟨hes, rfl⟩, hj⟩
    refine ⟨_, ⟨?_, Nat.add_assoc _ _ _⟩, hj⟩
    obtain ⟨tail, htail⟩ := hds
    rw [← List.drop_drop, ← htail, List.drop_left] at hes
    rwa [← htail, List.prefix_append_right_inj]
  · rintro ⟨_, ⟨⟨tail, htail⟩, rfl⟩, hj⟩
    rw [List.append_assoc] at htail
    refine ⟨_, ⟨⟨_, htail⟩, rfl⟩, _, ⟨?_, rfl⟩, by rwa [Nat.add_assoc]⟩
    rw [← List.drop_drop, ← htail, List.drop_left]
    exact List.prefix_append es tail

theorem matchesAll_cons_congr {r : Regex} {rs ss : List Regex}
    (h : ∀ {k}, MatchesAll cs rs k j ↔ MatchesAll cs ss k j) :
    MatchesAll cs (r :: rs) i j ↔ MatchesAll cs (r :: ss) i j := by
  rw [MatchesAll, MatchesAll]
  exact exists_congr fun k => and_congr_right fun _ => h

theorem matchesAll_joinLiterals {rs : List Regex} :
    MatchesAll cs (joinLiterals rs) i j ↔ MatchesAll cs rs i j := by
  fun_induction joinLiterals rs generalizing i with
  | case1 => rfl
  | case2 ds rs es ss heq ih =>
    rw [← matchesAll_literals, ← heq]
    exact matchesAll_cons_congr ih
  | case3 ds rs _ ih => exact matchesAll_cons_congr ih
  | case4 r rs _ ih => exact matchesAll_cons_congr ih

/-- **Joining parts** does not change what they match. -/
theorem matches_concatOf {rs : List Regex} :
    (concatOf rs).Matches cs i j ↔ MatchesAll cs rs i j := by
  rw [← matchesAll_flatMap_parts, ← matchesAll_joinLiterals, concatOf]
  split
  next h => rw [h, Matches, MatchesAll]
  next h => rw [h, matchesAll_singleton]
  · rw [Matches]

end

/-! ### Anchors -/

/-- **Between the anchors** an expression occurs in a text if it matches all of it. -/
theorem occursIn_anchored (r : Regex) (text : String) :
    (concatOf [.look .textStart, r, .look .textEnd]).occursIn text ↔ r.MatchesWhole text := by
  have hstart : ∀ i ≤ text.toList.length, (charBefore text.toList i).isNone ↔ i = 0 := by
    intro i hi
    cases i with
    | zero => simp [charBefore]
    | succ i => simpa [charBefore] using Nat.lt_of_succ_le hi
  have hend : ∀ j ≤ text.toList.length, text.toList[j]?.isNone ↔ j = text.toList.length := by
    intro j hj
    rw [Option.isNone_iff_eq_none, List.getElem?_eq_none_iff]
    omega
  rw [occursIn_iff]
  simp only [matches_concatOf, MatchesAll, Comp, Matches, Look.holds, MatchesWhole]
  constructor
  · rintro ⟨i, hi, _, _, ⟨hbefore, rfl⟩, k, hk, _, ⟨hafter, rfl⟩, rfl⟩
    obtain rfl := (hstart _ hi).mp hbefore
    obtain rfl := (hend _ (hk.le_length (Nat.zero_le _))).mp hafter
    exact hk
  · intro h
    exact ⟨0, Nat.zero_le _, _, 0, ⟨rfl, rfl⟩, _, h, _, ⟨(hend _ le_rfl).mpr rfl, rfl⟩, rfl⟩

/-! ### Reading -/

theorem read_eq_ok {text : String} {r : Regex} :
    Regex.read text = .ok r ↔ ∃ e, Expr.read text = some e ∧ e.regex = some r ∧ r.fits := by
  rw [Regex.read]
  cases he : Expr.read text with
  | none => simp
  | some e =>
    rw [Option.bind_some]
    cases hr : e.regex with
    | none => simp [hr]
    | some s =>
      cases hfits : s.fits
      · simp only [hr, hfits, Option.some.injEq, exists_eq_left']
        exact iff_of_false (by simp) fun h => by simp [← h.1, hfits] at h
      · simp only [hr, hfits, if_true, Except.ok.injEq, Option.some.injEq, exists_eq_left']
        exact ⟨fun h => ⟨h, h ▸ hfits⟩, And.left⟩

/-- **What is read between the anchors** is what is read alone, with the anchors around it. -/
theorem read_anchored {source : String} {r r' : Regex} (h : Regex.read source = .ok r)
    (h' : Regex.read (anchored source) = .ok r') :
    r' = concatOf [.look .textStart, r, .look .textEnd] := by
  obtain ⟨e, he, hr, -⟩ := read_eq_ok.mp h
  obtain ⟨e', he', hr', -⟩ := read_eq_ok.mp h'
  obtain rfl := Expr.read_anchored he he'
  obtain ⟨⟨s, f⟩, hs, hsr⟩ := Option.bind_eq_some_iff.mp hr
  obtain rfl : s = r := Option.some.inj hsr
  have hgroup : Flags.change {} [] = {} := rfl
  simpa [Expr.regex, Expr.regexWith, regexesWith, hgroup, hs, Assertion.look] using hr'.symm

end Regex

end Pattern

/-! ### Whitelists -/

namespace Whitelist

open Pattern

/-- The whitelist of some patterns means a full match of each of them on its own: it exists if all
patterns can be read alone, and allows what some pattern, read alone, matches as a whole. -/
structure Faithful (ps : List String) : Prop where
  accepts_iff : (∃ w, ofList ps = .ok w) ↔ ∀ p ∈ ps, ∃ r, Regex.read p = .ok r
  allows_iff : ∀ w, ofList ps = .ok w → ∀ typeName method : String, w.allows typeName method ↔
    ∃ p ∈ ps, ∃ r, Regex.read p = .ok r ∧ r.MatchesWhole (typeName ++ "." ++ method)

theorem read_eq_ok {p : String} {c : Compiled} :
    Pattern.read p = .ok c ↔ c.source = p ∧ Regex.read (anchored p) = .ok c.regex := by
  rw [Pattern.read]
  cases Regex.read (anchored p) with
  | error cause => simp
  | ok r =>
    constructor
    · rintro ⟨⟩
      exact ⟨rfl, rfl⟩
    · rintro ⟨rfl, ⟨⟩⟩
      rfl

theorem mapM_cons_eq_ok {p : String} {ps : List String} {cs : List Compiled} :
    (p :: ps).mapM Pattern.read = .ok cs ↔
      ∃ c, Pattern.read p = .ok c ∧ ∃ ds, ps.mapM Pattern.read = .ok ds ∧ c :: ds = cs := by
  rw [List.mapM_cons]
  cases Pattern.read p with
  | error e => simp [bind, Except.bind]
  | ok c => cases ps.mapM Pattern.read <;> simp [bind, Except.bind, pure, Except.pure]

theorem exists_mapM_iff {ps : List String} :
    (∃ cs, ps.mapM Pattern.read = .ok cs) ↔ ∀ p ∈ ps, ∃ c, Pattern.read p = .ok c := by
  induction ps with
  | nil => simp [pure, Except.pure]
  | cons p ps ih =>
    rw [List.forall_mem_cons, ← ih]
    simp only [mapM_cons_eq_ok]
    constructor
    · rintro ⟨_, c, hc, ds, hds, -⟩
      exact ⟨⟨c, hc⟩, ds, hds⟩
    · rintro ⟨⟨c, hc⟩, ds, hds⟩
      exact ⟨c :: ds, c, hc, ds, hds, rfl⟩

theorem mem_of_mapM {ps : List String} {cs : List Compiled} (h : ps.mapM Pattern.read = .ok cs)
    (c : Compiled) : c ∈ cs ↔ ∃ p ∈ ps, Pattern.read p = .ok c := by
  induction ps generalizing cs with
  | nil =>
    obtain rfl : [] = cs := Except.ok.inj h
    simp
  | cons p ps ih =>
    obtain ⟨d, hd, ds, hds, rfl⟩ := mapM_cons_eq_ok.mp h
    simp [ih hds, hd, eq_comm]

theorem ofList_eq_ok {ps : List String} {w : Whitelist} :
    ofList ps = .ok w ↔ ps.mapM Pattern.read = .ok w.patterns := by
  obtain ⟨cs⟩ := w
  rw [ofList]
  cases ps.mapM Pattern.read <;> simp [bind, Except.bind, pure, Except.pure]

/-- A whitelist exists if its patterns can be read between the anchors. -/
theorem exists_ofList_iff {ps : List String} :
    (∃ w, ofList ps = .ok w) ↔ ∀ p ∈ ps, ∃ r, Regex.read (anchored p) = .ok r := by
  have hmap : (∃ w, ofList ps = .ok w) ↔ ∃ cs, ps.mapM Pattern.read = .ok cs :=
    ⟨fun ⟨w, hw⟩ => ⟨w.patterns, ofList_eq_ok.mp hw⟩, fun ⟨cs, hcs⟩ => ⟨⟨cs⟩, ofList_eq_ok.mpr hcs⟩⟩
  rw [hmap, exists_mapM_iff]
  refine forall₂_congr fun p _ => ⟨?_, ?_⟩
  · rintro ⟨c, hc⟩
    exact ⟨c.regex, (read_eq_ok.mp hc).2⟩
  · rintro ⟨r, hr⟩
    exact ⟨⟨p, r⟩, read_eq_ok.mpr ⟨rfl, hr⟩⟩

/-- It allows that in which one of its patterns, with the anchors, occurs. -/
theorem allows_iff {ps : List String} {w : Whitelist} (hw : ofList ps = .ok w)
    (typeName method : String) :
    w.allows typeName method ↔
      ∃ p ∈ ps, ∃ r, Regex.read (anchored p) = .ok r ∧
        r.occursIn (typeName ++ "." ++ method) := by
  rw [allows, List.any_eq_true]
  simp only [mem_of_mapM (ofList_eq_ok.mp hw), read_eq_ok]
  constructor
  · rintro ⟨c, ⟨p, hp, -, hr⟩, hoccurs⟩
    exact ⟨p, hp, c.regex, hr, hoccurs⟩
  · rintro ⟨p, hp, r, hr, hoccurs⟩
    exact ⟨⟨p, r⟩, ⟨p, hp, rfl, hr⟩, hoccurs⟩

/-- **A whitelist means a full match of each pattern on its own** if its patterns can be read alone
exactly if they can be read between the anchors, and not otherwise. -/
theorem faithful_iff (ps : List String) :
    Faithful ps ↔ ((∀ p ∈ ps, ∃ r, Regex.read (anchored p) = .ok r) ↔
      ∀ p ∈ ps, ∃ r, Regex.read p = .ok r) := by
  constructor
  · intro h
    rw [← exists_ofList_iff]
    exact h.accepts_iff
  · intro h
    refine ⟨exists_ofList_iff.trans h, fun w hw typeName method => ?_⟩
    have hanchored := exists_ofList_iff.mp ⟨w, hw⟩
    rw [allows_iff hw]
    refine exists_congr fun p => and_congr_right fun hp => ?_
    obtain ⟨r', hr'⟩ := hanchored p hp
    obtain ⟨r, hr⟩ := h.mp hanchored p hp
    simp only [hr, hr', Except.ok.injEq, exists_eq_left']
    rw [Regex.read_anchored hr hr', Regex.occursIn_anchored]

/-- Alone the parenthesis is not opened, between the anchors it closes their group. -/
theorem not_faithful_unbalanced : ¬Faithful ["a)|(b"] := by
  intro h
  have hanchored : (Regex.read (anchored "a)|(b")).toOption.isSome := by decide +kernel
  have halone : (Regex.read "a)|(b").toOption = none := by decide +kernel
  have haccepts : ∃ w, ofList ["a)|(b"] = .ok w := by
    rw [exists_ofList_iff, List.forall_mem_singleton]
    cases hr : Regex.read (anchored "a)|(b") with
    | ok r => exact ⟨r, rfl⟩
    | error cause => simp [hr, Except.toOption] at hanchored
  obtain ⟨r, hr⟩ := h.accepts_iff.mp haccepts "a)|(b" (List.mem_singleton_self _)
  rw [hr] at halone
  cases halone

end Whitelist

end Ambient

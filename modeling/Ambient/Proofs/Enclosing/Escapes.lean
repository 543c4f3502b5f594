/-
Texts that are read before a closing parenthesis.

A pattern may stand in a group, where other text follows it.  What is read from it
there is what is read from it alone, with one exception: a comment at its end goes on
over what follows, and then nothing is left to read.

* `Carries` — a longer text is read like the shorter one, or to its end;
* `Carries.bind` — so it is with one thing read after the other;
* `skipSpace_append`, `readRun_append` — blanks and runs of characters of one kind;
* `readEscape_carries` — escapes.
-/
import Mathlib.Data.List.TakeWhile
import Ambient.Pattern.Whitelist

namespace Ambient.Pattern

open Text (isBlank)

/-! ### Text before a closing parenthesis -/

/-- What follows the text of a pattern between its anchors. -/
def closing : List Char := [')', '$']

section
variable {α β : Type}

/-- If anything is read, nothing is left. -/
def Spilled (x : Option (α × List Char)) : Prop :=
  ∀ a rest, x = some (a, rest) → rest = []

/-- What `x` reads from a text, `y` reads from the longer one, unless it reads it all. -/
def Carries (x y : Option (α × List Char)) : Prop :=
  ∀ a rest, x = some (a, rest) → y = some (a, rest ++ closing) ∨ Spilled y

variable {x y : Option (α × List Char)} {f f' : α × List Char → Option (β × List Char)}
  {cs ds : List Char}

theorem spilled_none : Spilled (none : Option (α × List Char)) :=
  fun _ _ h => nomatch h

theorem carries_none : Carries none y :=
  fun _ _ h => nomatch h

theorem carries_some {a : α} : Carries (some (a, cs)) (some (a, cs ++ closing)) := by
  rintro _ _ ⟨⟩
  exact .inl rfl

theorem carries_bind_some {γ : Type} {o : Option γ} {g : γ → α} :
    Carries (o.bind fun c => some (g c, cs)) (o.bind fun c => some (g c, cs ++ closing)) := by
  cases o with
  | none => exact carries_none
  | some c => exact carries_some

theorem Spilled.carries (h : Spilled y) : Carries x y :=
  fun _ _ _ => .inr h

theorem spilled_nil {a : α} : Spilled (some (a, [])) := by
  rintro _ _ ⟨⟩
  rfl

theorem spilled_bind_some {γ : Type} {o : Option γ} {g : γ → α} :
    Spilled (o.bind fun c => some (g c, [])) := by
  cases o with
  | none => exact spilled_none
  | some c => exact spilled_nil

theorem Spilled.bind (h : Spilled x) (hf : ∀ a, Spilled (f (a, []))) : Spilled (x.bind f) := by
  intro b rest hb
  obtain ⟨⟨a, mid⟩, hx, hfb⟩ := Option.bind_eq_some_iff.mp hb
  obtain rfl := h a mid hx
  exact hf a b rest hfb

theorem Carries.bind (h : Carries x y)
    (hf : ∀ a rest, Carries (f (a, rest)) (f' (a, rest ++ closing)))
    (hnil : ∀ a, Spilled (f' (a, []))) : Carries (x.bind f) (y.bind f') := by
  intro b rest hb
  obtain ⟨⟨a, mid⟩, hx, hfb⟩ := Option.bind_eq_some_iff.mp hb
  rcases h a mid hx with rfl | hspilled
  · exact hf a mid b rest hfb
  · exact .inr (hspilled.bind hnil)

theorem Carries.map (h : Carries x y) (g : α → β) :
    Carries (x.map fun p => (g p.1, p.2)) (y.map fun p => (g p.1, p.2)) := by
  rw [Option.map_eq_bind, Option.map_eq_bind]
  exact h.bind (fun _ _ => carries_some) fun _ => spilled_nil

end

/-! ### Blanks -/

theorem skipComment_subset (cs : List Char) : skipComment cs ⊆ cs := by
  induction cs with
  | nil => exact List.Subset.refl _
  | cons c cs ih =>
    rw [skipComment]
    split
    · exact List.subset_cons_self c cs
    · exact List.Subset.trans ih (List.subset_cons_self c cs)

/-- A comment ends where it ended before, or goes on to the end. -/
theorem skipComment_append (cs : List Char) :
    skipComment (cs ++ closing) = skipComment cs ++ closing ∨ skipComment (cs ++ closing) = [] := by
  induction cs with
  | nil => exact .inr (by decide)
  | cons c cs ih =>
    rw [List.cons_append, skipComment, skipComment]
    split
    · exact .inl rfl
    · exact ih

theorem skipSpace_closing (i : Bool) : skipSpace i closing = closing := by
  rw [closing, skipSpace]
  split
  · rfl
  · rfl

/-- What counts is the same as before, or is hidden by a comment. -/
theorem skipSpace_append (i : Bool) (cs : List Char) :
    skipSpace i (cs ++ closing) = skipSpace i cs ++ closing ∨ skipSpace i (cs ++ closing) = [] := by
  fun_induction skipSpace i cs with
  | case1 => exact .inl (skipSpace_closing i)
  | case2 c cs h => exact .inl (by rw [List.cons_append, skipSpace, if_pos h])
  | case3 c cs h hc ih => rwa [List.cons_append, skipSpace, if_neg h, if_pos hc]
  | case4 cs h _ hc ih =>
    rw [List.cons_append, skipSpace, if_neg h, if_neg hc, if_pos rfl]
    rcases skipComment_append cs with hs | hs
    · rwa [hs]
    · rw [hs]
      exact .inr (by rw [skipSpace])
  | case5 c cs h hc hc' =>
    exact .inl (by rw [List.cons_append, skipSpace, if_neg h, if_neg hc, if_neg hc'])

theorem skipSpace_length_le (i : Bool) (cs : List Char) :
    (skipSpace i cs).length ≤ cs.length := by
  fun_induction skipSpace i cs with
  | case1 => exact Nat.le_refl _
  | case2 c cs _ => exact Nat.le_refl _
  | case3 c cs _ _ ih => exact Nat.le_succ_of_le ih
  | case4 cs _ h _ ih => exact Nat.le_succ_of_le (Nat.le_trans ih h)
  | case5 c cs _ _ _ => exact Nat.le_refl _

theorem dropWhile_append_closing (cs : List Char) :
    (cs ++ closing).dropWhile isBlank = cs.dropWhile isBlank ++ closing := by
  rw [List.dropWhile_append]
  split
  next h =>
    rw [List.isEmpty_iff.mp h]
    rfl
  · rfl

theorem spilled_skipSpace_nil {α : Type} {a : α} {i : Bool} :
    Spilled (some (a, skipSpace i [])) := by
  rw [skipSpace]
  exact spilled_nil

theorem carries_skipSpace {α : Type} (a : α) (i : Bool) (cs : List Char) :
    Carries (some (a, skipSpace i cs)) (some (a, skipSpace i (cs ++ closing))) := by
  rcases skipSpace_append i cs with h | h <;> rw [h]
  · exact carries_some
  · exact spilled_nil.carries

/-- Reading on from what counts. -/
theorem carries_of_skipSpace {α : Type} (read : List Char → Option (α × List Char))
    (h : ∀ cs, Carries (read cs) (read (cs ++ closing))) (hnil : Spilled (read []))
    (i : Bool) (cs : List Char) :
    Carries (read (skipSpace i cs)) (read (skipSpace i (cs ++ closing))) := by
  rcases skipSpace_append i cs with hs | hs <;> rw [hs]
  · exact h _
  · exact hnil.carries

theorem span_append_closing {p : Char → Bool} {cs : List Char} (h : cs.dropWhile p ≠ []) :
    (cs ++ closing).takeWhile p = cs.takeWhile p ∧
      (cs ++ closing).dropWhile p = cs.dropWhile p ++ closing := by
  have hall := congrArg List.length (List.takeWhile_append_dropWhile (p := p) (l := cs))
  have hpos := List.length_pos_iff.mpr h
  rw [List.length_append] at hall
  have hlen : (cs.takeWhile p).length ≠ cs.length := by omega
  have hempty : (cs.dropWhile p).isEmpty = false := by simpa using h
  rw [List.takeWhile_append, if_neg hlen, List.dropWhile_append, hempty]
  exact ⟨rfl, rfl⟩

/-! ### Numbers -/

/-- The characters of one kind that a text begins with, and the rest of it. -/
def readRun (kind : Char → Bool) (i : Bool) : (limit : Nat) → List Char → List Char × List Char
  | 0, cs => ([], cs)
  | _ + 1, [] => ([], [])
  | limit + 1, c :: cs =>
    if kind c then
      let (run, rest) := readRun kind i limit (skipSpace i cs)
      (c :: run, rest)
    else ([], c :: cs)

theorem readDigits_eq_readRun (i : Bool) (limit : Nat) (cs : List Char) :
    readDigits i limit cs = readRun Char.isDigit i limit cs := by
  induction limit generalizing cs with
  | zero => rfl
  | succ limit ih =>
    cases cs with
    | nil => rfl
    | cons c cs => rw [readDigits, readRun, ih]

theorem readBoundaryName_eq_readRun (i : Bool) (limit : Nat) (cs : List Char) :
    readBoundaryName i limit cs = readRun isBoundaryChar i limit cs := by
  induction limit generalizing cs with
  | zero => rfl
  | succ limit ih =>
    cases cs with
    | nil => rfl
    | cons c cs => rw [readBoundaryName, readRun, ih]

/-- The run is the same, or a comment hides what follows it. -/
theorem readRun_append {kind : Char → Bool} (hkind : kind ')' = false) {i : Bool}
    {limit limit' : Nat} {cs : List Char} (h : cs.length ≤ limit) (h' : cs.length < limit') :
    readRun kind i limit' (cs ++ closing) =
        ((readRun kind i limit cs).1, (readRun kind i limit cs).2 ++ closing) ∨
      (readRun kind i limit' (cs ++ closing)).2 = [] := by
  have hnil : ∀ limit, readRun kind i (limit + 1) closing = ([], closing) :=
    fun _ => by simp [closing, readRun, hkind]
  induction limit generalizing limit' cs with
  | zero =>
    obtain ⟨limit', rfl⟩ := Nat.exists_eq_succ_of_ne_zero (Nat.ne_zero_of_lt h')
    obtain rfl := List.eq_nil_of_length_eq_zero (Nat.le_zero.mp h)
    exact .inl (hnil limit')
  | succ limit ih =>
    obtain ⟨limit', rfl⟩ := Nat.exists_eq_succ_of_ne_zero (Nat.ne_zero_of_lt h')
    cases cs with
    | nil => exact .inl (hnil limit')
    | cons c cs =>
      rw [List.cons_append, readRun, readRun]
      split
      · rcases skipSpace_append i cs with hs | hs <;> rw [hs]
        · have hlen := skipSpace_length_le i cs
          have hcs : (skipSpace i cs).length ≤ limit :=
            Nat.le_trans hlen (Nat.le_of_succ_le_succ h)
          have hcs' : (skipSpace i cs).length < limit' :=
            Nat.lt_of_le_of_lt hlen (Nat.lt_of_succ_lt_succ h')
          rcases ih hcs hcs' with hd | hd
          · exact .inl (by rw [hd])
          · exact .inr hd
        · exact .inr (by cases limit' <;> rfl)
      · exact .inl rfl

theorem readCount_carries (i : Bool) (cs : List Char) :
    Carries (readCount i cs) (readCount i (cs ++ closing)) := by
  have hlen : (cs.dropWhile isBlank).length ≤ cs.length := (List.dropWhile_sublist _).length_le
  have hlen' : cs.length ≤ (cs ++ closing).length := by simp
  have hdigit : Char.isDigit ')' = false := rfl
  have happ := readRun_append hdigit (i := i) (Nat.le_succ_of_le hlen)
    (Nat.lt_succ_of_le (Nat.le_trans hlen hlen'))
  simp only [← readDigits_eq_readRun] at happ
  unfold readCount
  rw [dropWhile_append_closing]
  generalize readDigits i (cs.length + 1) (cs.dropWhile isBlank) = p at *
  generalize readDigits i ((cs ++ closing).length + 1) (cs.dropWhile isBlank ++ closing) = p' at *
  obtain ⟨ds, rest⟩ := p
  obtain ⟨ds', rest'⟩ := p'
  rcases happ with h | rfl
  · obtain ⟨rfl, rfl⟩ := Prod.mk.inj h
    simp only [dropWhile_append_closing]
    split
    · exact carries_some
    · split
      · exact carries_some
      · exact carries_none
  · refine Spilled.carries ?_
    simp only [List.dropWhile_nil]
    split
    · exact spilled_nil
    · split
      · exact spilled_nil
      · exact spilled_none

theorem readHexDigits_carries (i : Bool) (n k : Nat) (cs : List Char) :
    Carries (readHexDigits i n k cs) (readHexDigits i n k (cs ++ closing)) := by
  induction k generalizing n cs with
  | zero => exact carries_some
  | succ k ih =>
    rw [readHexDigits, readHexDigits]
    rcases skipSpace_append i cs with h | h <;> rw [h]
    · cases skipSpace i cs with
      | nil => exact carries_none
      | cons c rest =>
        cases hd : hexDigit? c with
        | none => simpa [hd] using carries_none
        | some d => simpa [hd] using ih _ _
    · exact spilled_none.carries

theorem readHexBraced_carries {i : Bool} {limit limit' : Nat} (h : limit ≤ limit')
    (n? : Option Nat) (cs : List Char) :
    Carries (readHexBraced i limit n? cs) (readHexBraced i limit' n? (cs ++ closing)) := by
  induction limit generalizing limit' n? cs with
  | zero => exact carries_none
  | succ limit ih =>
    obtain ⟨limit', rfl⟩ := Nat.exists_eq_succ_of_ne_zero (Nat.ne_zero_of_lt h)
    rw [readHexBraced, readHexBraced]
    rcases skipSpace_append i cs with hs | hs <;> rw [hs]
    · cases skipSpace i cs with
      | nil => exact carries_none
      | cons c rest =>
        by_cases hc : c = '}'
        · subst hc
          exact carries_bind_some (g := id)
        · simp only [List.cons_append]
          cases hd : hexDigit? c with
          | none => simpa [hc, hd] using carries_none
          | some d => simpa [hc, hd] using ih (Nat.le_of_succ_le_succ h) _ _
    · exact spilled_none.carries

theorem readHex_of_digits {i : Bool} {digits : Nat} {cs rest : List Char} {c : Char}
    (hs : skipSpace i cs = c :: rest) (hc : c ≠ '{') :
    readHex i digits cs = (readHexDigits i 0 digits (c :: rest)).bind fun p =>
      (charOfCode? p.1).bind fun c => some (⟨c, digits = 2⟩, p.2) := by
  unfold readHex
  simp [hs, hc]

theorem readHex_carries (i : Bool) (digits : Nat) (cs : List Char) :
    Carries (readHex i digits cs) (readHex i digits (cs ++ closing)) := by
  have hnil : ∀ (isByte : Bool) (n : Nat),
      Spilled ((charOfCode? n).bind fun c => some (Literal.mk c isByte, [])) :=
    fun _ _ => spilled_bind_some
  have hchar : ∀ (isByte : Bool) (n : Nat) (rest : List Char),
      Carries ((charOfCode? n).bind fun c => some (Literal.mk c isByte, rest))
        ((charOfCode? n).bind fun c => some (Literal.mk c isByte, rest ++ closing)) :=
    fun _ _ _ => carries_bind_some
  rcases skipSpace_append i cs with hs | hs
  · cases hc : skipSpace i cs with
    | nil =>
      have hnone : readHex i digits cs = none := by
        unfold readHex
        rw [hc]
      exact hnone ▸ carries_none
    | cons c rest =>
      rw [hc, List.cons_append] at hs
      by_cases hbrace : c = '{'
      · subst hbrace
        unfold readHex
        rw [hs, hc]
        have hlimit : rest.length + 1 ≤ (rest ++ closing).length + 1 := by simp
        exact (readHexBraced_carries hlimit none rest).bind (hchar false) (hnil false)
      · rw [readHex_of_digits hc hbrace, readHex_of_digits hs hbrace]
        exact (readHexDigits_carries i 0 digits (c :: rest)).bind (hchar _) (hnil _)
  · unfold readHex
    rw [hs]
    exact spilled_none.carries

/-! ### Escapes -/

theorem readBoundary_carries (i : Bool) (cs : List Char) :
    Carries (readBoundary i cs) (readBoundary i (cs ++ closing)) := by
  rcases cs with _ | ⟨c, inner⟩
  · exact carries_some
  · by_cases hc : c = '{'
    · subst hc
      unfold readBoundary
      simp only [List.cons_append]
      rcases skipSpace_append i inner with hs | hs <;> rw [hs]
      · cases skipSpace i inner with
        | nil => exact carries_none
        | cons c rest =>
          simp only [List.cons_append]
          split
          · have hclose : isBoundaryChar ')' = false := by decide
            have hlimit : (c :: rest).length < (rest ++ closing).length + 1 := by simp [closing]
            have hrun := readRun_append hclose (i := i) (Nat.le_refl (c :: rest).length) hlimit
            simp only [← readBoundaryName_eq_readRun, List.cons_append, List.length_cons] at hrun
            generalize readBoundaryName i (rest.length + 1) (c :: rest) = p at *
            generalize readBoundaryName i ((rest ++ closing).length + 1)
              (c :: (rest ++ closing)) = p' at *
            obtain ⟨name, left⟩ := p
            obtain ⟨name', left'⟩ := p'
            rcases hrun with h | rfl
            · obtain ⟨rfl, rfl⟩ := Prod.mk.inj h
              rcases left with _ | ⟨d, left⟩
              · exact carries_none
              · by_cases hd : d = '}'
                · subst hd
                  exact carries_bind_some
                · simpa [hd] using carries_none
            · exact spilled_none.carries
          · exact carries_some
      · exact spilled_none.carries
    · have hread : ∀ rest, readBoundary i (c :: rest) = some (.assertion .boundary, c :: rest) := by
        intro rest
        unfold readBoundary
        simp [hc]
      rw [List.cons_append, hread, hread]
      exact carries_some

theorem readPropertyBraced_carries {i : Bool} {limit limit' : Nat} (h : limit ≤ limit')
    (cs : List Char) :
    Carries (readPropertyBraced i limit cs) (readPropertyBraced i limit' (cs ++ closing)) := by
  induction limit generalizing limit' cs with
  | zero => exact carries_none
  | succ limit ih =>
    obtain ⟨limit', rfl⟩ := Nat.exists_eq_succ_of_ne_zero (Nat.ne_zero_of_lt h)
    rw [readPropertyBraced, readPropertyBraced]
    rcases skipSpace_append i cs with hs | hs <;> rw [hs]
    · cases skipSpace i cs with
      | nil => exact carries_none
      | cons c rest =>
        by_cases hc : c = '}'
        · subst hc
          exact carries_some
        · simpa [hc] using (ih (Nat.le_of_succ_le_succ h) rest).map (c :: ·)
    · exact spilled_none.carries

theorem readProperty_carries (i isNegated : Bool) (cs : List Char) :
    Carries (readProperty i isNegated cs) (readProperty i isNegated (cs ++ closing)) := by
  unfold readProperty
  rcases skipSpace_append i cs with hs | hs <;> rw [hs]
  · cases skipSpace i cs with
    | nil => exact carries_none
    | cons c rest =>
      by_cases hc : c = '{'
      · subst hc
        have hlimit : rest.length + 1 ≤ (rest ++ closing).length + 1 := by simp
        exact (readPropertyBraced_carries hlimit rest).bind
          (fun _ _ => carries_some) fun _ => spilled_nil
      · simp only [List.cons_append]
        by_cases hslash : c = '\\'
        · simpa [hslash] using carries_none
        · simpa [hc, hslash] using carries_skipSpace _ i rest
  · exact spilled_none.carries

theorem readEscape_carries (i : Bool) (cs : List Char) :
    Carries (readEscape i cs) (readEscape i (cs ++ closing)) := by
  cases cs with
  | nil => exact carries_none
  | cons c cs =>
    rw [List.cons_append, readEscape, readEscape]
    split
    · exact (readHex_carries i _ cs).bind
        (fun _ rest => carries_skipSpace _ i rest)
        fun _ => spilled_skipSpace_nil
    · split
      · exact readProperty_carries i _ cs
      · split
        · exact readBoundary_carries i cs
        · split
          · exact carries_some
          · split
            · exact carries_some
            · rw [Option.map_eq_bind, Option.map_eq_bind]
              exact carries_bind_some

end Ambient.Pattern

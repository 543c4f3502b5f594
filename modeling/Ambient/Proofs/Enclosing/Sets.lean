/-
Sets that are read before a closing parenthesis.

A set ends with a bracket, so nothing of what follows a complete one is read.  The
exceptions look further: what begins like a named set, and a dash, which makes a range
or not depending on what comes after it.

* `readNamedSet_append`, `readSetOp_append` — these are read in the same way always;
* `charAfterDash_append` — what decides about a dash is the same, unless the text is at
  its end and cannot be read alone;
* `readSet_carries` — so a set is read as it is read alone.
-/
import Ambient.Proofs.Enclosing.Escapes

namespace Ambient.Pattern

open Text (isBlank)

/-! ### Sets -/

/-- The name of a named set, after the sign that negates it. -/
def namedSet (isNegated : Bool) (cs : List Char) : Option (SetItem × List Char) :=
  match cs.dropWhile (· ≠ ':') with
  | ':' :: ']' :: rest =>
    (CharSet.asciiNamed.lookup (String.ofList (cs.takeWhile (· ≠ ':')))).bind fun set =>
      some (.named isNegated set, rest)
  | _ => none

/-- The sign that negates a named set, and the text without it. -/
def signed : List Char → Bool × List Char
  | '^' :: cs => (true, cs)
  | cs => (false, cs)

theorem readNamedSet_colon (cs : List Char) :
    readNamedSet (':' :: cs) = namedSet (signed cs).1 (signed cs).2 :=
  rfl

theorem readNamedSet_of_ne {c : Char} (hc : c ≠ ':') (cs : List Char) :
    readNamedSet (c :: cs) = none := by
  unfold readNamedSet
  simp [hc]

theorem signed_append (cs : List Char) :
    signed (cs ++ closing) = ((signed cs).1, (signed cs).2 ++ closing) := by
  cases cs with
  | nil => rfl
  | cons c cs =>
    by_cases hc : c = '^'
    · subst hc
      rfl
    · simp [signed, hc]

theorem namedSet_append (isNegated : Bool) (cs : List Char) :
    namedSet isNegated (cs ++ closing) =
      (namedSet isNegated cs).map fun p => (p.1, p.2 ++ closing) := by
  unfold namedSet
  by_cases h : cs.dropWhile (· ≠ ':') = []
  · rw [List.dropWhile_append, h]
    rfl
  · obtain ⟨htake, hdrop⟩ := span_append_closing h
    rw [htake, hdrop]
    generalize cs.dropWhile (· ≠ ':') = rest
    match rest with
    | [] => rfl
    | [c] => simp [closing]
    | c :: d :: rest =>
      by_cases hcd : c = ':' ∧ d = ']'
      · obtain ⟨rfl, rfl⟩ := hcd
        cases CharSet.asciiNamed.lookup (String.ofList (cs.takeWhile (· ≠ ':'))) <;> rfl
      · rcases not_and_or.mp hcd with hc | hd
        · simp [hc]
        · simp [hd]

/-- A named set is told from the text up to its end. -/
theorem readNamedSet_append (cs : List Char) :
    readNamedSet (cs ++ closing) = (readNamedSet cs).map fun p => (p.1, p.2 ++ closing) := by
  cases cs with
  | nil => rfl
  | cons c cs =>
    by_cases hc : c = ':'
    · subst hc
      rw [List.cons_append, readNamedSet_colon, readNamedSet_colon, signed_append, namedSet_append]
    · rw [List.cons_append, readNamedSet_of_ne hc, readNamedSet_of_ne hc]
      rfl

theorem readDashes_eq_readRun (i : Bool) (limit : Nat) (cs : List Char) :
    readSetStart.readDashes i limit cs =
      ((readRun (· = '-') i limit cs).1.map fun c => .literal ⟨c, false⟩,
        (readRun (· = '-') i limit cs).2) := by
  induction limit generalizing cs with
  | zero => simp [readSetStart.readDashes, readRun]
  | succ limit ih =>
    cases cs with
    | nil => simp [readSetStart.readDashes, readRun]
    | cons c cs =>
      by_cases hc : c = '-'
      · subst hc
        rw [readSetStart.readDashes, ih]
        simp [readRun]
      · simp [readSetStart.readDashes, readRun, hc]

/-- The start of a set from its first literals on. -/
def setStart (i isNegated : Bool) (cs : List Char) : Bool × List SetItem × List Char :=
  let (dashes, cs) := readSetStart.readDashes i (cs.length + 1) cs
  match dashes, cs with
  | [], ']' :: cs => (isNegated, [.literal ⟨']', false⟩], skipSpace i cs)
  | dashes, cs => (isNegated, dashes, cs)

/-- The sign that negates a set, and the text without it. -/
def setSign (i : Bool) : List Char → Bool × List Char
  | '^' :: cs => (true, skipSpace i cs)
  | cs => (false, cs)

theorem setSign_of_ne {i : Bool} {cs : List Char} (h : ∀ rest, cs ≠ '^' :: rest) :
    setSign i cs = (false, cs) := by
  unfold setSign
  split
  next rest => exact absurd rfl (h rest)
  next => rfl

theorem readSetStart_eq (i : Bool) (cs : List Char) :
    readSetStart i cs =
      setStart i (setSign i (skipSpace i cs)).1 (setSign i (skipSpace i cs)).2 :=
  rfl

theorem readSetStart_of_caret {i : Bool} {cs rest : List Char} (h : skipSpace i cs = '^' :: rest) :
    readSetStart i cs = setStart i true (skipSpace i rest) := by
  rw [readSetStart_eq, h]
  rfl

theorem readSetStart_of_ne {i : Bool} {cs : List Char} (h : ∀ rest, skipSpace i cs ≠ '^' :: rest) :
    readSetStart i cs = setStart i false (skipSpace i cs) := by
  rw [readSetStart_eq, setSign_of_ne h]

theorem setStart_append (i isNegated : Bool) (cs : List Char) :
    setStart i isNegated (cs ++ closing) =
        ((setStart i isNegated cs).1, (setStart i isNegated cs).2.1,
          (setStart i isNegated cs).2.2 ++ closing) ∨
      (setStart i isNegated (cs ++ closing)).2.2 = [] := by
  have hdash : decide (')' = '-') = false := by decide
  have hlimit : cs.length < (cs ++ closing).length + 1 := by
    rw [List.length_append]
    omega
  have hrun := @readRun_append (· = '-') hdash i _ _ _ (Nat.le_succ cs.length) hlimit
  unfold setStart
  rw [readDashes_eq_readRun, readDashes_eq_readRun]
  generalize readRun (· = '-') i (cs.length + 1) cs = p at *
  generalize readRun (· = '-') i ((cs ++ closing).length + 1) (cs ++ closing) = p' at *
  obtain ⟨dashes, rest⟩ := p
  obtain ⟨dashes', rest'⟩ := p'
  rcases hrun with h | rfl
  · obtain ⟨rfl, rfl⟩ := Prod.mk.inj h
    dsimp only
    cases dashes' with
    | cons => exact .inl rfl
    | nil =>
      cases rest with
      | nil => exact .inl rfl
      | cons c rest =>
        by_cases hc : c = ']'
        · subst hc
          rcases skipSpace_append i rest with hs | hs
          · exact .inl (by simp [hs])
          · exact .inr (by simp [hs])
        · exact .inl (by simp [hc])
  · cases dashes' <;> exact .inr rfl

theorem setStart_nil (i isNegated : Bool) : setStart i isNegated [] = (isNegated, [], []) := rfl

/-- The start of a set is the same, or a comment hides what follows it. -/
theorem readSetStart_append (i : Bool) (cs : List Char) :
    readSetStart i (cs ++ closing) =
        ((readSetStart i cs).1, (readSetStart i cs).2.1, (readSetStart i cs).2.2 ++ closing) ∨
      (readSetStart i (cs ++ closing)).2.2 = [] := by
  rcases skipSpace_append i cs with hs | hs
  · by_cases h : ∃ rest, skipSpace i cs = '^' :: rest
    · obtain ⟨rest, hc⟩ := h
      rw [hc, List.cons_append] at hs
      rw [readSetStart_of_caret hc, readSetStart_of_caret hs]
      rcases skipSpace_append i rest with hs' | hs' <;> rw [hs']
      · exact setStart_append i true _
      · exact .inr (by rw [setStart_nil])
    · have hne : ∀ rest, skipSpace i (cs ++ closing) ≠ '^' :: rest := by
        intro rest hrest
        rw [hs] at hrest
        cases hc : skipSpace i cs with
        | nil =>
          rw [hc] at hrest
          exact absurd hrest (by simp [closing])
        | cons c r =>
          rw [hc, List.cons_append] at hrest
          obtain ⟨rfl, -⟩ := List.cons.inj hrest
          exact h ⟨r, hc⟩
      rw [readSetStart_of_ne (not_exists.mp h), readSetStart_of_ne hne, hs]
      exact setStart_append i false _
  · have hne : ∀ rest, skipSpace i (cs ++ closing) ≠ '^' :: rest := by
      simp [hs]
    exact .inr (by rw [readSetStart_of_ne hne, hs, setStart_nil])

theorem readSetAtom_carries (i : Bool) (cs : List Char) :
    Carries (readSetAtom i cs) (readSetAtom i (cs ++ closing)) := by
  cases cs with
  | nil => exact carries_none
  | cons c cs =>
    by_cases hc : c = '\\'
    · subst hc
      exact readEscape_carries i cs
    · unfold readSetAtom
      simpa [hc] using carries_some

/-- The text from the character on that decides whether a dash makes a range. -/
def decisive (cs : List Char) : List Char :=
  match cs.dropWhile isBlank with
  | '#' :: cs => cs.dropWhile isBlank
  | cs => cs

theorem charAfterDash_eq (i : Bool) (cs : List Char) :
    charAfterDash i cs = if i then (decisive cs).head?.or cs.head? else cs.head? :=
  rfl

theorem decisive_append (cs : List Char) : decisive (cs ++ closing) = decisive cs ++ closing := by
  unfold decisive
  rw [dropWhile_append_closing]
  cases cs.dropWhile isBlank with
  | nil => rfl
  | cons c rest =>
    by_cases hc : c = '#'
    · subst hc
      exact dropWhile_append_closing rest
    · simp [hc]

theorem skipSpace_dropWhile (cs : List Char) :
    skipSpace true (cs.dropWhile isBlank) = skipSpace true cs := by
  induction cs with
  | nil => rfl
  | cons c cs ih =>
    rw [List.dropWhile_cons]
    split
    next h =>
      rw [ih, skipSpace]
      simp [h]
    · rfl

theorem skipSpace_eq_nil {cs : List Char} (h : cs.dropWhile isBlank = []) :
    skipSpace true cs = [] := by
  rw [← skipSpace_dropWhile, h, skipSpace]

/-- Where nothing is decisive, nothing counts. -/
theorem skipSpace_of_decisive {cs : List Char} (h : decisive cs = []) :
    skipSpace true cs = [] ∧ ∀ c, cs.head? = some c → isBlank c ∨ c = '#' := by
  have hhead : ∀ c, cs.head? = some c → isBlank c ∨ cs.dropWhile isBlank = cs := by
    intro c hc
    obtain ⟨rest, rfl⟩ := List.head?_eq_some_iff.mp hc
    rw [List.dropWhile_cons]
    split
    next hb => exact .inl hb
    · exact .inr rfl
  unfold decisive at h
  split at h
  next rest hdrop =>
    constructor
    · have hblank : ∀ c ∈ rest, isBlank c := List.dropWhile_eq_nil_iff.mp h
      rw [← skipSpace_dropWhile, hdrop, skipSpace]
      refine skipSpace_eq_nil (List.dropWhile_eq_nil_iff.mpr fun c hc => ?_)
      exact hblank c (skipComment_subset rest hc)
    · intro c hc
      rcases hhead c hc with hb | hself
      · exact .inl hb
      · rw [hself] at hdrop
        rw [hdrop] at hc
        exact .inr (Option.some.inj hc).symm
  · refine ⟨skipSpace_eq_nil h, fun c hc => ?_⟩
    rcases hhead c hc with hb | hself
    · exact .inl hb
    · rw [h] at hself
      rw [← hself] at hc
      cases hc

/-- The deciding character is the same, unless the text is at its end. -/
theorem charAfterDash_append (i : Bool) (cs : List Char) :
    charAfterDash i (cs ++ closing) = charAfterDash i cs ∨
      skipSpace i cs = [] ∧ charAfterDash i cs ≠ some ']' ∧ charAfterDash i cs ≠ some '-' := by
  rw [charAfterDash_eq, charAfterDash_eq, decisive_append]
  cases i with
  | false =>
    cases cs with
    | nil => exact .inr (by simp [skipSpace])
    | cons c cs => exact .inl rfl
  | true =>
    cases hd : decisive cs with
    | cons c rest => exact .inl rfl
    | nil =>
      obtain ⟨hskip, hhead⟩ := skipSpace_of_decisive hd
      refine .inr ⟨hskip, fun h => ?_, fun h => ?_⟩
      · exact absurd (hhead _ h) (by decide)
      · exact absurd (hhead _ h) (by decide)

/-- The range between two atoms, if they are literals in this order. -/
def rangeEnd (first last : Atom) (rest : List Char) : Option (SetItem × List Char) :=
  match first, last with
  | .literal a, .literal b => if a.char ≤ b.char then some (.range a b, rest) else none
  | _, _ => none

/-- What follows a dash in a set: the other side of a range, unless the dash stands for
itself. -/
def afterDash (i : Bool) (first : Atom) (rest : List Char) : Option (SetItem × List Char) :=
  if charAfterDash i rest = some ']' || charAfterDash i rest = some '-' then
    first.toSetItem.bind fun item => some (item, '-' :: rest)
  else
    (readSetAtom i (skipSpace i rest)).bind fun p => rangeEnd first p.1 p.2

/-- What follows the first atom of a range. -/
def afterSetAtom (i : Bool) (first : Atom) (cs : List Char) : Option (SetItem × List Char) :=
  match skipSpace i cs with
  | [] => none
  | '-' :: rest => afterDash i first rest
  | cs => first.toSetItem.bind fun item => some (item, cs)

theorem readSetRange_eq (i : Bool) (cs : List Char) :
    readSetRange i cs = (readSetAtom i cs).bind fun p => afterSetAtom i p.1 p.2 := by
  unfold readSetRange afterSetAtom afterDash
  rfl

theorem rangeEnd_nil (first last : Atom) : Spilled (rangeEnd first last []) := by
  unfold rangeEnd
  split
  · split
    · exact spilled_nil
    · exact spilled_none
  · exact spilled_none

theorem rangeEnd_carries (first last : Atom) (rest : List Char) :
    Carries (rangeEnd first last rest) (rangeEnd first last (rest ++ closing)) := by
  unfold rangeEnd
  split
  · split
    · exact carries_some
    · exact carries_none
  · exact carries_none

theorem afterDash_carries (i : Bool) (first : Atom) (rest : List Char) :
    Carries (afterDash i first rest) (afterDash i first (rest ++ closing)) := by
  unfold afterDash
  rcases charAfterDash_append i rest with h | ⟨hskip, hbracket, hdash⟩
  · rw [h]
    split
    · exact carries_bind_some
    · exact carries_of_skipSpace
        (fun rest => (readSetAtom i rest).bind fun p => rangeEnd first p.1 p.2)
        (fun rest => (readSetAtom_carries i rest).bind (rangeEnd_carries first)
          (rangeEnd_nil first)) spilled_none i rest
  · -- Alone there is nothing more to read.
    have hnone : ((readSetAtom i []).bind fun p => rangeEnd first p.1 p.2) = none := rfl
    rw [hskip, hnone]
    simpa [hbracket, hdash] using carries_none

theorem afterSetAtom_nil (i : Bool) (first : Atom) : Spilled (afterSetAtom i first []) := by
  rw [afterSetAtom, skipSpace]
  exact spilled_none

theorem afterSetAtom_carries (i : Bool) (first : Atom) (cs : List Char) :
    Carries (afterSetAtom i first cs) (afterSetAtom i first (cs ++ closing)) := by
  unfold afterSetAtom
  rcases skipSpace_append i cs with hs | hs <;> rw [hs]
  · cases skipSpace i cs with
    | nil => exact carries_none
    | cons c rest =>
      by_cases hc : c = '-'
      · subst hc
        exact afterDash_carries i first rest
      · have hread : ∀ cs : List Char, (match c :: cs with
            | [] => none
            | '-' :: rest => afterDash i first rest
            | cs => first.toSetItem.bind fun item => some (item, cs)) =
              first.toSetItem.bind fun item => some (item, c :: cs) := by
          intro cs
          simp [hc]
        rw [List.cons_append, hread, hread]
        exact carries_bind_some
  · exact spilled_none.carries

theorem readSetRange_carries (i : Bool) (cs : List Char) :
    Carries (readSetRange i cs) (readSetRange i (cs ++ closing)) := by
  rw [readSetRange_eq, readSetRange_eq]
  exact (readSetAtom_carries i cs).bind (afterSetAtom_carries i)
    (afterSetAtom_nil i)

theorem readSetOp_append (cs : List Char) :
    readSetOp (cs ++ closing) = (readSetOp cs).map fun p => (p.1, p.2 ++ closing) := by
  match cs with
  | [] => rfl
  | [c] =>
    unfold readSetOp
    simp [closing]
  | c :: d :: cs =>
    unfold readSetOp
    simp only [List.cons_append]
    split
    next heq =>
      cases heq
      rfl
    next heq =>
      cases heq
      rfl
    next heq =>
      cases heq
      rfl
    next h₁ h₂ h₃ =>
      split
      next heq =>
        cases heq
        exact absurd rfl (h₁ _)
      next heq =>
        cases heq
        exact absurd rfl (h₂ _)
      next heq =>
        cases heq
        exact absurd rfl (h₃ _)
      · rfl

/-- A set in brackets, and what follows it. -/
def readBracketed (i : Bool) (limit : Nat) (s : OpenSet) (cs : List Char) :
    Option (SetExpr × List Char) :=
  (readSetRest i limit { items := (readSetStart i cs).2.1.reverse } (readSetStart i cs).2.2).bind
    fun p => readSetRest i limit
      { s with items := .bracketed (readSetStart i cs).1 p.1 :: s.items } p.2

/-- An item of a set, and what follows it. -/
def readItem (i : Bool) (limit : Nat) (s : OpenSet) (cs : List Char) :
    Option (SetExpr × List Char) :=
  (readSetRange i cs).bind fun p => readSetRest i limit { s with items := p.1 :: s.items } p.2

theorem readSetRest_of_bracket {i : Bool} {limit : Nat} {s : OpenSet} {cs rest : List Char}
    (hs : skipSpace i cs = '[' :: rest) :
    readSetRest i (limit + 1) s cs =
      match readNamedSet rest with
      | some p => readSetRest i limit { s with items := p.1 :: s.items } p.2
      | none => readBracketed i limit s rest := by
  rw [readSetRest, hs]
  cases hn : readNamedSet rest with
  | some p => simp [hn]
  | none =>
    rw [readBracketed]
    simp only [hn]
    cases readSetRest i limit { items := (readSetStart i rest).2.1.reverse }
        (readSetStart i rest).2.2 with
    | some p => rfl
    | none => rfl

theorem readSetRest_of_other {i : Bool} {limit : Nat} {s : OpenSet} {cs rest : List Char}
    {c : Char} (hs : skipSpace i cs = c :: rest) (hclose : c ≠ ']') (hopen : c ≠ '[') :
    readSetRest i (limit + 1) s cs =
      match readSetOp (c :: rest) with
      | some p => readSetRest i limit { before := some (s.close, p.1) } p.2
      | none => readItem i limit s (c :: rest) := by
  rw [readSetRest, hs]
  cases hop : readSetOp (c :: rest) with
  | some p => simp [hclose, hopen, hop]
  | none => cases hr : readSetRange i (c :: rest) <;> simp [hclose, hopen, hop, readItem, hr]

theorem readSetRest_nil (i : Bool) (limit : Nat) (s : OpenSet) :
    readSetRest i limit s [] = none := by
  cases limit with
  | zero => rfl
  | succ limit => rw [readSetRest, skipSpace]

theorem readSetRest_carries {i : Bool} {limit limit' : Nat} (h : limit ≤ limit') (s : OpenSet)
    (cs : List Char) :
    Carries (readSetRest i limit s cs) (readSetRest i limit' s (cs ++ closing)) := by
  induction limit generalizing limit' s cs with
  | zero => exact carries_none
  | succ limit ih =>
    obtain ⟨limit', rfl⟩ := Nat.exists_eq_succ_of_ne_zero (Nat.ne_zero_of_lt h)
    have ih := fun s cs => ih (Nat.le_of_succ_le_succ h) s cs
    rcases skipSpace_append i cs with hs | hs
    · cases hc : skipSpace i cs with
      | nil =>
        have hnone : readSetRest i (limit + 1) s cs = none := by rw [readSetRest, hc]
        exact hnone ▸ carries_none
      | cons c rest =>
        rw [hc, List.cons_append] at hs
        by_cases hclose : c = ']'
        · subst hclose
          rw [readSetRest, readSetRest, hc, hs]
          exact carries_some
        · by_cases hopen : c = '['
          · subst hopen
            rw [readSetRest_of_bracket hc, readSetRest_of_bracket hs, readNamedSet_append]
            cases readNamedSet rest with
            | some p => exact ih _ p.2
            | none =>
              show Carries (readBracketed i limit s rest)
                (readBracketed i limit' s (rest ++ closing))
              unfold readBracketed
              rcases readSetStart_append i rest with h | h
              · rw [h]
                exact (ih _ _).bind (fun set left => ih _ left)
                  fun _ => readSetRest_nil i limit' _ ▸ spilled_none
              · rw [h, readSetRest_nil]
                exact spilled_none.carries
          · rw [readSetRest_of_other hc hclose hopen, readSetRest_of_other hs hclose hopen,
              ← List.cons_append, readSetOp_append]
            cases readSetOp (c :: rest) with
            | some p => exact ih _ p.2
            | none =>
              exact (readSetRange_carries i (c :: rest)).bind (fun item left => ih _ left)
                fun _ => readSetRest_nil i limit' _ ▸ spilled_none
    · rw [readSetRest, readSetRest, hs]
      exact spilled_none.carries

theorem readSet_eq (i : Bool) (cs : List Char) :
    readSet i cs =
      (readSetRest i (cs.length + 1) { items := (readSetStart i cs).2.1.reverse }
        (readSetStart i cs).2.2).bind fun p => some (.set (readSetStart i cs).1 p.1, p.2) :=
  rfl

theorem readSet_carries (i : Bool) (cs : List Char) :
    Carries (readSet i cs) (readSet i (cs ++ closing)) := by
  have hlimit : cs.length + 1 ≤ (cs ++ closing).length + 1 := by simp
  rw [readSet_eq, readSet_eq]
  rcases readSetStart_append i cs with h | h <;> rw [h]
  · exact (readSetRest_carries hlimit _ _).bind (fun _ _ => carries_some)
      fun _ => spilled_nil
  · rw [readSetRest_nil]
    exact spilled_none.carries

end Ambient.Pattern

/-
Patterns that are read between their anchors.

The text of a group is read part by part, and each part before a closing parenthesis as
at the end of the text.  So the parenthesis closes the group, unless a comment hides it:

* `readRepetition_carries`, `readOpening_carries`, `readAtom_carries` — the parts;
* `groupText_carries` — the text of a group;
* `Expr.read_anchored` — a pattern that can also be read between its anchors is the same
  group there.
-/
import Ambient.Proofs.Enclosing.Sets

namespace Ambient.Pattern

/-! ### The end of a group -/

/-- What is read of a group, with the names given so far, and the text from its closing
parenthesis on. -/
def groupText (limit : Nat) (st : State) (g : OpenGroup) (cs : List Char) :
    Option ((Expr × List String) × List Char) :=
  (readGroup limit st g cs).map fun r => ((r.1, r.2.1), r.2.2)

theorem groupText_eq_some_iff {limit : Nat} {st : State} {g : OpenGroup} {cs rest : List Char}
    {e : Expr} {names : List String} :
    groupText limit st g cs = some ((e, names), rest) ↔
      readGroup limit st g cs = some (e, names, rest) := by
  unfold groupText
  cases readGroup limit st g cs with
  | none => simp
  | some r =>
    obtain ⟨e', names', rest'⟩ := r
    simp [and_assoc]

theorem groupText_of_nil {limit : Nat} {st : State} {g : OpenGroup} {cs : List Char}
    (h : skipSpace st.ignoreSpace cs = []) :
    groupText (limit + 1) st g cs = some ((g.close, st.names), []) := by
  rw [groupText, readGroup, h]
  rfl

theorem groupText_of_close {limit : Nat} {st : State} {g : OpenGroup} {cs rest : List Char}
    (h : skipSpace st.ignoreSpace cs = ')' :: rest) :
    groupText (limit + 1) st g cs = some ((g.close, st.names), ')' :: rest) := by
  rw [groupText, readGroup, h]
  rfl

/-! ### Repetitions -/

theorem withLaziness_append (b : Bounds) (cs : List Char) :
    b.withLaziness (cs ++ closing) = ((b.withLaziness cs).1, (b.withLaziness cs).2 ++ closing) := by
  cases cs with
  | nil => rfl
  | cons c cs =>
    by_cases hc : c = '?'
    · subst hc
      rfl
    · simp [Bounds.withLaziness, hc]

theorem withLaziness_carries (b : Bounds) (cs : List Char) :
    Carries (some (b.withLaziness cs)) (some (b.withLaziness (cs ++ closing))) := by
  rw [withLaziness_append]
  exact carries_some

/-- The number after a comma. -/
def readUpper (i : Bool) (cs : List Char) : Option (Option Nat × List Char) :=
  match skipSpace i cs with
  | '}' :: cs => some (none, '}' :: cs)
  | cs => (readCount i cs).bind fun p => p.1.bind fun max => some (some max, p.2)

theorem readMax_comma (i : Bool) (min : Nat) (cs : List Char) :
    readMax i min (',' :: cs) = readUpper i cs :=
  rfl

theorem readMax_of_ne (i : Bool) (min : Nat) {cs : List Char} (h : cs.head? ≠ some ',') :
    readMax i min cs = some (some min, cs) := by
  unfold readMax
  split
  · exact absurd rfl h
  · rfl

theorem readUpper_of_ne {i : Bool} {cs : List Char} (h : (skipSpace i cs).head? ≠ some '}') :
    readUpper i cs = (readCount i (skipSpace i cs)).bind fun p =>
      p.1.bind fun max => some (some max, p.2) := by
  unfold readUpper
  split
  next hs => exact absurd (hs ▸ rfl) h
  · rfl

theorem readUpper_carries (i : Bool) (cs : List Char) :
    Carries (readUpper i cs) (readUpper i (cs ++ closing)) := by
  rcases skipSpace_append i cs with hs | hs
  · by_cases h : (skipSpace i cs).head? = some '}'
    · obtain ⟨rest, hc⟩ := List.head?_eq_some_iff.mp h
      unfold readUpper
      rw [hs, hc]
      exact carries_some
    · have h' : (skipSpace i (cs ++ closing)).head? ≠ some '}' := by
        rw [hs]
        generalize skipSpace i cs = t at h
        cases t with
        | nil => decide
        | cons c rest => exact h
      rw [readUpper_of_ne h, readUpper_of_ne h', hs]
      exact (readCount_carries i _).bind (fun _ _ => carries_bind_some)
        fun _ => spilled_bind_some
  · have hnone : readUpper i (cs ++ closing) = none := by
      unfold readUpper
      rw [hs]
      rfl
    exact hnone ▸ spilled_none.carries

theorem readMax_carries (i : Bool) (min : Nat) (cs : List Char) :
    Carries (readMax i min cs) (readMax i min (cs ++ closing)) := by
  by_cases h : cs.head? = some ','
  · obtain ⟨rest, rfl⟩ := List.head?_eq_some_iff.mp h
    rw [List.cons_append, readMax_comma, readMax_comma]
    exact readUpper_carries i rest
  · have h' : (cs ++ closing).head? ≠ some ',' := by
      cases cs with
      | nil => decide
      | cons c cs => exact h
    rw [readMax_of_ne i min h, readMax_of_ne i min h']
    exact carries_some

/-- What follows the upper bound. -/
def closeBounds (i : Bool) (min : Nat) (max : Option Nat) (cs : List Char) :
    Option (Bounds × List Char) :=
  match cs with
  | '}' :: cs =>
    if max.all (min ≤ ·) then some (Bounds.withLaziness { min, max } (skipSpace i cs)) else none
  | _ => none

theorem readBounds_eq (i : Bool) (cs : List Char) :
    readBounds i cs = (readCount i (skipSpace i cs)).bind fun p =>
      p.1.bind fun min => (readMax i min p.2).bind fun q => closeBounds i min q.1 q.2 := by
  unfold readBounds
  refine Option.bind_congr fun p _ => Option.bind_congr fun min _ => Option.bind_congr fun q _ => ?_
  obtain ⟨max, rest⟩ := q
  unfold closeBounds
  split
  next heq =>
    cases heq
    rfl
  next h =>
    split
    next heq =>
      cases heq
      exact absurd rfl (h max _)
    · rfl

theorem closeBounds_carries (i : Bool) (min : Nat) (max : Option Nat) (cs : List Char) :
    Carries (closeBounds i min max cs) (closeBounds i min max (cs ++ closing)) := by
  cases cs with
  | nil => exact carries_none
  | cons c rest =>
    by_cases hc : c = '}'
    · subst hc
      unfold closeBounds
      simp only [List.cons_append]
      split
      · refine carries_of_skipSpace (fun rest => some (Bounds.withLaziness _ rest))
          (withLaziness_carries _) ?_ i rest
        exact spilled_nil
      · exact carries_none
    · have hnone : closeBounds i min max (c :: rest) = none := by simp [closeBounds, hc]
      exact hnone ▸ carries_none

theorem readBounds_carries (i : Bool) (cs : List Char) :
    Carries (readBounds i cs) (readBounds i (cs ++ closing)) := by
  have hnil : ∀ min?, Spilled (Option.bind min? fun min =>
      (readMax i min []).bind fun q => closeBounds i min q.1 q.2) := by
    intro min?
    cases min? with
    | none => exact spilled_none
    | some min => exact spilled_none
  rw [readBounds_eq, readBounds_eq]
  refine carries_of_skipSpace (fun cs => (readCount i cs).bind fun p =>
    p.1.bind fun min => (readMax i min p.2).bind fun q => closeBounds i min q.1 q.2) ?_ ?_ i cs
  · intro cs
    refine (readCount_carries i cs).bind (fun min? rest => ?_) hnil
    cases min? with
    | none => exact carries_none
    | some min =>
      exact (readMax_carries i min rest).bind (closeBounds_carries i min) fun _ => spilled_none
  · exact spilled_none

theorem readRepetition_carries (i : Bool) (cs : List Char) :
    Carries (readRepetition i cs) (readRepetition i (cs ++ closing)) := by
  cases cs with
  | nil => exact carries_none
  | cons c cs =>
    rw [List.cons_append]
    unfold readRepetition
    split
    next heq =>
      cases heq
      exact withLaziness_carries _ _
    next heq =>
      cases heq
      exact withLaziness_carries _ _
    next heq =>
      cases heq
      exact withLaziness_carries _ _
    next heq =>
      cases heq
      exact readBounds_carries i _
    · exact carries_none

/-! ### Groups -/

/-- Flags end within the text. -/
theorem readFlags_carries (changes : FlagChanges) (isNegated isDangling : Bool) (cs : List Char) :
    Carries (readFlags changes isNegated isDangling cs)
      (readFlags changes isNegated isDangling (cs ++ closing)) := by
  induction cs generalizing changes isNegated isDangling with
  | nil => exact carries_none
  | cons c cs ih =>
    rw [List.cons_append, readFlags, readFlags]
    split
    · split
      · exact carries_none
      · exact carries_some
    · split
      · split
        · exact carries_none
        · exact ih _ _ _
      · cases flagOfChar? c with
        | none => exact carries_none
        | some f =>
          show Carries (if (changes.find f).isSome then none else _)
            (if (changes.find f).isSome then none else _)
          split
          · exact carries_none
          · exact ih _ _ _

theorem readGroupName_carries (cs : List Char) :
    Carries (readGroupName cs) (readGroupName (cs ++ closing)) := by
  unfold readGroupName
  by_cases h : cs.dropWhile (· ≠ '>') = []
  · rw [h]
    simpa using carries_none
  · obtain ⟨htake, hdrop⟩ := span_append_closing h
    rw [htake, hdrop]
    generalize cs.takeWhile (· ≠ '>') = name
    generalize cs.dropWhile (· ≠ '>') = rest
    cases name with
    | nil => exact carries_none
    | cons c name =>
      cases rest with
      | nil => exact carries_none
      | cons d rest =>
        by_cases hd : d = '>'
        · subst hd
          simp only [List.cons_append]
          split
          · exact carries_some
          · exact carries_none
        · simpa [hd] using carries_none

theorem isPrefixOf_append_closing {start : List Char} (h : ')' ∉ start) (cs : List Char) :
    start.isPrefixOf (cs ++ closing) = start.isPrefixOf cs := by
  induction start generalizing cs with
  | nil => simp
  | cons s start ih =>
    obtain ⟨hs, hstart⟩ := not_or.mp (List.mem_cons.not.mp h)
    cases cs with
    | nil => simp [closing, List.isPrefixOf, Ne.symm hs]
    | cons c cs => simp [List.isPrefixOf, ih hstart]

theorem afterPrefix_append_closing {start : List Char} (h : ')' ∉ start) (cs : List Char) :
    Text.afterPrefix start (cs ++ closing) =
      (Text.afterPrefix start cs).map (· ++ closing) := by
  induction start generalizing cs with
  | nil => rfl
  | cons s start ih =>
    obtain ⟨hs, hstart⟩ := not_or.mp (List.mem_cons.not.mp h)
    cases cs with
    | nil => simp [closing, Text.afterPrefix, Ne.symm hs]
    | cons c cs =>
      rw [List.cons_append, Text.afterPrefix, Text.afterPrefix]
      split
      · exact ih hstart cs
      · rfl

/-- What an opening parenthesis begins, from the flags on. -/
def openingOf (changes : FlagChanges) (cs : List Char) : Option (Opening × List Char) :=
  match cs with
  | ')' :: cs => if changes.isEmpty then none else some (.flags changes, cs)
  | _ :: cs => some (.group changes, cs)
  | [] => none

/-- What an opening parenthesis begins, unless it is a name. -/
def unnamed (cs : List Char) : Option (Opening × List Char) :=
  match cs with
  | '?' :: cs => (readFlags [] false false cs).bind fun p => openingOf p.1 p.2
  | cs => some (.capture none, cs)

/-- The text of a name, after the sign that it begins with. -/
def named (cs : List Char) : Option (List Char) :=
  (Text.afterPrefix "?P<".toList cs).orElse fun _ => Text.afterPrefix "?<".toList cs

/-- Whether what an opening parenthesis begins looks around. -/
def looksAround (cs : List Char) : Bool :=
  ["?=", "?!", "?<=", "?<!"].any fun s => s.toList.isPrefixOf cs

/-- What an opening parenthesis begins, from what counts on. -/
def opening (cs : List Char) : Option (Opening × List Char) :=
  if looksAround cs then none
  else
    match named cs with
    | some cs => (readGroupName cs).map fun p => (.capture (some p.1), p.2)
    | none => unnamed cs

theorem readOpening_eq (i : Bool) (cs : List Char) :
    readOpening i cs = opening (skipSpace i cs) := by
  unfold readOpening opening looksAround named unnamed
  generalize skipSpace i cs = t
  refine ite_congr rfl (fun _ => rfl) fun _ => ?_
  cases (Text.afterPrefix "?P<".toList t).orElse fun _ => Text.afterPrefix "?<".toList t with
  | some rest => rfl
  | none =>
    cases t with
    | nil => rfl
    | cons c rest =>
      by_cases hc : c = '?'
      · subst hc
        refine Option.bind_congr fun p _ => ?_
        obtain ⟨changes, rest⟩ := p
        unfold openingOf
        cases rest with
        | nil => rfl
        | cons c rest =>
          by_cases hc : c = ')'
          · subst hc
            rfl
          · simp
      · simp [hc]

theorem openingOf_carries (changes : FlagChanges) (cs : List Char) :
    Carries (openingOf changes cs) (openingOf changes (cs ++ closing)) := by
  cases cs with
  | nil => exact carries_none
  | cons c cs =>
    rw [List.cons_append]
    unfold openingOf
    split
    next heq =>
      cases heq
      split
      · exact carries_none
      · exact carries_some
    next h heq =>
      cases heq
      split
      next heq =>
        cases heq
        exact (h rfl).elim
      next heq =>
        cases heq
        exact carries_some
      next heq => cases heq
    · exact carries_none

theorem unnamed_carries (cs : List Char) : Carries (unnamed cs) (unnamed (cs ++ closing)) := by
  cases cs with
  | nil => exact carries_some
  | cons c cs =>
    by_cases hc : c = '?'
    · subst hc
      exact (readFlags_carries [] false false cs).bind openingOf_carries
        fun _ => spilled_none
    · have hread : ∀ rest, unnamed (c :: rest) = some (.capture none, c :: rest) := by
        intro rest
        unfold unnamed
        simp [hc]
      rw [List.cons_append, hread, hread]
      exact carries_some

theorem named_append (cs : List Char) : named (cs ++ closing) = (named cs).map (· ++ closing) := by
  unfold named
  rw [afterPrefix_append_closing (by decide), afterPrefix_append_closing (by decide)]
  cases Text.afterPrefix "?P<".toList cs <;> rfl

theorem looksAround_append (cs : List Char) : looksAround (cs ++ closing) = looksAround cs := by
  have hstarts : ∀ s ∈ ["?=", "?!", "?<=", "?<!"],
      s.toList.isPrefixOf (cs ++ closing) = s.toList.isPrefixOf cs := by
    intro s hs
    have hclose : ∀ s ∈ ["?=", "?!", "?<=", "?<!"], ')' ∉ s.toList := by decide
    exact isPrefixOf_append_closing (hclose s hs) cs
  unfold looksAround
  rw [Bool.eq_iff_iff, List.any_eq_true, List.any_eq_true]
  exact exists_congr fun s => and_congr_right fun hs => by rw [hstarts s hs]

theorem opening_carries (cs : List Char) : Carries (opening cs) (opening (cs ++ closing)) := by
  unfold opening
  rw [looksAround_append, named_append]
  split
  · exact carries_none
  · cases named cs with
    | some rest =>
      exact (readGroupName_carries rest).map fun name => Opening.capture (some name)
    | none => exact unnamed_carries cs

theorem readOpening_carries (i : Bool) (cs : List Char) :
    Carries (readOpening i cs) (readOpening i (cs ++ closing)) := by
  rw [readOpening_eq, readOpening_eq]
  exact carries_of_skipSpace opening opening_carries
    spilled_nil i cs

/-! ### Expressions -/

/-- An atom as an expression. -/
def Atom.toExpr : Atom → Expr
  | .literal l => .literal l
  | .shorthand s isNegated => .shorthand s isNegated
  | .property p isNegated => .property p isNegated
  | .assertion a => .assertion a

theorem readAtom_escape (i : Bool) (cs : List Char) :
    readAtom i ('\\' :: cs) = (readEscape i cs).map fun p => (p.1.toExpr, p.2) := by
  rw [readAtom, Option.map_eq_bind]
  refine Option.bind_congr fun p _ => ?_
  obtain ⟨a, rest⟩ := p
  cases a <;> rfl

theorem readAtom_literal {c : Char} (h : c ∉ ['.', '^', '$', '[', '\\']) (i : Bool)
    (cs : List Char) : readAtom i (c :: cs) = some (.literal ⟨c, false⟩, cs) := by
  unfold readAtom
  split <;> simp_all

theorem readAtom_carries (i : Bool) (cs : List Char) :
    Carries (readAtom i cs) (readAtom i (cs ++ closing)) := by
  cases cs with
  | nil => exact carries_none
  | cons c cs =>
    rw [List.cons_append]
    by_cases hc : c ∈ ['.', '^', '$', '[', '\\']
    · simp only [List.mem_cons, List.not_mem_nil, or_false] at hc
      rcases hc with rfl | rfl | rfl | rfl | rfl
      · exact carries_some
      · exact carries_some
      · exact carries_some
      · exact readSet_carries i cs
      · rw [readAtom_escape, readAtom_escape]
        exact (readEscape_carries i cs).map Atom.toExpr
    · rw [readAtom_literal hc, readAtom_literal hc]
      exact carries_some

/-! ### The text of a group -/

/-- What follows a group inside another one. -/
def afterGroup (limit : Nat) (st : State) (g : OpenGroup) (wrap : Expr → Expr)
    (e : Expr) (names : List String) (cs : List Char) :
    Option ((Expr × List String) × List Char) :=
  match cs with
  | ')' :: cs => groupText limit { st with names } (g.push (wrap e)) cs
  | _ => none

/-- The same with what was read of the group. -/
def closeGroup (limit : Nat) (st : State) (g : OpenGroup) (wrap : Expr → Expr)
    (inner : Option (Expr × List String × List Char)) : Option (Expr × List String × List Char) :=
  match inner with
  | some (e, names, ')' :: cs) => readGroup limit { st with names } (g.push (wrap e)) cs
  | _ => none

/-- The flags of a group, as far as blanks are concerned. -/
def State.change (st : State) (changes : FlagChanges) : State :=
  { st with ignoreSpace := (changes.find .ignoreSpace).getD st.ignoreSpace }

/-- What follows an opening parenthesis. -/
def afterOpening (limit : Nat) (st : State) (g : OpenGroup) (o : Opening) (cs : List Char) :
    Option ((Expr × List String) × List Char) :=
  match o with
  | .flags changes => groupText limit (st.change changes) (g.push (.flags changes)) cs
  | .group changes =>
    (groupText limit (st.change changes) {} cs).bind fun p =>
      afterGroup limit st g (.group changes) p.1.1 p.1.2 p.2
  | .capture name? =>
    if name?.any st.names.contains then none
    else
      (groupText limit { st with names := name?.toList ++ st.names } {} cs).bind fun p =>
        afterGroup limit st g .capture p.1.1 p.1.2 p.2

/-- What follows a repetition of the latest part. -/
def afterRepeated (limit : Nat) (st : State) (g : OpenGroup) (cs : List Char) :
    Option ((Expr × List String) × List Char) :=
  match g.parts with
  | [] => none
  | e :: parts =>
    if e.isRepeatable then
      (readRepetition st.ignoreSpace cs).bind fun p =>
        groupText limit st { g with parts := .repeat e p.1 :: parts } p.2
    else none

section
variable {limit limit' : Nat} {st : State} {g : OpenGroup} {cs rest : List Char}

theorem groupText_of_bar (h : skipSpace st.ignoreSpace cs = '|' :: rest) :
    groupText (limit + 1) st g cs = groupText limit st g.next rest := by
  rw [groupText, readGroup, h]
  rfl

/-- What a group leaves is looked at for the parenthesis that closes it. -/
theorem closeGroup_eq (wrap : Expr → Expr) (inner : Option (Expr × List String × List Char)) :
    (closeGroup limit st g wrap inner).map (fun r => ((r.1, r.2.1), r.2.2)) =
      (inner.map fun r => ((r.1, r.2.1), r.2.2)).bind fun p =>
        afterGroup limit st g wrap p.1.1 p.1.2 p.2 := by
  unfold closeGroup
  match inner with
  | none => rfl
  | some (e, names, []) => rfl
  | some (e, names, c :: cs) =>
    by_cases hc : c = ')'
    · subst hc
      rfl
    · simp [afterGroup, hc]

theorem groupText_of_open (h : skipSpace st.ignoreSpace cs = '(' :: rest) :
    groupText (limit + 1) st g cs =
      (readOpening st.ignoreSpace rest).bind fun p => afterOpening limit st g p.1 p.2 := by
  rw [groupText, readGroup, h]
  cases ho : readOpening st.ignoreSpace rest with
  | none => simp [ho]
  | some p =>
    obtain ⟨o, left⟩ := p
    simp only [ho, Option.bind_some]
    cases o with
    | flags changes => rfl
    | group changes => exact closeGroup_eq _ _
    | capture name? =>
      unfold afterOpening
      dsimp only
      split
      · rfl
      · exact closeGroup_eq _ _

theorem groupText_of_other {c : Char} (h : skipSpace st.ignoreSpace cs = c :: rest)
    (hc : c ∉ [')', '|', '(']) :
    groupText (limit + 1) st g cs =
      if isRepetition c then afterRepeated limit st g (c :: rest)
      else
        (readAtom st.ignoreSpace (c :: rest)).bind fun p =>
          groupText limit st (g.push p.1) p.2 := by
  rw [groupText, readGroup, h]
  simp only [List.mem_cons, List.not_mem_nil, or_false, not_or] at hc
  obtain ⟨hclose, hbar, hopen⟩ := hc
  simp only
  split
  · unfold afterRepeated
    cases g.parts with
    | nil => rfl
    | cons e parts =>
      dsimp only
      split
      · cases readRepetition st.ignoreSpace (c :: rest) <;> rfl
      · rfl
  · cases readAtom st.ignoreSpace (c :: rest) <;> rfl

theorem groupText_nil (limit : Nat) (st : State) (g : OpenGroup) :
    Spilled (groupText limit st g []) := by
  cases limit with
  | zero => exact spilled_none
  | succ limit =>
    have hskip : skipSpace st.ignoreSpace [] = [] := by rw [skipSpace]
    rw [groupText_of_nil hskip]
    exact spilled_nil

theorem afterOpening_nil (limit : Nat) (st : State) (g : OpenGroup) (o : Opening) :
    Spilled (afterOpening limit st g o []) := by
  unfold afterOpening
  cases o with
  | flags changes => exact groupText_nil limit _ _
  | group changes => exact (groupText_nil limit _ _).bind fun _ => spilled_none
  | capture name? =>
    dsimp only
    split
    · exact spilled_none
    · exact (groupText_nil limit _ _).bind fun _ => spilled_none

theorem afterGroup_carries
    (hlimit : ∀ st g cs, Carries (groupText limit st g cs) (groupText limit' st g (cs ++ closing)))
    (wrap : Expr → Expr) (e : Expr) (names : List String) (cs : List Char) :
    Carries (afterGroup limit st g wrap e names cs)
      (afterGroup limit' st g wrap e names (cs ++ closing)) := by
  cases cs with
  | nil => exact carries_none
  | cons c cs =>
    by_cases hc : c = ')'
    · subst hc
      exact hlimit _ _ cs
    · have hnone : afterGroup limit st g wrap e names (c :: cs) = none := by
        unfold afterGroup
        simp [hc]
      exact hnone ▸ carries_none

theorem afterOpening_carries
    (hlimit : ∀ st g cs, Carries (groupText limit st g cs) (groupText limit' st g (cs ++ closing)))
    (o : Opening) (cs : List Char) :
    Carries (afterOpening limit st g o cs) (afterOpening limit' st g o (cs ++ closing)) := by
  unfold afterOpening
  cases o with
  | flags changes => exact hlimit _ _ cs
  | group changes =>
    exact (hlimit _ _ cs).bind (fun p left => afterGroup_carries hlimit _ p.1 p.2 left)
      fun _ => spilled_none
  | capture name? =>
    dsimp only
    split
    · exact carries_none
    · exact (hlimit _ _ cs).bind (fun p left => afterGroup_carries hlimit _ p.1 p.2 left)
        fun _ => spilled_none

theorem afterRepeated_carries
    (hlimit : ∀ st g cs, Carries (groupText limit st g cs) (groupText limit' st g (cs ++ closing)))
    (cs : List Char) :
    Carries (afterRepeated limit st g cs) (afterRepeated limit' st g (cs ++ closing)) := by
  unfold afterRepeated
  cases g.parts with
  | nil => exact carries_none
  | cons e parts =>
    dsimp only
    split
    · exact (readRepetition_carries _ cs).bind (fun _ left => hlimit _ _ left)
        fun _ => groupText_nil limit' _ _
    · exact carries_none

/-- **The text of a group** is read before a closing parenthesis as it is read at the end,
unless a comment goes on over the parenthesis. -/
theorem groupText_carries (h : limit ≤ limit') (st : State) (g : OpenGroup) (cs : List Char) :
    Carries (groupText limit st g cs) (groupText limit' st g (cs ++ closing)) := by
  induction limit generalizing limit' st g cs with
  | zero => exact carries_none
  | succ limit ih =>
    obtain ⟨limit', rfl⟩ := Nat.exists_eq_succ_of_ne_zero (Nat.ne_zero_of_lt h)
    have ih := fun st g cs => ih (Nat.le_of_succ_le_succ h) st g cs
    rcases skipSpace_append st.ignoreSpace cs with hs | hs
    · cases hc : skipSpace st.ignoreSpace cs with
      | nil =>
        rw [hc] at hs
        rw [groupText_of_nil hc, groupText_of_close hs]
        exact carries_some
      | cons c rest =>
        rw [hc, List.cons_append] at hs
        by_cases hmark : c ∈ [')', '|', '(']
        · simp only [List.mem_cons, List.not_mem_nil, or_false] at hmark
          rcases hmark with rfl | rfl | rfl
          · rw [groupText_of_close hc, groupText_of_close hs]
            exact carries_some
          · rw [groupText_of_bar hc, groupText_of_bar hs]
            exact ih _ _ rest
          · rw [groupText_of_open hc, groupText_of_open hs]
            exact (readOpening_carries _ rest).bind (afterOpening_carries ih)
              (afterOpening_nil limit' _ _)
        · rw [groupText_of_other hc hmark, groupText_of_other hs hmark]
          split
          · exact afterRepeated_carries ih (c :: rest)
          · exact (readAtom_carries _ (c :: rest)).bind (fun _ left => ih _ _ left)
              fun _ => groupText_nil limit' _ _
    · rw [groupText_of_nil hs]
      exact spilled_nil.carries

end

/-! ### Anchors -/

theorem toList_anchored (source : String) :
    (anchored source).toList = "^(?:".toList ++ (source.toList ++ closing) := by
  simp [anchored, closing]

theorem Expr.read_eq_some {source : String} {e : Expr} (h : Expr.read source = some e) :
    ∃ names, groupText (source.toList.length + 1) {} {} source.toList = some ((e, names), []) := by
  unfold Expr.read at h
  dsimp only at h
  split at h
  next e' names hread =>
    split at h
    · cases h
      exact ⟨names, groupText_eq_some_iff.mpr hread⟩
    · cases h
  · cases h

/-- Nothing stands between the anchors but what is read as a group. -/
theorem groupText_anchored (limit : Nat) (cs : List Char) :
    groupText (limit + 2) {} {} ("^(?:".toList ++ cs) =
      (groupText limit {} {} cs).bind fun p =>
        afterGroup limit {} { parts := [.assertion .lineStart] } (.group []) p.1.1 p.1.2 p.2 := by
  have hstart : skipSpace false ("^(?:".toList ++ cs) = '^' :: ("(?:".toList ++ cs) := by
    simp [skipSpace]
  have hopen : skipSpace false ("(?:".toList ++ cs) = '(' :: ("?:".toList ++ cs) := by
    simp [skipSpace]
  have hopening : readOpening false ("?:".toList ++ cs) = some (.group [], cs) := by
    rw [readOpening_eq]
    simp [skipSpace, opening, looksAround, named, Text.afterPrefix, unnamed, readFlags, openingOf,
      List.isPrefixOf]
  rw [groupText_of_other hstart (by decide), if_neg (by decide), readAtom, Option.bind_some]
  refine (groupText_of_open hopen).trans ?_
  rw [hopening, Option.bind_some]
  rfl

theorem groupText_lineEnd (limit : Nat) (st : State) (e e' : Expr) :
    groupText (limit + 2) { ignoreSpace := false, names := st.names } { parts := [e', e] } ['$'] =
      some ((.concat [e, e', .assertion .lineEnd], st.names), []) := by
  have hdollar : skipSpace false ['$'] = ['$'] := by simp [skipSpace]
  have hnil : skipSpace false [] = [] := by simp [skipSpace]
  rw [groupText_of_other hdollar (by decide), if_neg (by decide), readAtom, Option.bind_some]
  exact groupText_of_nil hnil

/-- **Between its anchors** a pattern is the same group as alone, if it can be read both
ways. -/
theorem Expr.read_anchored {source : String} {e e' : Expr} (h : Expr.read source = some e)
    (h' : Expr.read (anchored source) = some e') :
    e' = .concat [.assertion .lineStart, .group [] e, .assertion .lineEnd] := by
  obtain ⟨names, hread⟩ := Expr.read_eq_some h
  obtain ⟨names', hread'⟩ := Expr.read_eq_some h'
  have hlen : (anchored source).toList.length + 1 = source.toList.length + 5 + 2 := by
    simp [toList_anchored, closing]
  rw [hlen, toList_anchored, groupText_anchored] at hread'
  obtain ⟨⟨⟨e₁, names₁⟩, rest⟩, hgroup, hafter⟩ := Option.bind_eq_some_iff.mp hread'
  have hlimit : source.toList.length + 1 ≤ source.toList.length + 5 := by omega
  rcases groupText_carries hlimit {} {} source.toList _ _ hread with heq | hspilled
  · rw [heq] at hgroup
    obtain ⟨⟨rfl, rfl⟩, rfl⟩ : (e = e₁ ∧ names = names₁) ∧ [] ++ closing = rest := by
      simpa using hgroup
    have hend := groupText_lineEnd (source.toList.length + 3) { names } (.assertion .lineStart)
      (.group [] e)
    have hboth := hafter.symm.trans hend
    exact (Prod.mk.inj (Prod.mk.inj (Option.some.inj hboth)).1).1
  · -- The group would not be closed.
    obtain rfl := hspilled _ _ hgroup
    cases hafter

end Ambient.Pattern

/-
Texts of JSON, as they may be written.

A value can be written in many ways: with blanks between its parts, with escapes in its
strings, with any number of digits.  `Phrase` is a value together with all of these
choices, so that every text of the grammar is `Phrase.text` of one of them.  Not all of
them have a meaning: an escape can be half of a surrogate pair, and a number can be
beyond what is read.

* `Blanks`, `Stops` — blanks, which readers pass over, and what may follow a number;
* `Spelling`, `spelled`, `meaning` — the characters of a string;
* `NumberText` — a number with its digits, and `scan_text`: its numeral is what a scan finds;
* `Phrase`, with its `text`, its `depth` and its `value?`.
-/
import Mathlib.Data.List.Forall2
import Ambient.Json.Value

namespace Ambient.Json

/-- The rest of a reader is run on what was read. -/
theorem ok_bind {ε α β : Type} (a : α) (f : α → Except ε β) : (Except.ok a >>= f) = f a :=
  rfl

theorem forall₂_imp_of_mem {α β : Type} {R S : α → β → Prop} {as : List α} {bs : List β}
    (h : List.Forall₂ R as bs) (himp : ∀ a ∈ as, ∀ b, R a b → S a b) : List.Forall₂ S as bs :=
  ((List.forall₂_and_left _ _).mpr ⟨fun _ ha => ha, h⟩).imp fun a b hab => himp a hab.1 b hab.2

theorem exists_of_mem_left {α β : Type} {R : α → β → Prop} {as : List α} {bs : List β}
    (h : List.Forall₂ R as bs) {a : α} (ha : a ∈ as) : ∃ b ∈ bs, R a b := by
  induction h with
  | nil => cases ha
  | @cons a' b as bs hab _ ih =>
    rcases List.mem_cons.mp ha with rfl | ha
    · exact ⟨b, List.mem_cons_self, hab⟩
    · obtain ⟨b, hb, hab⟩ := ih ha
      exact ⟨b, List.mem_cons_of_mem _ hb, hab⟩

theorem exists_of_mem_right {α β : Type} {R : α → β → Prop} {as : List α} {bs : List β}
    (h : List.Forall₂ R as bs) {b : β} (hb : b ∈ bs) : ∃ a ∈ as, R a b :=
  exists_of_mem_left h.flip hb

/-! ### Between the parts -/

/-- Any number of blanks. -/
abbrev Blanks := { cs : List Char // ∀ c ∈ cs, isBlank c }

/-- No blanks. -/
instance : Inhabited Blanks := ⟨⟨[], by simp⟩⟩

theorem skipBlank_append (b : Blanks) (cs : List Char) : skipBlank (b.1 ++ cs) = skipBlank cs := by
  obtain ⟨b, hb⟩ := b
  induction b with
  | nil => rfl
  | cons c b ih =>
    obtain ⟨hc, hb⟩ := List.forall_mem_cons.mp hb
    rw [List.cons_append, skipBlank, List.dropWhile_cons_of_pos hc]
    exact ih hb

theorem skipBlank_cons {c : Char} {cs : List Char} (h : isBlank c = false) :
    skipBlank (c :: cs) = c :: cs :=
  List.dropWhile_cons_of_neg (by simp [h])

theorem skipBlank_append_cons (b : Blanks) {c : Char} (cs : List Char) (h : isBlank c = false) :
    skipBlank (b.1 ++ c :: cs) = c :: cs := by
  rw [skipBlank_append, skipBlank_cons h]

/-- A number that stands before this text is over. -/
def Stops (cs : List Char) : Prop :=
  ∀ c ∈ cs.head?, isBlank c ∨ c = ',' ∨ c = ']' ∨ c = '}'

theorem stops_nil : Stops [] := by
  intro c hc
  cases hc

theorem stops_cons {c : Char} {cs : List Char} :
    Stops (c :: cs) ↔ isBlank c ∨ c = ',' ∨ c = ']' ∨ c = '}' := by
  simp [Stops]

theorem Stops.append_of_blanks (b : Blanks) {cs : List Char} (h : Stops cs) :
    Stops (b.1 ++ cs) := by
  obtain ⟨b, hb⟩ := b
  cases b with
  | nil => exact h
  | cons c b => exact stops_cons.mpr (.inl (hb c List.mem_cons_self))

/-! ### Blanks before what is read -/

theorem nextElement_append (b : Blanks) (isFirst : Bool) (cs : List Char) :
    nextElement isFirst (b.1 ++ cs) = nextElement isFirst cs := by
  rw [nextElement, nextElement, skipBlank_append]

theorem nextKey_append (b : Blanks) (isFirst : Bool) (cs : List Char) :
    nextKey isFirst (b.1 ++ cs) = nextKey isFirst cs := by
  rw [nextKey, nextKey, skipBlank_append]

theorem Value.read_append (depth : Nat) (b : Blanks) (cs : List Char) :
    read depth (b.1 ++ cs) = read depth cs := by
  rw [read, read, skipBlank_append]

theorem skipValue_append (n : Nat) (stack : List IsObject) (b : Blanks) (cs : List Char) :
    skipValue n stack (b.1 ++ cs) = skipValue n stack cs := by
  cases n with
  | zero => rfl
  | succ n => rw [skipValue, skipValue, skipBlank_append]

theorem skipRest_append (n : Nat) (isObject : IsObject) (stack : List IsObject) (afterValue : Bool)
    (b : Blanks) (cs : List Char) :
    skipRest n (isObject :: stack) afterValue (b.1 ++ cs) =
      skipRest n (isObject :: stack) afterValue cs := by
  cases n with
  | zero => rfl
  | succ n => rw [skipRest, skipRest, skipBlank_append]

/-! ### Strings -/

/-- A hexadecimal digit, as it is written. -/
structure HexDigit where
  char : Char
  value : Nat
  value_eq : hexDigit? char = some value

/-- How a part of a string is written. -/
inductive Spelling where
  /-- A character as itself. -/
  | plain (c : Char) (h : c ≠ '"' ∧ c ≠ '\\' ∧ 0x20 ≤ c.toNat)
  /-- A backslash and a letter. -/
  | letter (l c : Char) (h : escapedChar? l = some c)
  /-- A backslash and a number. -/
  | number (a b c d : HexDigit)

/-- The text of a part. -/
def Spelling.text : Spelling → List Char
  | .plain c _ => [c]
  | .letter l _ _ => ['\\', l]
  | .number a b c d => ['\\', 'u', a.char, b.char, c.char, d.char]

/-- The number that four digits write. -/
def codeOf (a b c d : HexDigit) : Nat :=
  ((a.value * 16 + b.value) * 16 + c.value) * 16 + d.value

/-- The text between the marks of a string. -/
def spelled (ps : List Spelling) : List Char :=
  ps.flatMap Spelling.text

/-- The characters that are written.  Half of a surrogate pair has to stand next to the
other half. -/
def meaning : List Spelling → Option (List Char)
  | [] => some []
  | .plain c _ :: ps => (meaning ps).map (c :: ·)
  | .letter _ c _ :: ps => (meaning ps).map (c :: ·)
  | .number a b c d :: ps =>
    if isTrailing (codeOf a b c d) then none
    else if isLeading (codeOf a b c d) then
      match ps with
      | .number e f g h :: ps =>
        if isTrailing (codeOf e f g h) then
          (meaning ps).map (Char.ofNat
            (0x10000 + (codeOf a b c d - 0xD800) * 0x400 + (codeOf e f g h - 0xDC00)) :: ·)
        else none
      | _ => none
    else (meaning ps).map (Char.ofNat (codeOf a b c d) :: ·)

theorem hexCode_text (a b c d : HexDigit) (cs : List Char) :
    hexCode (a.char :: b.char :: c.char :: d.char :: cs) = .ok (codeOf a b c d, cs) := by
  rw [hexCode, a.value_eq, b.value_eq, c.value_eq, d.value_eq]
  rfl

theorem escape_letter {l c : Char} (h : escapedChar? l = some c) (cs : List Char) :
    escape (l :: cs) = .ok (c, cs) := by
  have hu : l ≠ 'u' := by
    rintro rfl
    cases h
  rw [escape, if_neg hu, h]

theorem escape_number {a b c d : HexDigit} (htrailing : ¬isTrailing (codeOf a b c d))
    (hleading : ¬isLeading (codeOf a b c d)) (cs : List Char) :
    escape ('u' :: a.char :: b.char :: c.char :: d.char :: cs) =
      .ok (Char.ofNat (codeOf a b c d), cs) := by
  rw [escape, if_pos rfl, escapeByNumber, hexCode_text]
  simp only
  rw [if_neg htrailing, if_neg hleading]

theorem escape_pair {a b c d e f g h : HexDigit} (hleading : isLeading (codeOf a b c d))
    (hpair : isTrailing (codeOf e f g h)) (cs : List Char) :
    escape ('u' :: a.char :: b.char :: c.char :: d.char ::
        '\\' :: 'u' :: e.char :: f.char :: g.char :: h.char :: cs) =
      .ok (Char.ofNat
        (0x10000 + (codeOf a b c d - 0xD800) * 0x400 + (codeOf e f g h - 0xDC00)), cs) := by
  have htrailing : ¬isTrailing (codeOf a b c d) := by
    intro htrailing
    simp only [isLeading, isTrailing, Bool.and_eq_true, decide_eq_true_eq] at hleading htrailing
    omega
  have hsecond : secondHalf
      ('\\' :: 'u' :: e.char :: f.char :: g.char :: h.char :: cs) = .ok (codeOf e f g h, cs) := by
    have htake : ('\\' :: 'u' :: e.char :: f.char :: g.char :: h.char :: cs).take 2 = ['\\', 'u'] :=
      rfl
    rw [secondHalf, if_pos htake]
    exact hexCode_text e f g h cs
  rw [escape, if_pos rfl, escapeByNumber, hexCode_text]
  simp only
  rw [if_neg htrailing, if_pos hleading, hsecond]
  simp only
  rw [if_pos hpair]

theorem stringBody_close (cs : List Char) : stringBody ('"' :: cs) = .ok ([], cs) := by
  rw [stringBody, if_pos rfl]

theorem stringBody_plain {c : Char} (h : c ≠ '"' ∧ c ≠ '\\' ∧ 0x20 ≤ c.toNat)
    {cs body rest : List Char} (hbody : stringBody cs = .ok (body, rest)) :
    stringBody (c :: cs) = .ok (c :: body, rest) := by
  rw [stringBody, if_neg h.1, if_neg h.2.1, if_neg (Nat.not_lt.mpr h.2.2), hbody]

theorem stringBody_escape {cs ds body rest : List Char} {c : Char} (h : escape cs = .ok (c, ds))
    (hbody : stringBody ds = .ok (body, rest)) :
    stringBody ('\\' :: cs) = .ok (c :: body, rest) := by
  rw [stringBody, if_neg (by decide), if_pos rfl]
  split
  next e he => cases h.symm.trans he
  next d ds' hd =>
    obtain ⟨rfl, rfl⟩ := Prod.mk.inj (Except.ok.inj (h.symm.trans hd))
    rw [hbody]

theorem skipString_escape {cs ds rest : List Char} (h : skipEscape cs = .ok ds)
    (hds : skipString ds = .ok rest) : skipString ('\\' :: cs) = .ok rest := by
  rw [skipString, if_neg (by decide), if_pos rfl]
  split
  next e he => cases h.symm.trans he
  next ds' hd =>
    obtain rfl := Except.ok.inj (h.symm.trans hd)
    exact hds

/-- A string is read as the characters that are written. -/
theorem stringBody_spelled {ps : List Spelling} {cs : List Char} (h : meaning ps = some cs)
    (rest : List Char) : stringBody (spelled ps ++ '"' :: rest) = .ok (cs, rest) := by
  fun_induction meaning ps generalizing cs with
  | case1 =>
    cases h
    exact stringBody_close rest
  | case2 c hc ps ih =>
    obtain ⟨ds, hds, rfl⟩ := Option.map_eq_some_iff.mp h
    exact stringBody_plain hc (ih hds)
  | case3 l c hl ps ih =>
    obtain ⟨ds, hds, rfl⟩ := Option.map_eq_some_iff.mp h
    exact stringBody_escape (escape_letter hl _) (ih hds)
  | case4 a b c d ps htrailing => cases h
  | case5 a b c d htrailing hleading e f g i ps hpair ih =>
    obtain ⟨ds, hds, rfl⟩ := Option.map_eq_some_iff.mp h
    exact stringBody_escape (escape_pair hleading hpair _) (ih hds)
  | case6 a b c d htrailing hleading e f g i ps hpair => cases h
  | case7 a b c d ps htrailing hleading hps => cases h
  | case8 a b c d ps htrailing hleading ih =>
    obtain ⟨ds, hds, rfl⟩ := Option.map_eq_some_iff.mp h
    exact stringBody_escape (escape_number htrailing hleading _) (ih hds)

/-- A string is passed over whether it has a meaning or not. -/
theorem skipString_spelled (ps : List Spelling) (rest : List Char) :
    skipString (spelled ps ++ '"' :: rest) = .ok rest := by
  induction ps with
  | nil => rw [spelled, List.flatMap_nil, List.nil_append, skipString, if_pos rfl]
  | cons p ps ih =>
    rw [spelled, List.flatMap_cons, List.append_assoc]
    cases p with
    | plain c h =>
      rw [Spelling.text, List.singleton_append, skipString, if_neg h.1, if_neg h.2.1,
        if_neg (Nat.not_lt.mpr h.2.2)]
      exact ih
    | letter l c h =>
      have hl : l ≠ 'u' := by
        rintro rfl
        cases h
      have hskip : skipEscape (l :: (spelled ps ++ '"' :: rest)) =
          .ok (spelled ps ++ '"' :: rest) := by
        rw [skipEscape, if_neg hl, h]
        rfl
      exact skipString_escape hskip ih
    | number a b c d =>
      have hskip : skipEscape
          ('u' :: a.char :: b.char :: c.char :: d.char :: (spelled ps ++ '"' :: rest)) =
          .ok (spelled ps ++ '"' :: rest) := by
        rw [skipEscape, if_pos rfl, hexCode_text]
      exact skipString_escape hskip ih

/-! ### Numbers -/

/-- Digits, of which there is one at least. -/
abbrev SomeDigits := { ds : List (Fin 10) // ds ≠ [] }

/-- The text of digits. -/
def digitText (ds : List (Fin 10)) : List Char :=
  ds.map fun d => Nat.digitChar d.val

/-- An exponent, as it is written. -/
structure ExponentText where
  mark : Char
  mark_eq : mark = 'e' ∨ mark = 'E'
  /-- Whether the sign that stands there is that of a negative number. -/
  sign : Option Bool
  digits : SomeDigits

/-- A number, as it is written. -/
structure NumberText where
  isNegative : Bool
  whole : SomeDigits
  /-- No other digit follows a zero. -/
  whole_leading : whole.1.head? = some 0 → whole.1 = [0]
  fraction : Option SomeDigits
  exponent : Option ExponentText

/-- The text of an exponent. -/
def ExponentText.text (e : ExponentText) : List Char :=
  e.mark :: ((match e.sign with | none => [] | some true => ['-'] | some false => ['+']) ++
    digitText e.digits.1)

/-- The point and what follows it. -/
def fractionText : Option SomeDigits → List Char
  | none => []
  | some ds => '.' :: digitText ds.1

/-- The exponent, if there is one. -/
def exponentText : Option ExponentText → List Char
  | none => []
  | some e => e.text

namespace NumberText

/-- The text of a number. -/
def text (n : NumberText) : List Char :=
  (if n.isNegative then ['-'] else []) ++
    (digitText n.whole.1 ++ (fractionText n.fraction ++ exponentText n.exponent))

/-- The parts of a number, as a scan finds them. -/
def numeral (n : NumberText) : Numeral where
  isNegative := n.isNegative
  whole := n.whole.1.map Fin.val
  fraction := (n.fraction.map (·.1.map Fin.val)).getD []
  hasFraction := n.fraction.isSome
  exponent := (n.exponent.map (·.digits.1.map Fin.val)).getD []
  exponentIsNegative := n.exponent.any (·.sign = some true)

end NumberText

/-- No digit follows. -/
def NoDigit (cs : List Char) : Prop :=
  ∀ c ∈ cs.head?, c.isDigit = false

theorem ne_of_isStop {c : Char} (h : isBlank c ∨ c = ',' ∨ c = ']' ∨ c = '}') :
    c.isDigit = false ∧ c ≠ '.' ∧ c ≠ 'e' ∧ c ≠ 'E' := by
  simp only [isBlank, Bool.or_eq_true, decide_eq_true_eq] at h
  rcases h with (((rfl | rfl) | rfl) | rfl) | rfl | rfl | rfl <;> decide

theorem Stops.noDigit {cs : List Char} (h : Stops cs) : NoDigit cs := fun c hc =>
  (ne_of_isStop (h c hc)).1

namespace Numeral

theorem digit?_digitChar (d : Fin 10) : digit? (Nat.digitChar d.val) = some d.val := by
  revert d
  decide

theorem digitChar_ne_sign (d : Fin 10) : Nat.digitChar d.val ≠ '+' ∧ Nat.digitChar d.val ≠ '-' := by
  revert d
  decide

theorem digits_digitText (ds : List (Fin 10)) {rest : List Char} (h : NoDigit rest) :
    digits (digitText ds ++ rest) = (ds.map Fin.val, rest) := by
  induction ds with
  | nil =>
    cases rest with
    | nil => rfl
    | cons c rest =>
      have hc : digit? c = none := by
        have hdigit : c.isDigit = false := h c rfl
        rw [digit?, hdigit]
        rfl
      rw [digitText, List.map_nil, List.nil_append, digits, hc]
      rfl
  | cons d ds ih =>
    rw [digitText] at ih
    rw [digitText, List.map_cons, List.cons_append, digits, digit?_digitChar]
    simp only [ih, List.map_cons]

theorem someDigits_digitText (ds : SomeDigits) {rest : List Char} (h : NoDigit rest) :
    someDigits (digitText ds.1 ++ rest) = .ok (ds.1.map Fin.val, rest) := by
  obtain ⟨ds, hds⟩ := ds
  obtain ⟨d, ds, rfl⟩ := List.exists_cons_of_ne_nil hds
  have hdigits := digits_digitText (d :: ds) h
  rw [digitText, List.map_cons, List.cons_append] at hdigits
  simp only [digitText, List.map_cons, List.cons_append, someDigits, hdigits]

theorem scanWhole_digitText {ds : SomeDigits} (hds : ds.1.head? = some 0 → ds.1 = [0])
    {rest : List Char} (h : NoDigit rest) :
    scanWhole (digitText ds.1 ++ rest) = .ok (ds.1.map Fin.val, rest) := by
  rw [scanWhole, someDigits_digitText ds h, ok_bind]
  split
  next e _ _ hzero =>
    obtain ⟨ds, hne⟩ := ds
    obtain ⟨d, ds, rfl⟩ := List.exists_cons_of_ne_nil hne
    obtain ⟨hd, hds'⟩ := List.cons.inj (Prod.mk.inj hzero).1
    obtain rfl : d = 0 := Fin.ext hd
    cases hds rfl
    cases hds'
  next => rfl

theorem noDigit_exponentText (e : Option ExponentText) {rest : List Char} (h : Stops rest) :
    NoDigit (exponentText e ++ rest) := by
  cases e with
  | none => exact h.noDigit
  | some e =>
    rintro c ⟨⟩
    rcases e.mark_eq with he | he <;> rw [he] <;> rfl

theorem noDigit_fractionText (ds : Option SomeDigits) {rest : List Char} (h : NoDigit rest) :
    NoDigit (fractionText ds ++ rest) := by
  cases ds with
  | none => exact h
  | some ds =>
    rintro c ⟨⟩
    rfl

theorem scanFraction_fractionText (n : Numeral) (ds : Option SomeDigits) {rest : List Char}
    (h : NoDigit rest) (hpoint : rest.head? ≠ some '.') :
    scanFraction n (fractionText ds ++ rest) = .ok
      (match ds with
       | none => n
       | some ds => { n with fraction := ds.1.map Fin.val, hasFraction := true }, rest) := by
  cases ds with
  | none =>
    change scanFraction n rest = _
    unfold scanFraction
    split
    next => exact absurd rfl hpoint
    next => rfl
  | some ds =>
    rw [fractionText, List.cons_append, scanFraction, someDigits_digitText ds h, ok_bind]
    rfl

theorem scanExponent_exponentText (n : Numeral) (e : Option ExponentText) {rest : List Char}
    (h : Stops rest) :
    scanExponent n (exponentText e ++ rest) = .ok
      (match e with
       | none => n
       | some e =>
         { n with
           exponent := e.digits.1.map Fin.val
           exponentIsNegative := e.sign = some true }, rest) := by
  cases e with
  | none =>
    change scanExponent n rest = _
    unfold scanExponent
    split
    next cs => exact absurd rfl (ne_of_isStop (h 'e' rfl)).2.2.1
    next cs => exact absurd rfl (ne_of_isStop (h 'E' rfl)).2.2.2
    next => rfl
  | some e =>
    obtain ⟨mark, hmark, sign, ds⟩ := e
    have hdigits := someDigits_digitText ds h.noDigit
    -- A digit is no sign, so that without one the digits follow at once.
    have hsign : ∀ c cs, digitText ds.1 ++ rest = c :: cs → c ≠ '+' ∧ c ≠ '-' := by
      obtain ⟨ds, hne⟩ := ds
      obtain ⟨d, ds, rfl⟩ := List.exists_cons_of_ne_nil hne
      rintro c cs heq
      rw [← (List.cons.inj heq).1]
      exact digitChar_ne_sign d
    have hplus : ∀ cs, digitText ds.1 ++ rest = '+' :: cs → False := fun cs heq =>
      (hsign '+' cs heq).1 rfl
    have hminus : ∀ cs, digitText ds.1 ++ rest = '-' :: cs → False := fun cs heq =>
      (hsign '-' cs heq).2 rfl
    rcases hmark with rfl | rfl <;> rcases sign with _ | _ | _
    all_goals
      simp only [exponentText, ExponentText.text, List.nil_append, List.cons_append, scanExponent,
        hdigits, ok_bind]
      rfl

/-- A number is scanned as its parts. -/
theorem scan_text (n : NumberText) {rest : List Char} (h : Stops rest) :
    scan (n.text ++ rest) = .ok (n.numeral, rest) := by
  obtain ⟨isNegative, whole, hwhole, fraction, exponent⟩ := n
  have hexponent : NoDigit (exponentText exponent ++ rest) := noDigit_exponentText exponent h
  have hpoint : (exponentText exponent ++ rest).head? ≠ some '.' := by
    intro hhead
    cases exponent with
    | none => exact (ne_of_isStop (h '.' hhead)).2.1 rfl
    | some e =>
      have hmark : e.mark = '.' := Option.some.inj hhead
      rcases e.mark_eq with he | he <;> cases he.symm.trans hmark
  have hfraction : NoDigit (fractionText fraction ++ (exponentText exponent ++ rest)) :=
    noDigit_fractionText fraction hexponent
  have hminus : ∀ cs, digitText whole.1 ++
      (fractionText fraction ++ (exponentText exponent ++ rest)) = '-' :: cs → False := by
    obtain ⟨ds, hne⟩ := whole
    obtain ⟨d, ds, rfl⟩ := List.exists_cons_of_ne_nil hne
    exact fun cs heq => (digitChar_ne_sign d).2 (List.cons.inj heq).1
  cases isNegative
  all_goals
    simp only [NumberText.text, if_true, if_false, Bool.false_eq_true, List.nil_append,
      List.cons_append, List.append_assoc, scan, scanWhole_digitText hwhole hfraction,
      scanFraction_fractionText _ fraction hexponent hpoint, scanExponent_exponentText _ exponent h,
      ok_bind]
    cases fraction <;> cases exponent <;> rfl

end Numeral

/-! ### Values -/

mutual

/-- A value, with all that is chosen in writing it. -/
inductive Phrase where
  | null
  | boolean (b : Bool)
  | number (n : NumberText)
  | string (ps : List Spelling)
  /-- Blanks may stand between the brackets of an empty array. -/
  | array (inner : Blanks) (es : List Element)
  | object (inner : Blanks) (es : List Entry)

/-- An element of an array, or what stands after the colon of an entry. -/
structure Element where
  before : Blanks
  value : Phrase
  after : Blanks

/-- An entry of an object. -/
structure Entry where
  before : Blanks
  key : List Spelling
  beforeColon : Blanks
  element : Element

end

namespace Phrase

mutual

/-- The text of a value. -/
def text : Phrase → List Char
  | .null => "null".toList
  | .boolean b => (if b then "true" else "false").toList
  | .number n => n.text
  | .string ps => '"' :: (spelled ps ++ ['"'])
  | .array inner es => '[' :: (inner.1 ++ ([','].intercalate (elementTexts es) ++ [']']))
  | .object inner es => '{' :: (inner.1 ++ ([','].intercalate (entryTexts es) ++ ['}']))

/-- The text of an element. -/
def elementText : Element → List Char
  | ⟨before, value, after⟩ => before.1 ++ (text value ++ after.1)

/-- The texts of several elements. -/
def elementTexts : List Element → List (List Char)
  | [] => []
  | e :: es => elementText e :: elementTexts es

/-- The text of an entry. -/
def entryText : Entry → List Char
  | ⟨before, key, beforeColon, element⟩ =>
    before.1 ++ '"' :: (spelled key ++ '"' :: (beforeColon.1 ++ ':' :: elementText element))

/-- The texts of several entries. -/
def entryTexts : List Entry → List (List Char)
  | [] => []
  | e :: es => entryText e :: entryTexts es

end

mutual

/-- How deep the brackets nest. -/
def depth : Phrase → Nat
  | .array _ es => elementsDepth es + 1
  | .object _ es => entriesDepth es + 1
  | _ => 0

/-- How deep the brackets of the elements nest. -/
def elementsDepth : List Element → Nat
  | [] => 0
  | ⟨_, value, _⟩ :: es => max value.depth (elementsDepth es)

/-- How deep the brackets of the entries nest. -/
def entriesDepth : List Entry → Nat
  | [] => 0
  | ⟨_, _, _, ⟨_, value, _⟩⟩ :: es => max value.depth (entriesDepth es)

end

mutual

/-- The value that is written, if it has a meaning. -/
def value? : Phrase → Option Value
  | .null => some .null
  | .boolean b => some (.boolean b)
  | .number n => n.numeral.value.map .number
  | .string ps => (meaning ps).map fun cs => .string (String.ofList cs)
  | .array _ es => (elementValues? es).map .array
  | .object _ es => (entryValues? es).map .object

/-- The values of the elements. -/
def elementValues? : List Element → Option (List Value)
  | [] => some []
  | ⟨_, value, _⟩ :: es => do return (← value.value?) :: (← elementValues? es)

/-- The keys and the values of the entries. -/
def entryValues? : List Entry → Option (List (String × Value))
  | [] => some []
  | ⟨_, key, _, ⟨_, value, _⟩⟩ :: es => do
    return (String.ofList (← meaning key), ← value.value?) :: (← entryValues? es)

end

theorem elementTexts_eq_map (es : List Element) : elementTexts es = es.map elementText := by
  induction es with
  | nil => rfl
  | cons e es ih => rw [elementTexts, ih, List.map_cons]

theorem entryTexts_eq_map (es : List Entry) : entryTexts es = es.map entryText := by
  induction es with
  | nil => rfl
  | cons e es ih => rw [entryTexts, ih, List.map_cons]

/-- The text of an array after its opening bracket, with what follows. -/
def arrayRest (inner : Blanks) (es : List Element) (rest : List Char) : List Char :=
  inner.1 ++ ([','].intercalate (elementTexts es) ++ ']' :: rest)

/-- The text of an object after its opening brace, with what follows. -/
def objectRest (inner : Blanks) (es : List Entry) (rest : List Char) : List Char :=
  inner.1 ++ ([','].intercalate (entryTexts es) ++ '}' :: rest)

theorem text_array_append (inner : Blanks) (es : List Element) (rest : List Char) :
    (array inner es).text ++ rest = '[' :: arrayRest inner es rest := by
  simp [text, arrayRest]

theorem text_object_append (inner : Blanks) (es : List Entry) (rest : List Char) :
    (object inner es).text ++ rest = '{' :: objectRest inner es rest := by
  simp [text, objectRest]

theorem elementsDepth_le_iff {es : List Element} {n : Nat} :
    elementsDepth es ≤ n ↔ ∀ e ∈ es, e.value.depth ≤ n := by
  induction es with
  | nil => simp [elementsDepth]
  | cons e es ih =>
    obtain ⟨before, value, after⟩ := e
    rw [elementsDepth, Nat.max_le, ih, List.forall_mem_cons]

theorem entriesDepth_le_iff {es : List Entry} {n : Nat} :
    entriesDepth es ≤ n ↔ ∀ e ∈ es, e.element.value.depth ≤ n := by
  induction es with
  | nil => simp [entriesDepth]
  | cons e es ih =>
    obtain ⟨before, key, beforeColon, ⟨before', value, after⟩⟩ := e
    rw [entriesDepth, Nat.max_le, ih, List.forall_mem_cons]

theorem exists_of_depth_array_le {inner : Blanks} {es : List Element} {n : Nat}
    (h : (array inner es).depth ≤ n) : ∃ m, n = m + 1 ∧ ∀ e ∈ es, e.value.depth ≤ m := by
  have hpos : 0 < n := Nat.lt_of_lt_of_le (Nat.succ_pos _) h
  obtain ⟨m, rfl⟩ := Nat.exists_eq_add_one_of_ne_zero (Nat.ne_of_gt hpos)
  exact ⟨m, rfl, elementsDepth_le_iff.mp (Nat.le_of_succ_le_succ h)⟩

theorem exists_of_depth_object_le {inner : Blanks} {es : List Entry} {n : Nat}
    (h : (object inner es).depth ≤ n) : ∃ m, n = m + 1 ∧ ∀ e ∈ es, e.element.value.depth ≤ m := by
  have hpos : 0 < n := Nat.lt_of_lt_of_le (Nat.succ_pos _) h
  obtain ⟨m, rfl⟩ := Nat.exists_eq_add_one_of_ne_zero (Nat.ne_of_gt hpos)
  exact ⟨m, rfl, entriesDepth_le_iff.mp (Nat.le_of_succ_le_succ h)⟩

/-- The values one level inside. -/
def parts : Phrase → List Phrase
  | .array _ es => es.map (·.value)
  | .object _ es => es.map (·.element.value)
  | _ => []

mutual

private theorem phraseStep {P : Phrase → Prop} (step : ∀ s, (∀ t ∈ s.parts, P t) → P s) :
    (s : Phrase) → P s
  | .array inner es => step (.array inner es) (elementsStep step es)
  | .object inner es => step (.object inner es) (entriesStep step es)
  | .null => step .null fun _ h => absurd h List.not_mem_nil
  | .boolean b => step (.boolean b) fun _ h => absurd h List.not_mem_nil
  | .number n => step (.number n) fun _ h => absurd h List.not_mem_nil
  | .string ps => step (.string ps) fun _ h => absurd h List.not_mem_nil

private theorem elementsStep {P : Phrase → Prop} (step : ∀ s, (∀ t ∈ s.parts, P t) → P s) :
    (es : List Element) → ∀ t ∈ es.map (·.value), P t
  | [], _, h => absurd h List.not_mem_nil
  | ⟨_, value, _⟩ :: es, t, h => by
    rcases List.mem_cons.mp h with ht | h
    · rw [ht]
      exact phraseStep step value
    · exact elementsStep step es t h

private theorem entriesStep {P : Phrase → Prop} (step : ∀ s, (∀ t ∈ s.parts, P t) → P s) :
    (es : List Entry) → ∀ t ∈ es.map (·.element.value), P t
  | [], _, h => absurd h List.not_mem_nil
  | ⟨_, _, _, ⟨_, value, _⟩⟩ :: es, t, h => by
    rcases List.mem_cons.mp h with ht | h
    · rw [ht]
      exact phraseStep step value
    · exact entriesStep step es t h

end

/-- Induction on how deep the brackets nest. -/
theorem induction {P : Phrase → Prop} (step : ∀ s, (∀ t ∈ s.parts, P t) → P s) (s : Phrase) : P s :=
  phraseStep step s

end Phrase

/-- The key of an entry, if it has a meaning. -/
def Entry.name? (e : Entry) : Option String :=
  (meaning e.key).map String.ofList

namespace Phrase

theorem forall₂_of_elementValues? {es : List Element} {vs : List Value}
    (h : elementValues? es = some vs) :
    List.Forall₂ (fun e v => e.value.value? = some v) es vs := by
  induction es generalizing vs with
  | nil =>
    cases h
    exact .nil
  | cons e es ih =>
    obtain ⟨before, value, after⟩ := e
    obtain ⟨v, hv, h⟩ := Option.bind_eq_some_iff.mp h
    obtain ⟨vs, hvs, h⟩ := Option.bind_eq_some_iff.mp h
    cases h
    exact .cons hv (ih hvs)

theorem forall₂_of_entryValues? {es : List Entry} {kvs : List (String × Value)}
    (h : entryValues? es = some kvs) :
    List.Forall₂ (fun e kv => e.name? = some kv.1 ∧ e.element.value.value? = some kv.2) es kvs := by
  induction es generalizing kvs with
  | nil =>
    cases h
    exact .nil
  | cons e es ih =>
    obtain ⟨before, key, beforeColon, ⟨before', value, after⟩⟩ := e
    obtain ⟨chars, hchars, h⟩ := Option.bind_eq_some_iff.mp h
    obtain ⟨v, hv, h⟩ := Option.bind_eq_some_iff.mp h
    obtain ⟨kvs, hkvs, h⟩ := Option.bind_eq_some_iff.mp h
    cases h
    exact .cons ⟨Option.map_eq_some_iff.mpr ⟨chars, hchars, rfl⟩, hv⟩ (ih hkvs)

end Phrase

theorem exists_entryValues? {es : List Entry} (hnames : ∀ e ∈ es, e.name?.isSome)
    (hvalues : ∀ e ∈ es, e.element.value.value?.isSome) :
    ∃ kvs, Phrase.entryValues? es = some kvs := by
  induction es with
  | nil => exact ⟨[], rfl⟩
  | cons e es ih =>
    obtain ⟨hname, hnames⟩ := List.forall_mem_cons.mp hnames
    obtain ⟨hvalue, hvalues⟩ := List.forall_mem_cons.mp hvalues
    obtain ⟨kvs, hkvs⟩ := ih hnames hvalues
    obtain ⟨before, key, beforeColon, ⟨before', value, after⟩⟩ := e
    rw [Entry.name?, Option.isSome_map] at hname
    obtain ⟨chars, hchars⟩ := Option.isSome_iff_exists.mp hname
    obtain ⟨v, hv⟩ := Option.isSome_iff_exists.mp hvalue
    refine ⟨(String.ofList chars, v) :: kvs, ?_⟩
    change (meaning key).bind _ = _
    rw [hchars, Option.bind_some]
    change value.value?.bind _ = _
    rw [hv, Option.bind_some, hkvs]
    rfl

/-- What closes no brackets and is not blank. -/
def Opening (cs : List Char) : Prop :=
  ∃ c ds, cs = c :: ds ∧ isBlank c = false ∧ c ≠ ']' ∧ c ≠ '}'

/-- Whether the character is a sign of a number or a digit. -/
def isSignOrDigit (c : Char) : Bool :=
  c = '-' || c.isDigit

theorem NumberText.exists_text_append_eq (n : NumberText) (rest : List Char) :
    ∃ c cs, n.text ++ rest = c :: cs ∧ isSignOrDigit c := by
  obtain ⟨isNegative, ⟨ds, hne⟩, hwhole, fraction, exponent⟩ := n
  obtain ⟨d, ds, rfl⟩ := List.exists_cons_of_ne_nil hne
  cases isNegative
  · refine ⟨Nat.digitChar d.val, _, rfl, ?_⟩
    clear hne hwhole
    revert d
    decide
  · exact ⟨'-', _, rfl, rfl⟩

theorem ne_of_isSignOrDigit {c : Char} (h : isSignOrDigit c) :
    ∀ d ∈ [' ', '\n', '\t', '\r', 'n', 't', 'f', '"', '[', '{', ']', '}'], c ≠ d := by
  have hother : [' ', '\n', '\t', '\r', 'n', 't', 'f', '"', '[', '{', ']', '}'].all
      fun d => !isSignOrDigit d := by decide
  rintro d hd rfl
  have hc := List.all_eq_true.mp hother c hd
  rw [h] at hc
  cases hc

theorem Phrase.opening_text (s : Phrase) (rest : List Char) : Opening (s.text ++ rest) := by
  cases s with
  | null => exact ⟨'n', _, rfl, by decide⟩
  | boolean b =>
    cases b
    · exact ⟨'f', _, rfl, by decide⟩
    · exact ⟨'t', _, rfl, by decide⟩
  | number n =>
    obtain ⟨c, cs, htext, hc⟩ := n.exists_text_append_eq rest
    have hother := ne_of_isSignOrDigit hc
    refine ⟨c, cs, htext, ?_, hother ']' (by decide), hother '}' (by decide)⟩
    simp [isBlank, hother]
  | string ps => exact ⟨'"', _, rfl, by decide⟩
  | array inner es => exact ⟨'[', _, rfl, by decide⟩
  | object inner es => exact ⟨'{', _, rfl, by decide⟩

theorem Phrase.head_text_ne {s : Phrase} (h : s ≠ .null) (rest : List Char) :
    (s.text ++ rest).head? ≠ some 'n' := by
  cases s with
  | null => exact absurd rfl h
  | boolean b => cases b <;> simp [text]
  | number t =>
    obtain ⟨c, cs, htext, hc⟩ := t.exists_text_append_eq rest
    rw [text, htext]
    exact fun heq => ne_of_isSignOrDigit hc 'n' (by decide) (Option.some.inj heq)
  | string ps => simp [text]
  | array inner es => simp [text]
  | object inner es => simp [text]

end Ambient.Json

/-
The text of a dump tells what was dumped.

No text of a value is the beginning of another one's, up to what may follow a number
(`write_append_inj`); so the parts of an array or an object can be told apart one after
the other, in every layout that puts only blanks between them.  Dumps are values without
reals, for which this holds.

* `escaped_append_inj`, `integer_append_inj` — strings and integers;
* `Value.Exact`, `Value.write_append_inj` — whole values;
* `TypeExpr.dump_inj`, `Member.dump_inj`, `Definition.dump_inj` — the dumped values;
* `dumpText`, `dumpText_inj_iff` — the texts.
-/
import Std.Data.String.ToInt
import Mathlib.Data.List.Basic
import Ambient.Command.Run
import Ambient.Proofs.Nesting
import Ambient.Proofs.Notation

namespace Ambient

namespace Json

/-! ### Strings -/

theorem hexDigit?_digitChar : ∀ n < 16, hexDigit? (Nat.digitChar n) = some n := by
  decide

/-- A digit, as it is written in an escape. -/
def HexDigit.ofNat (n : Nat) (h : n < 16) : HexDigit :=
  ⟨Nat.digitChar n, n, hexDigit?_digitChar n h⟩

/-- A control character is read back from its number. -/
theorem escape_control {c : Char} (hc : c.toNat < 0x20) (cs : List Char) :
    escape ('u' :: '0' :: '0' :: Nat.digitChar (c.toNat / 16) :: Nat.digitChar (c.toNat % 16) ::
      cs) = .ok (c, cs) := by
  have hhigh : c.toNat / 16 < 16 := by omega
  have hlow : c.toNat % 16 < 16 := by omega
  have hcode : codeOf (.ofNat 0 (by omega)) (.ofNat 0 (by omega)) (.ofNat _ hhigh)
      (.ofNat _ hlow) = c.toNat := by
    simp only [codeOf, HexDigit.ofNat]
    omega
  have hread := escape_number (a := .ofNat 0 (by omega)) (b := .ofNat 0 (by omega))
    (c := .ofNat _ hhigh) (d := .ofNat _ hlow)
  rw [hcode, Char.ofNat_toNat] at hread
  refine hread ?_ ?_ cs
  · simp only [isTrailing, Bool.and_eq_true, decide_eq_true_eq]
    omega
  · simp only [isLeading, Bool.and_eq_true, decide_eq_true_eq]
    omega

theorem stringBody_escapedChar (c : Char) {cs body rest : List Char}
    (h : stringBody cs = .ok (body, rest)) :
    stringBody (escapedChar c ++ cs) = .ok (c :: body, rest) := by
  unfold escapedChar
  split
  case h_8 hmark hbackslash _ _ _ _ _ =>
    split
    next hc => exact stringBody_escape (escape_control hc cs) h
    next hc => exact stringBody_plain ⟨hmark, hbackslash, Nat.not_lt.mp hc⟩ h
  all_goals exact stringBody_escape (escape_letter rfl cs) h

/-- What is escaped is read back. -/
theorem stringBody_escaped (cs rest : List Char) :
    stringBody (cs.flatMap escapedChar ++ '"' :: rest) = .ok (cs, rest) := by
  induction cs with
  | nil => exact stringBody_close rest
  | cons c cs ih =>
    rw [List.flatMap_cons, List.append_assoc]
    exact stringBody_escapedChar c ih

theorem escaped_append (s : String) (r : List Char) :
    escaped s ++ r = '"' :: (s.toList.flatMap escapedChar ++ '"' :: r) := by
  simp [escaped]

theorem escaped_append_inj {s t : String} {r r' : List Char}
    (h : escaped s ++ r = escaped t ++ r') : s = t ∧ r = r' := by
  rw [escaped_append, escaped_append] at h
  have hread := congrArg stringBody (List.cons.inj h).2
  rw [stringBody_escaped, stringBody_escaped] at hread
  obtain ⟨hst, hr⟩ := Prod.mk.inj (Except.ok.inj hread)
  exact ⟨String.toList_injective hst, hr⟩

/-! ### Integers -/

theorem isSignOrDigit_of_mem_text {i : Int} {c : Char}
    (h : c ∈ (Number.integer i).text.toList) : isSignOrDigit c := by
  have hdigit {n : Nat} (hc : c ∈ n.repr.toList) : isSignOrDigit c := by
    rw [Nat.toList_repr] at hc
    rw [isSignOrDigit, Nat.isDigit_of_mem_toDigits (by omega) (by omega) hc, Bool.or_true]
  change c ∈ i.repr.toList at h
  rw [Int.repr_eq_if] at h
  split at h
  · exact hdigit h
  · rw [String.toList_append, List.mem_append] at h
    rcases h with h | h
    · obtain rfl : c = '-' := by simpa using h
      rfl
    · exact hdigit h

theorem integer_text_ne_nil (i : Int) : (Number.integer i).text.toList ≠ [] := by
  change i.repr.toList ≠ []
  rw [Int.repr_eq_if]
  split
  · rw [Nat.toList_repr]
    exact Nat.toDigits_ne_nil
  · rw [String.toList_append]
    exact List.append_ne_nil_of_left_ne_nil (by decide) _

/-- What may follow a number is not part of it. -/
theorem Stops.takeWhile_isSignOrDigit {r : List Char} (h : Stops r) :
    r.takeWhile isSignOrDigit = [] := by
  cases r with
  | nil => rfl
  | cons c r =>
    refine List.takeWhile_cons_of_neg ?_
    rcases stops_cons.mp h with hblank | rfl | rfl | rfl
    · simp only [isBlank, Bool.or_eq_true, decide_eq_true_eq] at hblank
      rcases hblank with ((rfl | rfl) | rfl) | rfl <;> decide
    all_goals decide

theorem integer_append_inj {i j : Int} {r r' : List Char} (hr : Stops r) (hr' : Stops r')
    (h : (Number.integer i).text.toList ++ r = (Number.integer j).text.toList ++ r') :
    i = j ∧ r = r' := by
  have htext : (Number.integer i).text.toList = (Number.integer j).text.toList := by
    have htake := congrArg (List.takeWhile isSignOrDigit) h
    rw [List.takeWhile_append_of_pos fun c => isSignOrDigit_of_mem_text,
      List.takeWhile_append_of_pos fun c => isSignOrDigit_of_mem_text,
      hr.takeWhile_isSignOrDigit, hr'.takeWhile_isSignOrDigit] at htake
    simpa using htake
  refine ⟨Int.repr_inj.mp (String.toList_injective htext), ?_⟩
  rw [htext] at h
  exact List.append_cancel_left h

/-! ### Parts between brackets -/

/-- Only blanks stand between the parts. -/
def Layout.Blank (l : Layout) : Prop :=
  ∀ depth, ∀ c ∈ l.gap depth, isBlank c

theorem Layout.blank_compact : Layout.compact.Blank := by
  intro depth c hc
  cases hc

theorem Layout.blank_indented : Layout.indented.Blank := by
  intro depth c hc
  rcases List.mem_cons.mp hc with rfl | hc
  · rfl
  · rw [List.eq_of_mem_replicate hc]
    rfl

/-- No part follows before this text. -/
def Closing (cs : List Char) : Prop :=
  Stops cs ∧ cs.head? ≠ some ','

theorem closing_append {b : List Char} (hb : ∀ c ∈ b, isBlank c) {close : Char}
    (hclose : close = ']' ∨ close = '}') (r : List Char) : Closing (b ++ close :: r) := by
  have hstops : Stops (close :: r) := stops_cons.mpr (.inr (.inr hclose))
  refine ⟨hstops.append_of_blanks ⟨b, hb⟩, ?_⟩
  cases b with
  | nil => rcases hclose with rfl | rfl <;> simp
  | cons c b =>
    intro hhead
    obtain rfl : c = ',' := Option.some.inj hhead
    cases hb ',' List.mem_cons_self

/-- The texts of these two kinds of parts can be told apart, if a part or the end follows. -/
def Separable {α : Type} (f : α → List Char) (x y : α) : Prop :=
  ∀ r r' : List Char, Stops r → Stops r' → f x ++ r = f y ++ r' → x = y ∧ r = r'

variable {α : Type} {f : α → List Char}

theorem intercalate_append_inj {xs ys : List α} {t t' : List Char}
    (hsep : ∀ x ∈ xs, ∀ y ∈ ys, Separable f x y) (hxs : xs ≠ []) (hys : ys ≠ [])
    (ht : Closing t) (ht' : Closing t')
    (h : [','].intercalate (xs.map f) ++ t = [','].intercalate (ys.map f) ++ t') :
    xs = ys ∧ t = t' := by
  have hcomma (cs : List Char) : Stops (',' :: cs) := stops_cons.mpr (.inr (.inl rfl))
  induction xs generalizing ys with
  | nil => exact absurd rfl hxs
  | cons x xs ih =>
    obtain ⟨y, ys, rfl⟩ := List.exists_cons_of_ne_nil hys
    have hxy : Separable f x y := hsep x List.mem_cons_self y List.mem_cons_self
    rcases xs with _ | ⟨x', xs⟩ <;> rcases ys with _ | ⟨y', ys⟩
    · simp only [List.map_cons, List.map_nil, List.intercalate_singleton] at h
      obtain ⟨rfl, hrest⟩ := hxy t t' ht.1 ht'.1 h
      exact ⟨rfl, hrest⟩
    · simp only [List.map_cons, List.map_nil, List.intercalate_singleton,
        List.intercalate_cons_cons, List.append_assoc, List.singleton_append] at h
      obtain ⟨-, rfl⟩ := hxy _ _ ht.1 (hcomma _) h
      exact absurd rfl ht.2
    · simp only [List.map_cons, List.map_nil, List.intercalate_singleton,
        List.intercalate_cons_cons, List.append_assoc, List.singleton_append] at h
      obtain ⟨-, rfl⟩ := hxy _ _ (hcomma _) ht'.1 h
      exact absurd rfl ht'.2
    · simp only [List.map_cons, List.intercalate_cons_cons, List.append_assoc,
        List.singleton_append] at h ih
      obtain ⟨rfl, hrest⟩ := hxy _ _ (hcomma _) (hcomma _) h
      have hsep' : ∀ z ∈ x' :: xs, ∀ z' ∈ y' :: ys, Separable f z z' := fun z hz z' hz' =>
        hsep z (List.mem_cons_of_mem _ hz) z' (List.mem_cons_of_mem _ hz')
      obtain ⟨htail, htt'⟩ :=
        ih hsep' (List.cons_ne_nil _ _) (List.cons_ne_nil _ _) (List.cons.inj hrest).2
      exact ⟨by rw [htail], htt'⟩

/-- What stands between the brackets of an array or an object. -/
def enclosed (l : Layout) (depth : Nat) (f : α → List Char) (xs : List α) : List Char :=
  if xs = [] then []
  else [','].intercalate (xs.map fun x => l.gap (depth + 1) ++ f x) ++ l.gap depth

/-- Brackets with something in them do not look like empty ones. -/
theorem close_ne_enclosed {l : Layout} (hl : l.Blank) {depth : Nat} {x : α} {xs : List α}
    (hx : Opening (f x)) {close : Char} (hclose : close = ']' ∨ close = '}') (r r' : List Char) :
    close :: r ≠ enclosed l depth f (x :: xs) ++ close :: r' := by
  obtain ⟨c, ds, hfx, hblank, hbracket, hbrace⟩ := hx
  have hstart : ∃ rest, enclosed l depth f (x :: xs) ++ close :: r' =
      l.gap (depth + 1) ++ c :: rest := by
    rw [enclosed, if_neg (List.cons_ne_nil x xs), List.map_cons]
    cases xs with
    | nil => simp [hfx]
    | cons y ys => simp [List.intercalate_cons_cons, hfx]
  obtain ⟨rest, hstart⟩ := hstart
  intro h
  have hskip := congrArg skipBlank (h.trans hstart)
  have hnotblank : isBlank close = false := by rcases hclose with rfl | rfl <;> rfl
  rw [skipBlank_cons hnotblank,
    skipBlank_append_cons ⟨l.gap (depth + 1), hl (depth + 1)⟩ rest hblank] at hskip
  obtain rfl : close = c := (List.cons.inj hskip).1
  rcases hclose with rfl | rfl
  · exact hbracket rfl
  · exact hbrace rfl

theorem enclosed_append_inj {l : Layout} (hl : l.Blank) {depth : Nat} {xs ys : List α}
    (hsep : ∀ x ∈ xs, ∀ y ∈ ys, Separable f x y) (hxs : ∀ x ∈ xs, Opening (f x))
    (hys : ∀ y ∈ ys, Opening (f y)) {close : Char} (hclose : close = ']' ∨ close = '}')
    {r r' : List Char}
    (h : enclosed l depth f xs ++ close :: r = enclosed l depth f ys ++ close :: r') :
    xs = ys ∧ r = r' := by
  rcases xs with _ | ⟨x, xs⟩ <;> rcases ys with _ | ⟨y, ys⟩
  · exact ⟨rfl, (List.cons.inj h).2⟩
  · exact absurd h (close_ne_enclosed hl (hys y List.mem_cons_self) hclose r r')
  · exact absurd h.symm (close_ne_enclosed hl (hxs x List.mem_cons_self) hclose r' r)
  · have hsep' : ∀ z ∈ x :: xs, ∀ z' ∈ y :: ys,
        Separable (fun z => l.gap (depth + 1) ++ f z) z z' := by
      intro z hz z' hz' s s' hs hs' heq
      simp only [List.append_assoc] at heq
      exact hsep z hz z' hz' s s' hs hs' (List.append_cancel_left heq)
    rw [enclosed, if_neg (List.cons_ne_nil x xs), enclosed, if_neg (List.cons_ne_nil y ys),
      List.append_assoc, List.append_assoc] at h
    have hclosing (r : List Char) : Closing (l.gap depth ++ close :: r) :=
      closing_append (hl depth) hclose r
    obtain ⟨hall, hrest⟩ := intercalate_append_inj hsep' (List.cons_ne_nil x xs)
      (List.cons_ne_nil y ys) (hclosing r) (hclosing r') h
    exact ⟨hall, (List.cons.inj (List.append_cancel_left hrest)).2⟩

/-! ### Values -/

namespace Value

theorem writeElements_eq (l : Layout) (depth : Nat) (vs : List Value) :
    writeElements l depth vs =
      [','].intercalate (vs.map fun v => l.gap depth ++ write l depth v) := by
  induction vs with
  | nil => rfl
  | cons v vs ih =>
    cases vs with
    | nil => rw [writeElements, List.map_singleton, List.intercalate_singleton]
    | cons w ws =>
      rw [writeElements, ih]
      simp only [List.map_cons, List.intercalate_cons_cons, List.append_assoc,
        List.singleton_append]

theorem writeEntries_eq (l : Layout) (depth : Nat) (es : List (String × Value)) :
    writeEntries l depth es =
      [','].intercalate (es.map fun e => l.gap depth ++ writeEntry l depth e) := by
  induction es with
  | nil => rfl
  | cons e es ih =>
    cases es with
    | nil => rw [writeEntries, List.map_singleton, List.intercalate_singleton]
    | cons f fs =>
      rw [writeEntries, ih]
      simp only [List.map_cons, List.intercalate_cons_cons, List.append_assoc,
        List.singleton_append]

theorem write_array (l : Layout) (depth : Nat) (vs : List Value) :
    (array vs).write l depth = '[' :: (enclosed l depth (write l (depth + 1)) vs ++ [']']) := by
  cases vs with
  | nil => rfl
  | cons v vs =>
    rw [enclosed, if_neg (List.cons_ne_nil v vs), ← writeElements_eq]
    rfl

theorem write_object (l : Layout) (depth : Nat) (es : List (String × Value)) :
    (object es).write l depth =
      '{' :: (enclosed l depth (writeEntry l (depth + 1)) es ++ ['}']) := by
  cases es with
  | nil => rfl
  | cons e es =>
    rw [enclosed, if_neg (List.cons_ne_nil e es), ← writeEntries_eq]
    rfl

/-- A value in which every number is an integer. -/
inductive Exact : Value → Prop
  | null : Exact .null
  | boolean (b : Bool) : Exact (.boolean b)
  | integer (i : Int) : Exact (.number (.integer i))
  | string (s : String) : Exact (.string s)
  | array {vs : List Value} (h : ∀ v ∈ vs, Exact v) : Exact (.array vs)
  | object {es : List (String × Value)} (h : ∀ e ∈ es, Exact e.2) : Exact (.object es)

attribute [simp] Exact.null Exact.boolean Exact.integer Exact.string

@[simp]
theorem exact_array_iff {vs : List Value} : Exact (.array vs) ↔ ∀ v ∈ vs, Exact v := by
  refine ⟨?_, .array⟩
  rintro ⟨⟩
  assumption

@[simp]
theorem exact_object_iff {es : List (String × Value)} :
    Exact (.object es) ↔ ∀ e ∈ es, Exact e.2 := by
  refine ⟨?_, .object⟩
  rintro ⟨⟩
  assumption

/-- What kind of value it is, as the first character tells. -/
def form : Value → Char
  | .null => 'n'
  | .boolean _ => 't'
  | .number _ => '0'
  | .string _ => '"'
  | .array _ => '['
  | .object _ => '{'

/-- The kind of the values that begin with the character. -/
def formOf (c : Char) : Char :=
  if isSignOrDigit c then '0' else if c = 'f' then 't' else c

theorem exists_write_eq_cons {v : Value} (hv : Exact v) (l : Layout) (depth : Nat) :
    ∃ c cs, v.write l depth = c :: cs ∧ formOf c = v.form := by
  cases hv with
  | null => exact ⟨_, _, rfl, rfl⟩
  | boolean b => cases b <;> exact ⟨_, _, rfl, rfl⟩
  | integer i =>
    obtain ⟨c, cs, htext⟩ := List.exists_cons_of_ne_nil (integer_text_ne_nil i)
    have hc : isSignOrDigit c := isSignOrDigit_of_mem_text (htext ▸ List.mem_cons_self)
    exact ⟨c, cs, htext, if_pos hc⟩
  | string s => exact ⟨_, _, rfl, rfl⟩
  | array h => exact ⟨_, _, write_array l depth _, rfl⟩
  | object h => exact ⟨_, _, write_object l depth _, rfl⟩

theorem opening_write {v : Value} (hv : Exact v) (l : Layout) (depth : Nat) :
    Opening (v.write l depth) := by
  obtain ⟨c, cs, hwrite, hform⟩ := exists_write_eq_cons hv l depth
  -- Each of the other characters is a form of its own, which no value has.
  have hself : [' ', '\n', '\t', '\r', ']', '}'].all fun d => formOf d == d := by decide
  have hother : ∀ d ∈ [' ', '\n', '\t', '\r', ']', '}'], c ≠ d := by
    rintro d hd rfl
    rw [eq_of_beq (List.all_eq_true.mp hself c hd)] at hform
    rw [hform] at hd
    cases v <;> simp [form] at hd
  have hblank : isBlank c = false := by
    simp only [isBlank, Bool.or_eq_false_iff, decide_eq_false_iff_not]
    exact ⟨⟨⟨hother ' ' (by decide), hother '\n' (by decide)⟩, hother '\t' (by decide)⟩,
      hother '\r' (by decide)⟩
  exact ⟨c, cs, hwrite, hblank, hother ']' (by decide), hother '}' (by decide)⟩

theorem opening_writeEntry (l : Layout) (depth : Nat) (e : String × Value) :
    Opening (writeEntry l depth e) := by
  obtain ⟨key, v⟩ := e
  exact ⟨'"', _, rfl, by decide⟩

theorem form_eq_of_write_append_eq {v w : Value} (hv : Exact v) (hw : Exact w) {l : Layout}
    {depth : Nat} {r r' : List Char} (h : v.write l depth ++ r = w.write l depth ++ r') :
    v.form = w.form := by
  obtain ⟨c, cs, hwrite, hform⟩ := exists_write_eq_cons hv l depth
  obtain ⟨d, ds, hwrite', hform'⟩ := exists_write_eq_cons hw l depth
  rw [hwrite, hwrite'] at h
  rw [← hform, ← hform', (List.cons.inj h).1]

/-- **No text of a value is the beginning of another one's.**  After an integer something
has to follow that is no part of it. -/
theorem separable_write {l : Layout} (hl : l.Blank) {v : Value} (hv : Exact v) {w : Value}
    (hw : Exact w) (depth : Nat) : Separable (write l depth) v w := by
  induction hv generalizing w depth with
  | null =>
    intro r r' _ _ h
    have hform := form_eq_of_write_append_eq .null hw h
    cases hw <;> cases hform
    exact ⟨rfl, List.append_cancel_left h⟩
  | boolean b =>
    intro r r' _ _ h
    have hform := form_eq_of_write_append_eq (.boolean b) hw h
    cases hw <;> cases hform
    rename_i c
    cases b <;> cases c
    · exact ⟨rfl, List.append_cancel_left h⟩
    · cases (List.cons.inj h).1
    · cases (List.cons.inj h).1
    · exact ⟨rfl, List.append_cancel_left h⟩
  | integer i =>
    intro r r' hr hr' h
    have hform := form_eq_of_write_append_eq (.integer i) hw h
    cases hw <;> cases hform
    obtain ⟨rfl, hrest⟩ := integer_append_inj hr hr' h
    exact ⟨rfl, hrest⟩
  | string s =>
    intro r r' _ _ h
    have hform := form_eq_of_write_append_eq (.string s) hw h
    cases hw <;> cases hform
    obtain ⟨rfl, hrest⟩ := escaped_append_inj h
    exact ⟨rfl, hrest⟩
  | @array vs hvs ih =>
    intro r r' _ _ h
    have hform := form_eq_of_write_append_eq (.array hvs) hw h
    cases hw <;> cases hform
    rename_i ws hws
    rw [write_array, write_array, List.cons_append, List.cons_append, List.append_assoc,
      List.append_assoc] at h
    obtain ⟨rfl, hrest⟩ := enclosed_append_inj hl
      (fun v hv w hw => ih v hv (hws w hw) (depth + 1))
      (fun v hv => opening_write (hvs v hv) l (depth + 1))
      (fun w hw => opening_write (hws w hw) l (depth + 1)) (.inl rfl) (List.cons.inj h).2
    exact ⟨rfl, hrest⟩
  | @object es hes ih =>
    intro r r' _ _ h
    have hform := form_eq_of_write_append_eq (.object hes) hw h
    cases hw <;> cases hform
    rename_i fs hfs
    rw [write_object, write_object, List.cons_append, List.cons_append, List.append_assoc,
      List.append_assoc] at h
    have hentry : ∀ e ∈ es, ∀ f ∈ fs, Separable (writeEntry l (depth + 1)) e f := by
      rintro ⟨key, v⟩ he ⟨key', w⟩ hf s s' hs hs' heq
      simp only [writeEntry, List.append_assoc] at heq
      obtain ⟨rfl, hvalue⟩ := escaped_append_inj heq
      have hvw : Separable (write l (depth + 1)) v w := ih (key, v) he (hfs (key, w) hf) (depth + 1)
      obtain ⟨rfl, hrest⟩ := hvw s s' hs hs' (List.append_cancel_left hvalue)
      exact ⟨rfl, hrest⟩
    obtain ⟨rfl, hrest⟩ := enclosed_append_inj hl hentry (fun e _ => opening_writeEntry l _ e)
      (fun f _ => opening_writeEntry l _ f) (.inr rfl) (List.cons.inj h).2
    exact ⟨rfl, hrest⟩

/-- A value as a text of its own, on one line or on indented lines. -/
def text (compact : Bool) (v : Value) : String :=
  if compact then v.compact else v.indented

theorem text_eq (compact : Bool) (v : Value) :
    v.text compact = String.ofList (v.write (if compact then .compact else .indented) 0) := by
  cases compact <;> rfl

theorem text_inj_iff {v w : Value} (hv : Exact v) (hw : Exact w) (compact : Bool) :
    v.text compact = w.text compact ↔ v = w := by
  refine ⟨?_, congrArg (text compact)⟩
  intro h
  have hl : (if compact then Layout.compact else Layout.indented).Blank := by
    cases compact
    · exact Layout.blank_indented
    · exact Layout.blank_compact
  rw [text_eq, text_eq, String.ofList_inj] at h
  have happend := congrArg (· ++ ([] : List Char)) h
  exact (separable_write hl hv hw 0 [] [] stops_nil stops_nil happend).1

end Value

end Json

open Json (Value)

/-! ### Type expressions -/

mutual

theorem TypeExpr.exact_dump : (t : TypeExpr) → t.dump.Exact
  | .simple name => by simp [TypeExpr.dump]
  | .generic base args => by simpa [TypeExpr.dump] using ⟨base.exact_dump, exact_dumpTypes args⟩
  | .array component n => by simpa [TypeExpr.dump] using component.exact_dump
  | .wildcard bound => by simpa [TypeExpr.dump] using bound.exact_dump
  | .nullable inner => by simpa [TypeExpr.dump] using inner.exact_dump

theorem exact_dumpTypes : (ts : List TypeExpr) → ∀ v ∈ dumpTypes ts, v.Exact
  | [], _, h => absurd h List.not_mem_nil
  | t :: ts, v, h => by
    rcases List.mem_cons.mp h with rfl | h
    · exact t.exact_dump
    · exact exact_dumpTypes ts v h

end

mutual

/-- The forms of a type expression have different keys. -/
theorem TypeExpr.dump_inj : (t u : TypeExpr) → t.dump = u.dump → t = u
  | .simple name, u, h => by
    cases u <;> simp [TypeExpr.dump] at h
    rw [h]
  | .generic base args, u, h => by
    cases u <;> simp [TypeExpr.dump] at h
    rw [base.dump_inj _ h.1, dumpTypes_inj args _ h.2]
  | .array component n, u, h => by
    cases u <;> simp [TypeExpr.dump] at h
    rw [component.dump_inj _ h.1]
    exact congrArg _ (by omega)
  | .wildcard bound, u, h => by
    cases u <;> simp [TypeExpr.dump] at h
    rw [bound.dump_inj _ h]
  | .nullable inner, u, h => by
    cases u <;> simp [TypeExpr.dump] at h
    rw [inner.dump_inj _ h]

theorem dumpTypes_inj : (ts us : List TypeExpr) → dumpTypes ts = dumpTypes us → ts = us
  | [], [], _ => rfl
  | [], _ :: _, h => nomatch h
  | _ :: _, [], h => nomatch h
  | t :: ts, u :: us, h => by
    obtain ⟨hhead, htail⟩ := List.cons.inj h
    rw [t.dump_inj u hhead, dumpTypes_inj ts us htail]

end

/-! ### Members and definitions -/

theorem exact_dumpDoc (doc : Option String) : (dumpDoc doc).Exact := by
  cases doc
  · exact .null
  · exact .string _

theorem dumpDoc_inj {doc doc' : Option String} (h : dumpDoc doc = dumpDoc doc') : doc = doc' := by
  cases doc <;> cases doc' <;> cases h <;> rfl

theorem MethodKind.word_inj {kind kind' : MethodKind} (h : kind.word = kind'.word) :
    kind = kind' := by
  revert h
  cases kind <;> cases kind' <;> decide

theorem DefinitionKind.word_inj {kind kind' : DefinitionKind} (h : kind.word = kind'.word) :
    kind = kind' := by
  revert h
  cases kind <;> cases kind' <;> decide

theorem cons_entry_inj {key : String} {v w : Value} {es es' : List (String × Value)} :
    (key, v) :: es = (key, w) :: es' ↔ v = w ∧ es = es' := by
  rw [List.cons.injEq, Prod.mk.injEq, eq_self, true_and]

theorem Parameter.exact_dump (p : Parameter) : p.dump.Exact := by
  simpa [dump] using p.type.exact_dump

theorem Parameter.dump_inj {p q : Parameter} (h : p.dump = q.dump) : p = q := by
  obtain ⟨name, type, variadic⟩ := p
  obtain ⟨name', type', variadic'⟩ := q
  simp only [dump, Value.object.injEq, cons_entry_inj, Value.string.injEq, Value.boolean.injEq,
    and_true] at h
  obtain ⟨rfl, htype, rfl⟩ := h
  rw [type.dump_inj type' htype]

theorem Method.exact_entries (m : Method) : ∀ e ∈ m.entries, e.2.Exact := by
  simpa [entries] using ⟨m.returnType.exact_dump, fun p _ => p.exact_dump,
    exact_dumpTypes m.typeParams, exact_dumpDoc m.doc⟩

theorem Method.entries_inj {m o : Method} (h : m.entries = o.entries) : m = o := by
  obtain ⟨kind, name, methodName, returnType, params, typeParams, doc, isPublic, isStatic,
    isOverride, owner⟩ := m
  obtain ⟨kind', name', methodName', returnType', params', typeParams', doc', isPublic', isStatic',
    isOverride', owner'⟩ := o
  simp only [entries, cons_entry_inj, Value.string.injEq, Value.boolean.injEq, Value.array.injEq,
    and_true] at h
  obtain ⟨hkind, rfl, rfl, hreturn, hparams, htypeParams, hdoc, rfl, rfl, rfl, rfl⟩ := h
  rw [MethodKind.word_inj hkind, returnType.dump_inj _ hreturn,
    List.map_injective_iff.mpr (fun p q => Parameter.dump_inj) hparams,
    dumpTypes_inj _ _ htypeParams, dumpDoc_inj hdoc]

theorem Field.exact_entries (f : Field) : ∀ e ∈ f.entries, e.2.Exact := by
  simpa [entries] using ⟨f.type.exact_dump, exact_dumpDoc f.doc⟩

theorem Field.entries_inj {f g : Field} (h : f.entries = g.entries) : f = g := by
  obtain ⟨name, type, doc, isPublic, isStatic, isFinal⟩ := f
  obtain ⟨name', type', doc', isPublic', isStatic', isFinal'⟩ := g
  simp only [entries, cons_entry_inj, Value.string.injEq, Value.boolean.injEq, and_true] at h
  obtain ⟨rfl, htype, hdoc, rfl, rfl, rfl⟩ := h
  rw [type.dump_inj type' htype, dumpDoc_inj hdoc]

mutual

theorem Definition.exact_entries : (d : Definition) → ∀ e ∈ d.entries, e.2.Exact
  | ⟨kind, type, superTypes, interfaces, members, doc, isPublic, isStatic⟩ => by
    simpa [Definition.entries] using ⟨type.exact_dump, exact_dumpTypes superTypes,
      exact_dumpTypes interfaces, exact_dumpMembers members, exact_dumpDoc doc⟩

theorem Member.exact_dump : (m : Member) → m.dump.Exact
  | .method m => by simpa [Member.dump] using m.exact_entries
  | .field f => by simpa [Member.dump] using f.exact_entries
  | .nested d => by simpa [Member.dump] using d.exact_entries

theorem exact_dumpMembers : (ms : List Member) → ∀ v ∈ dumpMembers ms, v.Exact
  | [], _, h => absurd h List.not_mem_nil
  | m :: ms, v, h => by
    rcases List.mem_cons.mp h with rfl | h
    · exact m.exact_dump
    · exact exact_dumpMembers ms v h

end

mutual

theorem Definition.entries_inj : (d e : Definition) → d.entries = e.entries → d = e
  | ⟨kind, type, superTypes, interfaces, members, doc, isPublic, isStatic⟩,
    ⟨kind', type', superTypes', interfaces', members', doc', isPublic', isStatic'⟩, h => by
    simp only [Definition.entries, cons_entry_inj, Value.string.injEq, Value.boolean.injEq,
      Value.array.injEq, and_true] at h
    obtain ⟨hkind, htype, hsuper, hinterfaces, hmembers, hdoc, rfl, rfl⟩ := h
    rw [DefinitionKind.word_inj hkind, type.dump_inj _ htype, dumpTypes_inj _ _ hsuper,
      dumpTypes_inj _ _ hinterfaces, dumpMembers_inj _ _ hmembers, dumpDoc_inj hdoc]

/-- The tag tells a method, a field and a definition apart, although two of them have a
kind of their own. -/
theorem Member.dump_inj : (m n : Member) → m.dump = n.dump → m = n
  | .method m, n, h => by
    cases n <;> simp [Member.dump] at h
    rw [Method.entries_inj h]
  | .field f, n, h => by
    cases n <;> simp [Member.dump] at h
    rw [Field.entries_inj h]
  | .nested d, n, h => by
    cases n <;> simp [Member.dump] at h
    rw [d.entries_inj _ h]

theorem dumpMembers_inj : (ms ns : List Member) → dumpMembers ms = dumpMembers ns → ms = ns
  | [], [], _ => rfl
  | [], _ :: _, h => nomatch h
  | _ :: _, [], h => nomatch h
  | m :: ms, n :: ns, h => by
    obtain ⟨hhead, htail⟩ := List.cons.inj h
    rw [m.dump_inj n hhead, dumpMembers_inj ms ns htail]

end

theorem Definition.exact_dump (d : Definition) : d.dump.Exact :=
  .object d.exact_entries

theorem Definition.dump_inj {d e : Definition} (h : d.dump = e.dump) : d = e :=
  d.entries_inj e (Value.object.inj h)

theorem exact_dumpDefinitions (ds : List Definition) : (dumpDefinitions ds).Exact :=
  .array (List.forall_mem_map.mpr fun d _ => d.exact_dump)

theorem dumpDefinitions_inj {ds es : List Definition}
    (h : dumpDefinitions ds = dumpDefinitions es) : ds = es :=
  List.map_injective_iff.mpr (fun _ _ => Definition.dump_inj) (Value.array.inj h)

/-! ### Dumps -/

/-- The text of a dump, on one line or on indented lines. -/
def dumpText (compact : Bool) (ds : List Definition) : String :=
  (dumpDefinitions ds).text compact ++ "\n"

/-- What a request for a dump gives is the text of the transformed definitions. -/
theorem Command.Dump.text_eq {m : Type → Type} [Monad m] (h : Host m) (d : Dump) :
    d.text h = do
      let generator ← orFail .invalidPattern (Generator.ofSettings d.settings)
      let catalogue ← loadCatalogue h d.input
      return dumpText d.compact (generator.transform catalogue) :=
  rfl

/-- **A dump loses nothing.**  Dumps in the same layout have the same text only if the same
definitions were dumped, and neither do two definitions, two members or two type expressions
have the same text, whatever their names and their documentation. -/
theorem dumpText_inj_iff (compact : Bool) (ds es : List Definition) (d e : Definition)
    (m n : Member) (t u : TypeExpr) :
    (dumpText compact ds = dumpText compact es ↔ ds = es) ∧
    (d.dump.text compact = e.dump.text compact ↔ d = e) ∧
    (m.dump.text compact = n.dump.text compact ↔ m = n) ∧
    (t.dump.text compact = u.dump.text compact ↔ t = u) := by
  refine ⟨?_, ?_, ?_, ?_⟩
  · rw [dumpText, dumpText, String.append_left_inj,
      Value.text_inj_iff (exact_dumpDefinitions ds) (exact_dumpDefinitions es)]
    exact ⟨dumpDefinitions_inj, congrArg _⟩
  · rw [Value.text_inj_iff d.exact_dump e.exact_dump]
    exact ⟨Definition.dump_inj, congrArg _⟩
  · rw [Value.text_inj_iff m.exact_dump n.exact_dump]
    exact ⟨m.dump_inj n, congrArg _⟩
  · rw [Value.text_inj_iff t.exact_dump u.exact_dump]
    exact ⟨t.dump_inj u, congrArg _⟩

end Ambient

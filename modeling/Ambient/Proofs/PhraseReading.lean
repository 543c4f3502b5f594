/-
What is written is read.

A reader reads a phrase (`Reads`) if it takes the phrase off the front of a text, whatever
follows, and leaves the rest.  Loops over elements and entries read phrases if they read
their parts.

* `array_text`, `Runs`, `entries_text` — the loops;
* `Value.reads` — values, as far as they have a meaning;
* `skip_text` — all values, when they are passed over.
-/
import Mathlib.Data.List.DropRight
import Ambient.Proofs.Notation

namespace Ambient.Json

/-- The reader takes the phrase for `a`, wherever it stands. -/
def Reads {α : Type} (read : Reader α) (s : Phrase) (a : α) : Prop :=
  ∀ (b : Blanks) (rest : List Char), Stops rest →
    read (b.1 ++ (s.text ++ rest)) = .ok (a, rest)

theorem Reads.apply {α : Type} {read : Reader α} {s : Phrase} {a : α} (h : Reads read s a)
    {rest : List Char} (hrest : Stops rest) : read (s.text ++ rest) = .ok (a, rest) :=
  h default rest hrest

theorem Opening.skipBlank_append {cs : List Char} (h : Opening cs) (b : Blanks) :
    skipBlank (b.1 ++ cs) = cs := by
  obtain ⟨c, ds, rfl, hblank, -⟩ := h
  exact skipBlank_append_cons b ds hblank

theorem skipBlank_of_isSignOrDigit {c : Char} (hc : isSignOrDigit c) (cs : List Char) :
    skipBlank (c :: cs) = c :: cs := by
  have hne := ne_of_isSignOrDigit hc
  exact skipBlank_cons (by simp [isBlank, hne])

theorem word_append (expected rest : List Char) : word expected (expected ++ rest) = .ok rest := by
  induction expected with
  | nil => rfl
  | cons c expected ih =>
    rw [List.cons_append, word, if_pos rfl]
    exact ih

theorem string_spelled {ps : List Spelling} {cs : List Char} (h : meaning ps = some cs)
    (rest : List Char) : string (spelled ps ++ '"' :: rest) = .ok (String.ofList cs, rest) := by
  rw [string, stringBody_spelled h, ok_bind]
  rfl

theorem number_text {n : NumberText} {v : Number} (h : n.numeral.value = some v)
    {rest : List Char} (hrest : Stops rest) : number (n.text ++ rest) = .ok (v, rest) := by
  simp only [number, Numeral.scan_text n hrest, h]

theorem skipNumber_text (n : NumberText) {rest : List Char} (hrest : Stops rest) :
    skipNumber (n.text ++ rest) = .ok rest := by
  rw [skipNumber, Numeral.scan_text n hrest]

/-! ### Several texts with commas between them -/

theorem intercalate_cons_eq (x : List Char) (xs : List (List Char)) :
    [','].intercalate (x :: xs) = x ++ xs.flatMap (',' :: ·) := by
  induction xs generalizing x with
  | nil => rw [List.intercalate_singleton, List.flatMap_nil, List.append_nil]
  | cons y ys ih =>
    rw [List.intercalate_cons_cons, ih, List.flatMap_cons]
    simp only [List.append_assoc, List.cons_append, List.nil_append]

theorem length_le_length_intercalate (xs : List (List Char)) :
    xs.length ≤ ([','].intercalate xs).length + 1 := by
  cases xs with
  | nil => exact Nat.zero_le _
  | cons x xs =>
    have htail : xs.length ≤ (xs.flatMap (',' :: ·)).length := by
      induction xs with
      | nil => exact Nat.zero_le _
      | cons y ys ih =>
        rw [List.flatMap_cons, List.length_append, List.length_cons, List.length_cons]
        omega
    rw [intercalate_cons_eq, List.length_append, List.length_cons]
    omega

theorem length_lt_length_enclosed (inner : Blanks) (xs : List (List Char)) (close : Char)
    (rest : List Char) :
    xs.length < (inner.1 ++ ([','].intercalate xs ++ close :: rest)).length + 1 := by
  have hlength := length_le_length_intercalate xs
  rw [List.length_append, List.length_append, List.length_cons]
  omega

/-- What follows a part ends a number. -/
theorem stops_separated (xs : List (List Char)) {close : Char} (hclose : close = ']' ∨ close = '}')
    (rest : List Char) : Stops (xs.flatMap (',' :: ·) ++ close :: rest) := by
  cases xs with
  | nil => exact stops_cons.mpr (.inr (.inr hclose))
  | cons x xs => exact stops_cons.mpr (.inr (.inl rfl))

/-! ### Arrays -/

theorem nextElement_close (b : Blanks) (isFirst : Bool) (rest : List Char) :
    nextElement isFirst (b.1 ++ ']' :: rest) = .ok none := by
  rw [nextElement, skipBlank_append_cons b rest rfl]
  rfl

theorem nextElement_first (b : Blanks) {cs : List Char} (h : Opening cs) :
    nextElement true (b.1 ++ cs) = .ok (some cs) := by
  rw [nextElement, h.skipBlank_append b]
  obtain ⟨c, ds, rfl, -, hbracket, -⟩ := h
  split
  next heq => cases heq
  next heq => exact absurd (List.cons.inj heq).1 hbracket
  next heq =>
    obtain ⟨rfl, rfl⟩ := List.cons.inj heq
    exact if_pos rfl

theorem nextElement_comma (b b' : Blanks) {cs : List Char} (h : Opening cs) :
    nextElement false (b.1 ++ ',' :: (b'.1 ++ cs)) = .ok (some cs) := by
  obtain ⟨c, ds, rfl, hblank, hbracket, -⟩ := h
  have hnext := skipBlank_append_cons b' ds hblank
  rw [nextElement, skipBlank_append_cons b _ rfl]
  split
  next heq => cases heq
  next heq => exact absurd (List.cons.inj heq).1 (by decide)
  next heq =>
    obtain ⟨rfl, rfl⟩ := List.cons.inj heq
    rw [if_neg Bool.false_ne_true, if_pos rfl, hnext]
    split
    next heq => cases heq
    next heq => exact absurd (List.cons.inj heq).1 hbracket
    next => rfl

theorem closeArray_append (b : Blanks) (rest : List Char) :
    closeArray (b.1 ++ ']' :: rest) = .ok rest := by
  rw [closeArray, skipBlank_append_cons b rest rfl]
  rfl

section

variable {α : Type} {element : Reader α}

/-- The elements after the first one, up to the end of the array. -/
theorem elements_text {es : List Element} {as : List α}
    (h : List.Forall₂ (fun e a => Reads element e.value a) es as) {limit : Nat}
    (hlimit : es.length < limit) (b : Blanks) (rest : List Char) :
    ∃ b' : Blanks, elements element limit false
        (b.1 ++ ((es.map Phrase.elementText).flatMap (',' :: ·) ++ ']' :: rest)) =
      .ok (as, b'.1 ++ ']' :: rest) := by
  induction h generalizing limit b with
  | nil =>
    obtain ⟨limit, rfl⟩ := Nat.exists_eq_add_one_of_ne_zero (Nat.ne_of_gt hlimit)
    refine ⟨b, ?_⟩
    rw [List.map_nil, List.flatMap_nil, List.nil_append, elements, nextElement_close, ok_bind]
    rfl
  | @cons e a es as he _ ih =>
    obtain ⟨limit, rfl⟩ :=
      Nat.exists_eq_add_one_of_ne_zero (Nat.ne_of_gt (Nat.zero_lt_of_lt hlimit))
    obtain ⟨before, value, after⟩ := e
    set tail := (es.map Phrase.elementText).flatMap (',' :: ·) ++ ']' :: rest with htail
    have hstops : Stops (after.1 ++ tail) :=
      (stops_separated _ (.inl rfl) rest).append_of_blanks after
    obtain ⟨b', hrest⟩ := ih (Nat.lt_of_succ_lt_succ hlimit) after
    refine ⟨b', ?_⟩
    rw [List.map_cons, List.flatMap_cons, Phrase.elementText]
    simp only [List.cons_append, List.append_assoc]
    rw [elements, nextElement_comma b before (value.opening_text _), ok_bind]
    simp only [← htail, he.apply hstops, ok_bind, hrest]
    rfl

/-- An array is read element by element. -/
theorem array_text {es : List Element} {as : List α}
    (h : List.Forall₂ (fun e a => Reads element e.value a) es as) (inner : Blanks)
    (rest : List Char) :
    array element (Phrase.arrayRest inner es rest) = .ok (as, rest) := by
  set cs := Phrase.arrayRest inner es rest with hcs
  have hlimit : es.length < cs.length + 1 := by
    have hlength := length_lt_length_enclosed inner (Phrase.elementTexts es) ']' rest
    rwa [Phrase.elementTexts_eq_map, List.length_map, ← Phrase.elementTexts_eq_map] at hlength
  have hall : ∃ b : Blanks,
      elements element (cs.length + 1) true cs = .ok (as, b.1 ++ ']' :: rest) := by
    cases h with
    | nil =>
      refine ⟨inner, ?_⟩
      rw [elements, hcs]
      change (nextElement true (inner.1 ++ ']' :: rest) >>= _) = _
      rw [nextElement_close, ok_bind]
      rfl
    | @cons e a es as he hes =>
      obtain ⟨before, value, after⟩ := e
      obtain ⟨b, hrest⟩ := elements_text hes (Nat.lt_of_succ_lt_succ hlimit) after rest
      refine ⟨b, ?_⟩
      set tail := (es.map Phrase.elementText).flatMap (',' :: ·) ++ ']' :: rest with htail
      have hstops : Stops (after.1 ++ tail) :=
        (stops_separated _ (.inl rfl) rest).append_of_blanks after
      have hfirst : nextElement true cs = .ok (some (value.text ++ (after.1 ++ tail))) := by
        rw [hcs, Phrase.arrayRest, nextElement_append, Phrase.elementTexts, intercalate_cons_eq,
          Phrase.elementTexts_eq_map, Phrase.elementText]
        simp only [List.append_assoc]
        exact nextElement_first before (value.opening_text (after.1 ++ tail))
      rw [elements, hfirst, ok_bind]
      simp only [he.apply hstops, ok_bind, hrest]
      rfl
  obtain ⟨b, hall⟩ := hall
  rw [array, hall, ok_bind]
  simp only [closeArray_append, ok_bind]
  rfl

end

/-! ### Objects -/

theorem nextKey_close (b : Blanks) (isFirst : Bool) (rest : List Char) :
    nextKey isFirst (b.1 ++ '}' :: rest) = .ok none := by
  rw [nextKey, skipBlank_append_cons b rest rfl]
  rfl

theorem nextKey_first (b : Blanks) {ps : List Spelling} {key : List Char}
    (h : meaning ps = some key) (rest : List Char) :
    nextKey true (b.1 ++ '"' :: (spelled ps ++ '"' :: rest)) =
      .ok (some (String.ofList key, rest)) := by
  rw [nextKey, skipBlank_append_cons b _ rfl]
  change some <$> string (spelled ps ++ '"' :: rest) = _
  rw [string_spelled h]
  rfl

theorem nextKey_comma (b b' : Blanks) {ps : List Spelling} {key : List Char}
    (h : meaning ps = some key) (rest : List Char) :
    nextKey false (b.1 ++ ',' :: (b'.1 ++ '"' :: (spelled ps ++ '"' :: rest))) =
      .ok (some (String.ofList key, rest)) := by
  have hnext := skipBlank_append_cons b' (spelled ps ++ '"' :: rest) (c := '"') rfl
  rw [nextKey, skipBlank_append_cons b _ rfl]
  split
  next heq => cases heq
  next heq => exact absurd (List.cons.inj heq).1 (by decide)
  next heq =>
    obtain ⟨rfl, rfl⟩ := List.cons.inj heq
    rw [if_neg Bool.false_ne_true, if_pos rfl, hnext]
    change some <$> string (spelled ps ++ '"' :: rest) = _
    rw [string_spelled h]
    rfl

theorem colon_append (b : Blanks) (rest : List Char) : colon (b.1 ++ ':' :: rest) = .ok rest := by
  rw [colon, skipBlank_append_cons b rest rfl]
  rfl

theorem closeObject_append (b : Blanks) (rest : List Char) :
    closeObject (b.1 ++ '}' :: rest) = .ok rest := by
  rw [closeObject, skipBlank_append_cons b rest rfl]
  rfl

section

variable {σ : Type} {entry : String → σ → Reader σ}

/-- The reader takes the entry, from one state to the next. -/
def Takes (entry : String → σ → Reader σ) (e : Entry) (s t : σ) : Prop :=
  ∃ key, e.name? = some key ∧ ∀ rest, Stops rest →
    entry key s (e.beforeColon.1 ++ ':' :: (e.element.before.1 ++ (e.element.value.text ++ rest))) =
      .ok (t, rest)

/-- The reader takes the entries one after the other. -/
def Runs (entry : String → σ → Reader σ) : List Entry → σ → σ → Prop
  | [], s, t => s = t
  | e :: es, s, t => ∃ u, Takes entry e s u ∧ Runs entry es u t

/-- An entry after its key, with what follows it. -/
theorem entryText_append (e : Entry) (cs : List Char) :
    Phrase.entryText e ++ cs = e.before.1 ++ '"' :: (spelled e.key ++ '"' ::
      (e.beforeColon.1 ++ ':' :: (e.element.before.1 ++
        (e.element.value.text ++ (e.element.after.1 ++ cs))))) := by
  obtain ⟨before, key, beforeColon, ⟨before', value, after⟩⟩ := e
  simp only [Phrase.entryText, Phrase.elementText, List.append_assoc, List.cons_append]

/-- The entries after the first one, up to the end of the object. -/
theorem entries_tail {es : List Entry} {s t : σ} (h : Runs entry es s t) {limit : Nat}
    (hlimit : es.length < limit) (b : Blanks) (rest : List Char) :
    ∃ b' : Blanks, entries entry limit false s
        (b.1 ++ ((es.map Phrase.entryText).flatMap (',' :: ·) ++ '}' :: rest)) =
      .ok (t, b'.1 ++ '}' :: rest) := by
  induction es generalizing s limit b with
  | nil =>
    obtain ⟨limit, rfl⟩ := Nat.exists_eq_add_one_of_ne_zero (Nat.ne_of_gt hlimit)
    obtain rfl : s = t := h
    refine ⟨b, ?_⟩
    rw [List.map_nil, List.flatMap_nil, List.nil_append, entries, nextKey_close, ok_bind]
    rfl
  | cons e es ih =>
    obtain ⟨limit, rfl⟩ :=
      Nat.exists_eq_add_one_of_ne_zero (Nat.ne_of_gt (Nat.zero_lt_of_lt hlimit))
    obtain ⟨u, ⟨key, hkey, htake⟩, hrun⟩ := h
    obtain ⟨chars, hchars, rfl⟩ := Option.map_eq_some_iff.mp hkey
    obtain ⟨b', hrest⟩ := ih hrun (Nat.lt_of_succ_lt_succ hlimit) e.element.after
    refine ⟨b', ?_⟩
    set tail := (es.map Phrase.entryText).flatMap (',' :: ·) ++ '}' :: rest with htail
    have hstops : Stops (e.element.after.1 ++ tail) :=
      (stops_separated _ (.inr rfl) rest).append_of_blanks e.element.after
    rw [List.map_cons, List.flatMap_cons, List.append_assoc, ← htail, List.cons_append,
      entryText_append, entries, nextKey_comma b e.before hchars, ok_bind]
    simp only [htake _ hstops, ok_bind, hrest]

/-- An object is read entry by entry. -/
theorem entries_text {es : List Entry} {s t : σ} (h : Runs entry es s t) (inner : Blanks)
    (rest : List Char) :
    ∃ b : Blanks, entries entry ((Phrase.objectRest inner es rest).length + 1) true s
      (Phrase.objectRest inner es rest) = .ok (t, b.1 ++ '}' :: rest) := by
  set cs := Phrase.objectRest inner es rest with hcs
  have hlimit : es.length < cs.length + 1 := by
    have hlength := length_lt_length_enclosed inner (Phrase.entryTexts es) '}' rest
    rwa [Phrase.entryTexts_eq_map, List.length_map, ← Phrase.entryTexts_eq_map] at hlength
  cases es with
  | nil =>
    obtain rfl : s = t := h
    refine ⟨inner, ?_⟩
    rw [entries, hcs]
    change (nextKey true (inner.1 ++ '}' :: rest) >>= _) = _
    rw [nextKey_close, ok_bind]
    rfl
  | cons e es =>
    obtain ⟨u, ⟨key, hkey, htake⟩, hrun⟩ := h
    obtain ⟨chars, hchars, rfl⟩ := Option.map_eq_some_iff.mp hkey
    obtain ⟨b, hrest⟩ := entries_tail hrun (Nat.lt_of_succ_lt_succ hlimit) e.element.after rest
    refine ⟨b, ?_⟩
    set tail := (es.map Phrase.entryText).flatMap (',' :: ·) ++ '}' :: rest with htail
    have hstops : Stops (e.element.after.1 ++ tail) :=
      (stops_separated _ (.inr rfl) rest).append_of_blanks e.element.after
    have hfirst : nextKey true cs = .ok (some (String.ofList chars, e.beforeColon.1 ++ ':' ::
        (e.element.before.1 ++ (e.element.value.text ++ (e.element.after.1 ++ tail))))) := by
      rw [hcs, Phrase.objectRest, nextKey_append, Phrase.entryTexts, intercalate_cons_eq,
        Phrase.entryTexts_eq_map, List.append_assoc, ← htail, entryText_append]
      exact nextKey_first e.before hchars _
    rw [entries, hfirst, ok_bind]
    simp only [htake _ hstops, ok_bind, hrest]

end

/-! ### Values -/

namespace Value

/-- How an entry of an object is read. -/
def readEntry (depth : Nat) (key : String) (es : List (String × Value)) :
    Reader (List (String × Value)) := fun cs => do
  let (v, cs) ← read depth (← colon cs)
  return ((key, v) :: es, cs)

theorem read_array (depth : Nat) (cs : List Char) :
    read (depth + 1) ('[' :: cs) = do
      let (vs, cs) ← Json.array (read depth) cs
      return (.array vs, cs) :=
  rfl

theorem read_object (depth : Nat) (cs : List Char) :
    read (depth + 1) ('{' :: cs) = do
      let (es, cs) ← Json.entries (readEntry depth) (cs.length + 1) true [] cs
      return (.object es.reverse, ← closeObject cs) :=
  rfl

theorem read_word (depth : Nat) (rest : List Char) :
    read depth ("null".toList ++ rest) = .ok (.null, rest) ∧
      read depth ("true".toList ++ rest) = .ok (.boolean true, rest) ∧
      read depth ("false".toList ++ rest) = .ok (.boolean false, rest) := by
  refine ⟨?_, ?_, ?_⟩ <;> rw [read]
  · change (word "ull".toList ("ull".toList ++ rest) >>= _) = _
    rw [word_append, ok_bind]
    rfl
  · change (word "rue".toList ("rue".toList ++ rest) >>= _) = _
    rw [word_append, ok_bind]
    rfl
  · change (word "alse".toList ("alse".toList ++ rest) >>= _) = _
    rw [word_append, ok_bind]
    rfl

theorem read_string (depth : Nat) (cs : List Char) :
    read depth ('"' :: cs) = do
      let (s, cs) ← Json.string cs
      return (.string s, cs) := by
  rw [read]
  rfl

theorem read_number (depth : Nat) {c : Char} (hc : isSignOrDigit c) (cs : List Char) :
    read depth (c :: cs) = do
      let (n, cs) ← Json.number (c :: cs)
      return (.number n, cs) := by
  have hne := ne_of_isSignOrDigit hc
  rw [read, skipBlank_of_isSignOrDigit hc]
  split
  case h_8 heq =>
    obtain ⟨rfl, rfl⟩ := List.cons.inj heq
    exact if_pos hc
  case h_1 heq => cases heq
  all_goals
    rename_i heq
    exact absurd (List.cons.inj heq).1 (hne _ (by decide))

theorem runs_readEntry {depth : Nat} {es : List Entry} {kvs : List (String × Value)}
    (h : List.Forall₂ (fun e kv => e.name? = some kv.1 ∧ Reads (read depth) e.element.value kv.2)
      es kvs) (acc : List (String × Value)) :
    Runs (readEntry depth) es acc (kvs.reverse ++ acc) := by
  induction h generalizing acc with
  | nil => rfl
  | @cons e kv es kvs he _ ih =>
    obtain ⟨key, v⟩ := kv
    refine ⟨(key, v) :: acc, ⟨key, he.1, ?_⟩, ?_⟩
    · intro rest hrest
      rw [readEntry, colon_append, ok_bind, he.2 e.element.before rest hrest, ok_bind]
      rfl
    · rw [List.reverse_cons, List.append_assoc]
      exact ih ((key, v) :: acc)

/-- A value that is written is read, if brackets may nest as deep as in it. -/
theorem reads {s : Phrase} {v : Value} (hv : s.value? = some v) {depth : Nat}
    (hdepth : s.depth ≤ depth) : Reads (read depth) s v := by
  induction s using Phrase.induction generalizing v depth with
  | step s ih =>
    intro b rest hrest
    rw [read_append]
    cases s with
    | null =>
      cases hv
      exact (read_word depth rest).1
    | boolean c =>
      cases hv
      cases c
      · exact (read_word depth rest).2.2
      · exact (read_word depth rest).2.1
    | number n =>
      obtain ⟨m, hm, rfl⟩ := Option.map_eq_some_iff.mp hv
      obtain ⟨c, cs, htext, hc⟩ := n.exists_text_append_eq rest
      change read depth (n.text ++ rest) = _
      rw [htext, read_number depth hc, ← htext, number_text hm hrest, ok_bind]
      rfl
    | string ps =>
      obtain ⟨cs, hcs, rfl⟩ := Option.map_eq_some_iff.mp hv
      rw [Phrase.text, List.cons_append, List.append_assoc, List.singleton_append, read_string,
        string_spelled hcs, ok_bind]
      rfl
    | array inner es =>
      obtain ⟨vs, hvs, rfl⟩ := Option.map_eq_some_iff.mp hv
      obtain ⟨depth, rfl, hinside⟩ := Phrase.exists_of_depth_array_le hdepth
      have hparts : List.Forall₂ (fun e v => Reads (read depth) e.value v) es vs :=
        forall₂_imp_of_mem (Phrase.forall₂_of_elementValues? hvs) fun e he w hw =>
          ih e.value (List.mem_map_of_mem he) hw (hinside e he)
      rw [Phrase.text_array_append, read_array, array_text hparts, ok_bind]
      rfl
    | object inner es =>
      obtain ⟨kvs, hkvs, rfl⟩ := Option.map_eq_some_iff.mp hv
      obtain ⟨depth, rfl, hinside⟩ := Phrase.exists_of_depth_object_le hdepth
      have hparts : List.Forall₂
          (fun e kv => e.name? = some kv.1 ∧ Reads (read depth) e.element.value kv.2) es kvs :=
        forall₂_imp_of_mem (Phrase.forall₂_of_entryValues? hkvs) fun e he kv hkv =>
          ⟨hkv.1, ih e.element.value (List.mem_map_of_mem he) hkv.2 (hinside e he)⟩
      obtain ⟨b', hentries⟩ := entries_text (runs_readEntry hparts []) inner rest
      rw [Phrase.text_object_append, read_object, hentries, ok_bind]
      simp only [closeObject_append, ok_bind, List.append_nil, List.reverse_reverse]
      rfl

end Value

/-! ### Passing over values -/

/-- The bracket that closes an array or an object. -/
def closing (isObject : IsObject) : Char :=
  if isObject then '}' else ']'

/-- Passes over an element, or an entry with its key, and then over the rest of the brackets. -/
def skipItem (isObject : IsObject) (limit : Nat) (stack : List IsObject) (cs : List Char) :
    Except Fault (List Char) := do
  skipValue limit (isObject :: stack) (← if isObject then skipKey cs else .ok cs)

section

variable (n : Nat) (isObject : IsObject) (stack : List IsObject)

theorem skipBlank_skipBlank (cs : List Char) : skipBlank (skipBlank cs) = skipBlank cs :=
  List.dropWhile_idempotent isBlank cs

theorem skipValue_number {c : Char} (hc : isSignOrDigit c) (cs : List Char) :
    skipValue (n + 1) stack (c :: cs) = (skipNumber (c :: cs) >>= skipRest n stack true) := by
  have hne := ne_of_isSignOrDigit hc
  rw [skipValue, skipBlank_of_isSignOrDigit hc]
  split
  case h_8 heq =>
    obtain ⟨rfl, rfl⟩ := List.cons.inj heq
    exact if_pos hc
  case h_1 heq => cases heq
  all_goals
    rename_i heq
    exact absurd (List.cons.inj heq).1 (hne _ (by decide))

theorem skipItem_skipBlank (cs : List Char) :
    skipItem isObject n stack (skipBlank cs) = skipItem isObject n stack cs := by
  cases isObject with
  | true =>
    change (skipKey (skipBlank cs) >>= _) = (skipKey cs >>= _)
    rw [skipKey, skipKey, skipBlank_skipBlank]
  | false =>
    change skipValue n _ (skipBlank cs) = skipValue n _ cs
    cases n with
    | zero => rfl
    | succ n => rw [skipValue, skipValue, skipBlank_skipBlank]

theorem skipRest_close (afterValue : Bool) (rest : List Char) :
    skipRest (n + 1) (isObject :: stack) afterValue (closing isObject :: rest) =
      skipRest n stack true rest := by
  rw [skipRest]
  cases isObject <;> rfl

theorem skipRest_comma (cs : List Char) :
    skipRest (n + 1) (isObject :: stack) true (',' :: cs) = skipItem isObject n stack cs := by
  rw [skipRest]
  cases isObject <;> rfl

theorem skipRest_first {cs : List Char} (h : Opening (skipBlank cs)) :
    skipRest (n + 1) (isObject :: stack) false cs = skipItem isObject n stack cs := by
  rw [← skipItem_skipBlank, skipRest]
  obtain ⟨c, ds, heq, -, hbracket, hbrace⟩ := h
  rw [heq]
  cases isObject
  · exact if_neg hbracket
  · exact if_neg hbrace

end

/-- The value is passed over, wherever it stands, in less steps than twice its length. -/
def Skips (s : Phrase) : Prop :=
  ∃ k, k + 1 ≤ 2 * s.text.length ∧ ∀ n stack rest, Stops rest →
    skipValue (k + n) stack (s.text ++ rest) = skipRest n stack true rest

/-- The element or entry is passed over. -/
def SkipsItem (isObject : IsObject) (item : List Char) : Prop :=
  ∃ k, k + 1 ≤ 2 * item.length ∧ ∀ n stack rest, Stops rest →
    Opening (skipBlank (item ++ rest)) ∧
      skipItem isObject (k + n) stack (item ++ rest) = skipRest n (isObject :: stack) true rest

theorem Skips.element {e : Element} (h : Skips e.value) :
    SkipsItem false (Phrase.elementText e) := by
  obtain ⟨before, value, after⟩ := e
  obtain ⟨k, hk, hskip⟩ := h
  refine ⟨k, ?_, ?_⟩
  · simp only [Phrase.elementText, List.length_append] at hk ⊢
    omega
  · intro n stack rest hrest
    simp only [Phrase.elementText, List.append_assoc]
    have hopening := value.opening_text (after.1 ++ rest)
    refine ⟨by rwa [hopening.skipBlank_append before], ?_⟩
    rw [skipItem]
    change skipValue (k + n) (false :: stack) (before.1 ++ (value.text ++ (after.1 ++ rest))) = _
    rw [skipValue_append, hskip n _ _ (hrest.append_of_blanks after), skipRest_append]

theorem skipKey_append (b b' : Blanks) (ps : List Spelling) (rest : List Char) :
    skipKey (b.1 ++ '"' :: (spelled ps ++ '"' :: (b'.1 ++ ':' :: rest))) = .ok rest := by
  rw [skipKey, skipBlank_append_cons b _ rfl]
  change (skipString (spelled ps ++ '"' :: (b'.1 ++ ':' :: rest)) >>= colon) = _
  rw [skipString_spelled, ok_bind, colon_append]

theorem Skips.entry {e : Entry} (h : Skips e.element.value) :
    SkipsItem true (Phrase.entryText e) := by
  obtain ⟨before, key, beforeColon, ⟨before', value, after⟩⟩ := e
  obtain ⟨k, hk, hskip⟩ := h
  refine ⟨k, ?_, ?_⟩
  · simp only [Phrase.entryText, Phrase.elementText, List.length_append, List.length_cons] at hk ⊢
    omega
  · intro n stack rest hrest
    simp only [Phrase.entryText, Phrase.elementText, List.append_assoc, List.cons_append]
    refine ⟨⟨'"', _, skipBlank_append_cons before _ rfl, by decide⟩, ?_⟩
    rw [skipItem]
    change (skipKey _ >>= _) = _
    rw [skipKey_append, ok_bind]
    change skipValue (k + n) (true :: stack) (before'.1 ++ (value.text ++ (after.1 ++ rest))) = _
    rw [skipValue_append, hskip n _ _ (hrest.append_of_blanks after), skipRest_append]

/-- The parts after the first one, and the end. -/
theorem skipRest_items {isObject : IsObject} {items : List (List Char)}
    (h : ∀ item ∈ items, SkipsItem isObject item) :
    ∃ k, k ≤ 2 * (items.flatMap (',' :: ·)).length ∧ ∀ n stack rest,
      skipRest (k + 1 + n) (isObject :: stack) true
          (items.flatMap (',' :: ·) ++ closing isObject :: rest) =
        skipRest n stack true rest := by
  have hclose : closing isObject = ']' ∨ closing isObject = '}' := by cases isObject <;> decide
  induction items with
  | nil =>
    refine ⟨0, Nat.zero_le _, fun n stack rest => ?_⟩
    rw [Nat.zero_add, Nat.add_comm 1 n]
    exact skipRest_close n isObject stack true rest
  | cons item items ih =>
    obtain ⟨hitem, hitems⟩ := List.forall_mem_cons.mp h
    obtain ⟨j, hj, hskip⟩ := hitem
    obtain ⟨k, hk, hrest⟩ := ih hitems
    refine ⟨j + 1 + k, ?_, fun n stack rest => ?_⟩
    · rw [List.flatMap_cons, List.length_append, List.length_cons]
      omega
    · have hsteps : j + 1 + k + 1 + n = j + (k + 1 + n) + 1 := by omega
      rw [hsteps, List.flatMap_cons, List.append_assoc, List.cons_append, skipRest_comma,
        (hskip _ _ _ (stops_separated items hclose rest)).2, hrest]

/-- What stands between brackets, and the end. -/
theorem skipRest_enclosed {isObject : IsObject} {items : List (List Char)}
    (h : ∀ item ∈ items, SkipsItem isObject item) (inner : Blanks) :
    ∃ k, k ≤ 2 * ([','].intercalate items).length + 1 ∧ ∀ n stack rest,
      skipRest (k + n) (isObject :: stack) false
          (inner.1 ++ ([','].intercalate items ++ closing isObject :: rest)) =
        skipRest n stack true rest := by
  have hclose : closing isObject = ']' ∨ closing isObject = '}' := by cases isObject <;> decide
  cases items with
  | nil =>
    refine ⟨1, Nat.le_add_left 1 _, fun n stack rest => ?_⟩
    rw [skipRest_append, Nat.add_comm 1 n]
    exact skipRest_close n isObject stack false rest
  | cons item items =>
    obtain ⟨hitem, hitems⟩ := List.forall_mem_cons.mp h
    obtain ⟨j, hj, hskip⟩ := hitem
    obtain ⟨k, hk, hrest⟩ := skipRest_items hitems
    refine ⟨j + 1 + (k + 1), ?_, fun n stack rest => ?_⟩
    · rw [intercalate_cons_eq, List.length_append]
      omega
    · have hsteps : j + 1 + (k + 1) + n = j + (k + 1 + n) + 1 := by omega
      obtain ⟨hopening, hitem⟩ :=
        hskip (k + 1 + n) stack _ (stops_separated items hclose rest)
      rw [skipRest_append, hsteps, intercalate_cons_eq, List.append_assoc,
        skipRest_first _ _ _ hopening, hitem, hrest]

/-- Every value is passed over. -/
theorem skips (s : Phrase) : Skips s := by
  induction s using Phrase.induction with
  | step s ih =>
    cases s with
    | null =>
      refine ⟨1, by decide, fun n stack rest _ => ?_⟩
      rw [Nat.add_comm, skipValue]
      change (word "ull".toList ("ull".toList ++ rest) >>= _) = _
      rw [word_append, ok_bind]
    | boolean b =>
      refine ⟨1, by cases b <;> decide, fun n stack rest _ => ?_⟩
      rw [Nat.add_comm, skipValue]
      cases b
      · change (word "alse".toList ("alse".toList ++ rest) >>= _) = _
        rw [word_append, ok_bind]
      · change (word "rue".toList ("rue".toList ++ rest) >>= _) = _
        rw [word_append, ok_bind]
    | number t =>
      obtain ⟨c, cs, htext, -⟩ := t.exists_text_append_eq []
      rw [List.append_nil] at htext
      refine ⟨1, ?_, fun n stack rest hrest => ?_⟩
      · rw [Phrase.text, htext, List.length_cons]
        omega
      · obtain ⟨c, cs, htext, hc⟩ := t.exists_text_append_eq rest
        rw [Nat.add_comm, Phrase.text, htext, skipValue_number n stack hc, ← htext,
          skipNumber_text t hrest, ok_bind]
    | string ps =>
      refine ⟨1, ?_, fun n stack rest _ => ?_⟩
      · rw [Phrase.text, List.length_cons]
        omega
      · rw [Nat.add_comm, skipValue]
        change (skipString (spelled ps ++ ['"'] ++ rest) >>= _) = _
        rw [List.append_assoc, List.singleton_append, skipString_spelled, ok_bind]
    | array inner es =>
      have hitems : ∀ item ∈ Phrase.elementTexts es, SkipsItem false item := by
        rw [Phrase.elementTexts_eq_map]
        exact List.forall_mem_map.mpr fun e he =>
          Skips.element (ih e.value (List.mem_map_of_mem he))
      obtain ⟨k, hk, hskip⟩ := skipRest_enclosed hitems inner
      refine ⟨k + 1, ?_, fun n stack rest _ => ?_⟩
      · simp only [Phrase.text, List.length_cons, List.length_append]
        omega
      · rw [Phrase.text_array_append, Nat.add_right_comm, skipValue]
        exact hskip n stack rest
    | object inner es =>
      have hitems : ∀ item ∈ Phrase.entryTexts es, SkipsItem true item := by
        rw [Phrase.entryTexts_eq_map]
        exact List.forall_mem_map.mpr fun e he =>
          Skips.entry (ih e.element.value (List.mem_map_of_mem he))
      obtain ⟨k, hk, hskip⟩ := skipRest_enclosed hitems inner
      refine ⟨k + 1, ?_, fun n stack rest _ => ?_⟩
      · simp only [Phrase.text, List.length_cons, List.length_append]
        omega
      · rw [Phrase.text_object_append, Nat.add_right_comm, skipValue]
        exact hskip n stack rest

/-- The text of a value is passed over, whether it has a meaning or not. -/
theorem skip_text (s : Phrase) (b : Blanks) {rest : List Char} (hrest : Stops rest) :
    skip (b.1 ++ (s.text ++ rest)) = .ok rest := by
  obtain ⟨k, hk, hskip⟩ := skips s
  have hlimit : ∃ n, 2 * (b.1 ++ (s.text ++ rest)).length + 2 = k + n := by
    refine Nat.exists_eq_add_of_le ?_
    rw [List.length_append, List.length_append]
    omega
  obtain ⟨n, hn⟩ := hlimit
  rw [skip, hn, skipValue_append, hskip n [] rest hrest]
  cases n <;> rfl

end Ambient.Json

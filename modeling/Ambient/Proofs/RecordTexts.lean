/-
Records are read from the texts that write them.

A phrase that writes a record is read wherever it stands, if what stands in its members
has a meaning (`Inside.knows_nested`).  As for values, the proof goes by how deep brackets
may nest.  Members are read as values first, so that what is known of values is used there.

* `Slot.reads_string`, `Slot.reads_flag`, `Slot.reads_count`, `Slot.reads_orNull` — scalars;
* `runs_readEntry`, `runs_readTaggedEntry` — the entries of an object, one after the other;
* `Inside.Knows`, `Room.Enters`, `Room.knows_around` — one level of nesting;
* `parseModel_written` — whole models;
* `not_parseModel_written_halfPair` — a member with a string that has no meaning.
-/
import Ambient.Proofs.PhraseReading
import Ambient.Proofs.RecordValues
import Ambient.Record.OfText

namespace Ambient.Record

open Json (Fault Phrase Element Entry Value Blanks Reads Stops ok_bind)

/-! ### Slots in a text -/

namespace Slot

theorem reads_string {expected : Json.Expected} {text : String} {s : Phrase}
    (h : WritesText text s) : Reads (readString expected) s text := by
  obtain ⟨ps, rfl, hps⟩ := h
  intro b rest _
  rw [readString, ((Phrase.string ps).opening_text rest).skipBlank_append b]
  change Json.string (Json.spelled ps ++ ['"'] ++ rest) = _
  rw [List.append_assoc, List.singleton_append, Json.string_spelled hps, String.ofList_toList]

theorem readString_quote {expected : Json.Expected} (b b' : Blanks) (cs : List Char) :
    readString expected (b.1 ++ (b'.1 ++ '"' :: cs)) = Json.string cs := by
  rw [readString, Json.skipBlank_append, Json.skipBlank_append_cons b' cs rfl]
  rfl

theorem reads_flag {flag : Bool} {s : Phrase} (h : WritesFlag flag s) : Reads readFlag s flag := by
  obtain rfl : s = .boolean flag := h
  intro b rest _
  rw [readFlag, ((Phrase.boolean flag).opening_text rest).skipBlank_append b]
  cases flag
  · change (Json.word "alse".toList ("alse".toList ++ rest) >>= _) = _
    rw [Json.word_append, ok_bind]
    rfl
  · change (Json.word "rue".toList ("rue".toList ++ rest) >>= _) = _
    rw [Json.word_append, ok_bind]
    rfl

theorem reads_count {n : Nat} {s : Phrase} (h : WritesCount n s) : Reads readCount s n := by
  obtain ⟨t, rfl, ht, hlimit⟩ := h.numeral_value
  intro b rest hrest
  have hnumber := Json.number_text ht hrest
  have hskip := ((Phrase.number t).opening_text rest).skipBlank_append b
  change Json.skipBlank (b.1 ++ (t.text ++ rest)) = t.text ++ rest at hskip
  obtain ⟨c, cs, htext, hc⟩ := t.exists_text_append_eq rest
  rw [htext] at hnumber hskip
  rw [readCount, Phrase.text, htext, hskip]
  refine (if_pos hc).trans ?_
  rw [hnumber, ok_bind]
  exact if_pos ⟨Int.natCast_nonneg n, Int.ofNat_lt.mpr hlimit⟩

theorem reads_orNull {α : Type} {read : Json.Reader α} {P : α → Phrase → Prop} {a : Option α}
    {s : Phrase} (h : WritesOption P a s) (hnull : ∀ a, P a s → s ≠ .null)
    (hread : ∀ a, P a s → Reads read s a) : Reads (readOrNull read) s a := by
  intro b rest hrest
  rw [readOrNull, (s.opening_text rest).skipBlank_append b]
  cases a with
  | none =>
    obtain rfl : s = .null := h
    change (Json.word "ull".toList ("ull".toList ++ rest) >>= _) = _
    rw [Json.word_append, ok_bind]
    rfl
  | some a =>
    have hhead := Phrase.head_text_ne (hnull a h) rest
    split
    next cs heq => exact absurd (congrArg List.head? heq) hhead
    next =>
      rw [(hread a h).apply hrest, ok_bind]
      rfl

end Slot

/-! ### Records in a text -/

/-- What is written is read, if brackets nest no deeper. -/
structure Inside.Knows (inside : Inside) (d : Nat) : Prop where
  slot : ∀ (sl : Slot) {a : sl.Carrier} {s : Phrase},
    sl.Written Meaningful a s → s.depth ≤ d → Reads (sl.read inside) s a
  record : ∀ {α : Type} {r : RecordFormat α} {a : α} {s : Phrase},
    r.Written Meaningful a s → s.depth ≤ d → Reads (inside.record r) s a

theorem Inside.Knows.contents {inside : Inside} {d : Nat} (hknows : inside.Knows d) {α : Type}
    {contents : Contents α} {a : α} {s : Phrase} (hs : contents.Written Meaningful a s)
    (hdepth : s.depth ≤ d) : Reads (contents.read inside) s a := by
  cases contents with
  | nothing b => exact hs.elim
  | slot sl build =>
    obtain ⟨x, rfl, hs⟩ := hs
    intro b rest hrest
    change (sl.read inside (b.1 ++ (s.text ++ rest)) >>= _) = _
    rw [hknows.slot _ hs hdepth b rest hrest, ok_bind]
    rfl
  | record r => exact hknows.record hs hdepth

theorem RecordFormat.read_append {α : Type} (room : Option Room) (r : RecordFormat α) (b : Blanks)
    (cs : List Char) : r.read room (b.1 ++ cs) = r.read room cs := by
  rw [RecordFormat.read, RecordFormat.read, Json.skipBlank_append]

theorem Format.read_append {α : Type} (room : Option Room) (f : Format α) (b : Blanks)
    (cs : List Char) : f.read room (b.1 ++ cs) = f.read room cs := by
  cases f with
  | record r => exact r.read_append room b cs
  | choice alternatives => simp only [Format.read, Json.skipBlank_append]
  | tagged title key records => simp only [Format.read, Json.skipBlank_append]

theorem Inside.many_append (room : Option Room) (k : Kind) (b : Blanks) (cs : List Char) :
    (Inside.around room).many k (b.1 ++ cs) = (Inside.around room).many k cs := by
  simp only [Inside.around, Json.skipBlank_append]

/-- What stands inside brackets is read one level less deep. -/
def Room.Enters (room : Option Room) (d : Nat) : Prop :=
  ∀ m, d = m + 1 → ∃ inside, room = some ⟨m, inside⟩ ∧ inside.Knows m

theorem runs_readEntry {inside : Inside} {fields : List FieldFormat} {t : Tuple fields}
    (hfields : (fields.map (·.key)).Nodup) {es : List Entry}
    (hread : Tuple.All (fun f a => ∀ e ∈ es, e.name? = some f.key →
      Reads (f.slot.read inside) e.element.value a) fields t)
    {names : List String} (hnames : es.map Entry.name? = names.map some) {keys : List String}
    (hkeys : (names ++ keys).Nodup) :
    Json.Runs (readEntry inside) es (Partial.seen keys fields t)
      (Partial.seen (names.reverse ++ keys) fields t) := by
  induction es generalizing names keys with
  | nil =>
    obtain rfl := List.map_eq_nil_iff.mp hnames.symm
    rfl
  | cons e es ih =>
    obtain ⟨key, names, rfl, hname, hnames⟩ := List.map_eq_cons_iff.mp hnames.symm
    have htail := hread.imp fun f _ a h e' he' => h e' (List.mem_cons_of_mem _ he')
    have hperm : (key :: (names ++ keys)).Perm (names ++ key :: keys) := List.perm_middle.symm
    have hkey : key ∉ keys := fun hmem =>
      (List.nodup_cons.mp hkeys).1 (List.mem_append_right _ hmem)
    have hrest := ih htail hnames.symm (hperm.nodup_iff.mp hkeys)
    rw [List.reverse_cons, List.append_assoc, List.singleton_append]
    refine ⟨_, ⟨key, hname.symm, fun rest hstops => ?_⟩, hrest⟩
    by_cases hmem : key ∈ fields.map (·.key)
    · have hhead : Tuple.All (fun f a => f.key = key →
          (do f.slot.read inside (← Json.colon (e.beforeColon.1 ++ ':' ::
            (e.element.before.1 ++ (e.element.value.text ++ rest)))) :
              Except Fault (f.slot.Carrier × List Char)) = .ok (a, rest)) fields t := by
        refine hread.imp fun f _ a h hf => ?_
        rw [Json.colon_append, ok_bind]
        exact h e List.mem_cons_self (hname.symm.trans (congrArg some hf.symm)) _ rest hstops
      rw [readEntry, Partial.read_seen hfields hmem hkey hhead, ok_bind]
      rfl
    · rw [readEntry, Partial.read_of_not_mem _ hmem, ok_bind, Partial.seen_cons_of_not_mem hmem]
      change (Json.colon _ >>= fun cs => Json.skip cs >>= _) = _
      rw [Json.colon_append, ok_bind, Json.skip_text _ _ hstops, ok_bind]
      rfl

/-- What has been read of a tagged record when these entries have been seen, the last one
first. -/
def taggedSeen {α : Type} (key : String) (r : RecordFormat α) (done : List (String × Value)) :
    Option (RecordFormat α) × List (String × Value) :=
  (if key ∈ done.map Prod.fst then some r else none, others key done)

theorem runs_readTaggedEntry {α : Type} {key tag : String}
    {records : List (String × RecordFormat α)} {r : RecordFormat α} (hlookup : records.lookup tag = some r) {m : Nat} {es : List Entry}
    {kvs : List (String × Value)} (hmeans : List.Forall₂ Means es kvs)
    (hdepth : ∀ e ∈ es, e.element.value.depth ≤ m)
    (htag : ∀ e ∈ es, e.name? = some key → WritesText tag e.element.value)
    {done : List (String × Value)} (hnodup : (kvs.map Prod.fst ++ done.map Prod.fst).Nodup) :
    Json.Runs (readTaggedEntry m key records) es (taggedSeen key r done)
      (taggedSeen key r (kvs.reverse ++ done)) := by
  induction hmeans generalizing done with
  | nil => rfl
  | @cons e kv es kvs he _ ih =>
    obtain ⟨k, v⟩ := kv
    obtain ⟨hhead, htail⟩ := List.forall_mem_cons.mp hdepth
    have htags := fun e' he' => htag e' (List.mem_cons_of_mem _ he')
    have hperm : (k :: (kvs.map Prod.fst ++ done.map Prod.fst)).Perm
        (kvs.map Prod.fst ++ ((k, v) :: done).map Prod.fst) := List.perm_middle.symm
    have hrest := ih htail htags (hperm.nodup_iff.mp hnodup)
    rw [List.reverse_cons, List.append_assoc, List.singleton_append]
    refine ⟨_, ⟨k, he.1, fun rest hstops => ?_⟩, hrest⟩
    by_cases hk : k = key
    · subst hk
      have hnot : k ∉ done.map Prod.fst := fun hmem =>
        (List.nodup_cons.mp hnodup).1 (List.mem_append_right _ hmem)
      have hseen : k ∈ ((k, v) :: done).map Prod.fst := List.mem_cons_self
      have hstring : Reads (Slot.readString .alternative) e.element.value tag :=
        Slot.reads_string (htag e List.mem_cons_self he.1)
      rw [taggedSeen, if_neg hnot, taggedSeen, if_pos hseen, others_cons_self, readTaggedEntry,
        if_pos rfl]
      change (Json.colon _ >>= fun cs => readTag records cs >>= _) = _
      rw [Json.colon_append, ok_bind, readTag, hstring e.element.before rest hstops, ok_bind]
      simp only [findAlternative, hlookup, ok_bind]
      rfl
    · have hseen : key ∈ ((k, v) :: done).map Prod.fst ↔ key ∈ done.map Prod.fst := by
        rw [List.map_cons, List.mem_cons, or_iff_right (Ne.symm hk)]
      rw [taggedSeen, taggedSeen, others_cons hk, readTaggedEntry, if_neg hk]
      simp only [hseen]
      change (Json.colon _ >>= fun cs => Value.read m cs >>= _) = _
      rw [Json.colon_append, ok_bind, Value.reads he.2 hhead e.element.before rest hstops, ok_bind]
      rfl

namespace Room

section

variable {room : Option Room} {d : Nat} (h : Enters room d)

include h

theorem reads_record {α : Type} {r : RecordFormat α} {a : α} {s : Phrase}
    (hs : r.Written Meaningful a s) (hdepth : s.depth ≤ d) : Reads (r.read room) s a := by
  obtain ⟨hfields, t, rfl, inner, es, rfl, hes, hclauses⟩ := hs
  obtain ⟨m, rfl, hinside⟩ := Phrase.exists_of_depth_object_le hdepth
  obtain ⟨inside, rfl, hknows⟩ := h m rfl
  intro b rest _
  obtain ⟨names, hnames, hnodup⟩ := hes.exists_names
  have hread : Tuple.All (fun f a => ∀ e ∈ es, e.name? = some f.key →
      Reads (f.slot.read inside) e.element.value a) r.fields t := by
    refine (Tuple.all_of_clauses hclauses).imp fun f _ a hf e he hname => ?_
    exact hknows.slot _ (hf.written hes he hname) (hinside e he)
  have hcomplete : Tuple.All
      (fun f a => f.key ∈ names.reverse ++ [] ∨ f.default? = some a) r.fields t := by
    refine (Tuple.all_of_clauses hclauses).imp fun f _ a hf => ?_
    rcases hf with ⟨e, he, hname, -⟩ | ⟨hdefault, -⟩
    · have hmem : some f.key ∈ names.map some := by
        rw [← hnames]
        exact List.mem_map.mpr ⟨e, he, hname⟩
      obtain ⟨name, hname, heq⟩ := List.mem_map.mp hmem
      rw [List.append_nil, List.mem_reverse]
      exact .inl (Option.some.inj heq ▸ hname)
    · exact .inr hdefault
  have hruns : Json.Runs (readEntry inside) es (Partial.seen [] r.fields t) _ :=
    runs_readEntry hfields hread hnames (by rwa [List.append_nil])
  obtain ⟨b', hentries⟩ := Json.entries_text hruns inner rest
  rw [Partial.seen_nil] at hentries
  rw [RecordFormat.read_append, Phrase.text_object_append]
  change r.readEntries inside (Phrase.objectRest inner es rest) = _
  rw [RecordFormat.readEntries, hentries, ok_bind]
  simp only [Partial.complete_seen hcomplete, ok_bind, Json.closeObject_append]
  rfl

theorem reads_tagged {α : Type} {title key : String} {records : List (String × RecordFormat α)}
    {a : α} {s : Phrase} (hs : (Format.tagged title key records).Written Meaningful a s)
    (hdepth : s.depth ≤ d) : Reads ((Format.tagged title key records).read room) s a := by
  obtain ⟨tag, r, hlookup, hkeys, t, rfl, ⟨inner, es, rfl, hes, hclauses⟩, hfits⟩ := hs
  obtain ⟨m, rfl, hinside⟩ := Phrase.exists_of_depth_object_le hdepth
  obtain ⟨inside, rfl, hknows⟩ := h m rfl
  obtain ⟨htag, hclauses⟩ := List.forall_mem_cons.mp hclauses
  obtain ⟨kvs, hkvs⟩ := Json.exists_entryValues? hes.1 fun e he =>
    hfits e.element.value (List.mem_map_of_mem he)
  have hmeans : List.Forall₂ Means es kvs := Phrase.forall₂_of_entryValues? hkvs
  have hread : r.ofEntries (Within.nested m) (others key kvs) = .ok (r.build t) :=
    (Within.knows_nested m).ofEntries_others hkeys hes hclauses hmeans hinside
  have hruns : Json.Runs (readTaggedEntry m key records) es (taggedSeen key r []) _ :=
    runs_readTaggedEntry hlookup hmeans hinside
      (fun e he hname => htag.written hes he hname) (by
        rw [List.map_nil, List.append_nil]
        exact hes.nodup hmeans)
  have htagged : taggedSeen key r (kvs.reverse ++ []) = (some r, (others key kvs).reverse) := by
    have hmem : key ∈ (kvs.reverse ++ []).map Prod.fst := by
      rw [List.append_nil, List.map_reverse, List.mem_reverse]
      rcases htag with ⟨e, he, hname, -⟩ | ⟨hfalse, -⟩
      · obtain ⟨kv, hkv, hkey, -⟩ := Json.exists_of_mem_left hmeans he
        exact List.mem_map.mpr ⟨kv, hkv, Option.some.inj (hkey.symm.trans hname)⟩
      · exact hfalse.elim
    rw [taggedSeen, if_pos hmem, List.append_nil, others, List.filter_reverse]
    rfl
  change Json.Runs (readTaggedEntry m key records) es (taggedSeen key r []) (taggedSeen key r _)
    at hruns
  rw [htagged] at hruns
  intro b rest _
  obtain ⟨b', hentries⟩ := Json.entries_text hruns inner rest
  rw [Format.read_append, Phrase.text_object_append]
  change readTaggedEntries m key records (Phrase.objectRest inner es rest) = _
  rw [readTaggedEntries]
  change (Json.entries (readTaggedEntry m key records) _ true (taggedSeen key r []) _ >>= _) = _
  rw [hentries, ok_bind]
  simp only [Json.closeObject_append, ok_bind, List.reverse_reverse, hread]
  rfl

/-- What has the form of a format is read from a text. -/
theorem reads_format {α : Type} {f : Format α} {a : α} {s : Phrase}
    (hs : f.Written Meaningful a s) (hdepth : s.depth ≤ d) : Reads (f.read room) s a := by
  cases f with
  | record r => exact reads_record h hs hdepth
  | tagged title key records => exact reads_tagged h hs hdepth
  | choice alternatives =>
    rcases hs with ⟨name, hlookup, ps, rfl, hps⟩ |
      ⟨name, contents, hlookup, inner, e, rfl, hname, he⟩
    · intro b rest _
      rw [Format.read_append]
      change (Json.string (Json.spelled ps ++ ['"'] ++ rest) >>= _) = _
      rw [List.append_assoc, List.singleton_append, Json.string_spelled hps, String.ofList_toList,
        ok_bind]
      simp only [findAlternative, hlookup, ok_bind]
      rfl
    · obtain ⟨m, rfl, hinside⟩ := Phrase.exists_of_depth_object_le hdepth
      obtain ⟨inside, rfl, hknows⟩ := h m rfl
      intro b rest hrest
      rw [Format.read_append, Phrase.text_object_append]
      change readAlternative inside alternatives (Phrase.objectRest inner [e] rest) = _
      obtain ⟨chars, hchars, rfl⟩ := Option.map_eq_some_iff.mp hname
      have hclose : Stops (e.element.after.1 ++ '}' :: rest) :=
        Stops.append_of_blanks _ (Json.stops_cons.mpr (.inr (.inr (.inr rfl))))
      have hcontents := hknows.contents he (hinside e List.mem_cons_self) e.element.before _ hclose
      rw [Phrase.objectRest, Phrase.entryTexts, Phrase.entryTexts, List.intercalate_singleton,
        Json.entryText_append, readAlternative, Slot.readString_quote, Json.string_spelled hchars,
        ok_bind]
      simp only [findAlternative, hlookup, ok_bind, Json.colon_append, hcontents,
        Json.skipBlank_append_cons e.element.after rest (by rfl : Json.isBlank '}' = false)]
      rfl

theorem reads_many {k : Kind} {as : List k.Carrier} {s : Phrase}
    (hs : WritesList (k.Written Meaningful) as s) (hdepth : s.depth ≤ d) :
    Reads ((Inside.around room).many k) s as := by
  obtain ⟨inner, es, rfl, hes⟩ := hs
  obtain ⟨m, rfl, hinside⟩ := Phrase.exists_of_depth_array_le hdepth
  obtain ⟨inside, rfl, hknows⟩ := h m rfl
  have hreads : List.Forall₂ (fun e a => Reads (inside.one k) e.value a) es as :=
    Json.forall₂_imp_of_mem hes fun e he a ha => hknows.slot (.one k) ha (hinside e he)
  intro b rest _
  rw [Phrase.text_array_append, Inside.many_append]
  exact Json.array_text hreads inner rest

theorem knows_around : (Inside.around room).Knows d := by
  refine ⟨?_, reads_record h⟩
  intro sl a s hs hdepth
  cases sl with
  | text => exact Slot.reads_string hs
  | flag => exact Slot.reads_flag hs
  | count => exact Slot.reads_count hs
  | one k => exact reads_format h (Kind.written_format hs) hdepth
  | many k => exact reads_many h hs hdepth
  | textOrNull =>
    refine Slot.reads_orNull hs ?_ fun text htext => Slot.reads_string htext
    rintro text ⟨ps, rfl, -⟩
    exact nofun
  | oneOrNull k =>
    exact Slot.reads_orNull hs (fun a ha => (Kind.written_format ha).ne_null) fun a ha =>
      reads_format h (Kind.written_format ha) hdepth

end

end Room

/-- Texts are read in which brackets nest as deep as they may. -/
theorem Inside.knows_nested (d : Nat) : (Inside.nested d).Knows d := by
  induction d with
  | zero => exact Room.knows_around fun m hm => by cases hm
  | succ d ih =>
    refine Room.knows_around fun m hm => ?_
    obtain rfl := Nat.succ.inj hm
    exact ⟨_, rfl, ih⟩

/-! ### Models -/

/-- **The reader accepts its whole format.**  However a list of types is written, the
definitions of these types are read, in order.  Brackets have to nest less than 128 deep, and
what stands in a member has to have a meaning as a value. -/
theorem parseModel_written {types : List TypeDecl} {s : Phrase} (before after : Blanks)
    (hs : (Model.mk types).Written Meaningful s) (hdepth : s.depth < 128) :
    parseModel (String.ofList (before.1 ++ (s.text ++ after.1))) =
      .ok (types.map TypeDecl.toDefinition) := by
  have hstops : Stops after.1 := by
    have hblanks := Json.stops_nil.append_of_blanks after
    rwa [List.append_nil] at hblanks
  have hblank : Json.skipBlank after.1 = [] := by
    have hskip := Json.skipBlank_append after []
    rwa [List.append_nil] at hskip
  have hread : (Inside.nested maxDepth).one .model (before.1 ++ (s.text ++ after.1)) =
      .ok (⟨types⟩, after.1) :=
    (Inside.knows_nested maxDepth).slot (.one .model) hs (Nat.le_of_lt_succ hdepth) before
      after.1 hstops
  rw [parseModel, ofText, String.toList_ofList, hread, ok_bind]
  simp only [hblank, List.isEmpty_nil, if_true]
  rfl

/-- A string in which every character is written as itself. -/
def plain (text : String) : List Json.Spelling :=
  text.toList.filterMap fun c =>
    if h : c ≠ '"' ∧ c ≠ '\\' ∧ 0x20 ≤ c.toNat then some (.plain c h) else none

/-- An entry without blanks. -/
def entryOf (key : String) (value : Phrase) : Entry :=
  ⟨default, plain key, default, ⟨default, value, default⟩⟩

/-- The end of a line. -/
def newline : Blanks :=
  ⟨['\n'], List.forall_mem_singleton.mpr rfl⟩

/-- An array with one element, on a line of its own. -/
def arrayOf (value : Phrase) : Phrase :=
  .array default [⟨newline, value, default⟩]

/-- The string `a.A`, in which an escape writes the first letter. -/
def escapedName : Phrase :=
  .string (.number ⟨'0', 0, rfl⟩ ⟨'0', 0, rfl⟩ ⟨'6', 6, rfl⟩ ⟨'1', 1, rfl⟩ :: plain ".A")

/-- The entries of a nested type, in which something stands under another key. -/
def nestedEntries (note : Phrase) : List Entry :=
  [entryOf "name" (.string (plain "a.A.B")), entryOf "note" note,
   entryOf "kind" (.string (plain "enum")), entryOf "member" (.string (plain "type"))]

/-- The entries of a type with one type nested in it. -/
def outerEntries (note : Phrase) : List Entry :=
  [entryOf "kind" (.string (plain "class")),
   entryOf "members" (arrayOf (.object default (nestedEntries note))),
   entryOf "static" (.boolean true), entryOf "name" escapedName]

/-- A model of that type. -/
def nestedSample (note : Phrase) : Phrase :=
  .object default [entryOf "types" (arrayOf (.object default (outerEntries note)))]

/-- The type nested in it. -/
def nestedType : TypeDecl :=
  ⟨"a.A.B", .enum, [], [], [], [], none, true, false⟩

/-- The type. -/
def outerType : TypeDecl :=
  ⟨"a.A", .classType, [], [], [], [.nested nestedType], none, true, true⟩

theorem writesText_plain {text : String} (h : Json.meaning (plain text) = some text.toList) :
    WritesText text (.string (plain text)) :=
  ⟨_, rfl, h⟩

theorem nestedType_written {fits : Phrase → Prop} {note : Phrase} (hnote : fits note)
    (hstring : ∀ text ∈ ["a.A.B", "enum", "type"], fits (.string (plain text))) :
    Member.Written fits (.nested nestedType) (.object default (nestedEntries note)) := by
  have hnames : (nestedEntries note).map Entry.name? =
      ["name", "note", "kind", "member"].map some := rfl
  simp only [List.forall_mem_cons] at hstring
  obtain ⟨hname, hkind, hmember, -⟩ := hstring
  refine ⟨⟨_, _, rfl, wellKeyed_of_names _ hnames (by decide), ?_⟩, ?_⟩
  · simp only [nestedType, TypeDecl.clauses, List.forall_mem_cons]
    refine ⟨.of_getElem? 3 rfl rfl (writesText_plain rfl),
      .of_getElem? 0 rfl rfl (writesText_plain rfl), .of_getElem? 2 rfl rfl (writesText_plain rfl),
      ?_, ?_, ?_, ?_, ?_, ?_, ?_, List.forall_mem_nil _⟩
    all_goals exact .of_not_mem hnames (by decide)
  · change ∀ t ∈ (nestedEntries note).map (·.element.value), fits t
    simp only [nestedEntries, List.map_cons, List.map_nil, List.forall_mem_cons]
    exact ⟨hname, hnote, hkind, hmember, List.forall_mem_nil _⟩

theorem nestedSample_written {fits : Phrase → Prop} {note : Phrase} (hnote : fits note)
    (hstring : ∀ text ∈ ["a.A.B", "enum", "type"], fits (.string (plain text))) :
    (Model.mk [outerType]).Written fits (nestedSample note) := by
  have hnames : (outerEntries note).map Entry.name? =
      ["kind", "members", "static", "name"].map some := rfl
  refine ⟨_, _, rfl, wellKeyed_of_names ["types"] rfl (by decide), ?_⟩
  refine List.forall_mem_singleton.mpr (.inl ⟨_, List.mem_cons_self, rfl, _, _, rfl, ?_⟩)
  refine .cons ⟨_, _, rfl, wellKeyed_of_names _ hnames (by decide), ?_⟩ .nil
  simp only [outerType, TypeDecl.clauses, List.forall_mem_cons]
  refine ⟨.of_getElem? 3 rfl rfl ⟨_, rfl, rfl⟩, .of_getElem? 0 rfl rfl (writesText_plain rfl),
    ?_, ?_, ?_,
    .of_getElem? 1 rfl rfl ⟨_, _, rfl, _, [], rfl, nestedType_written hnote hstring, rfl⟩, ?_, ?_, .of_getElem? 2 rfl rfl rfl, List.forall_mem_nil _⟩
  all_goals exact .of_not_mem hnames (by decide)

/-- A type with a type nested in it is read, with more in the nested one than it needs. -/
theorem parseModel_written_nested :
    (Model.mk [outerType]).Written Meaningful (nestedSample (.boolean true)) ∧
    (nestedSample (.boolean true)).depth = 5 ∧
    parseModel (String.ofList ([] ++ ((nestedSample (.boolean true)).text ++ ['\n']))) =
      .ok [outerType.toDefinition] := by
  have hwritten : (Model.mk [outerType]).Written Meaningful (nestedSample (.boolean true)) :=
    nestedSample_written (by decide) (by decide)
  have hdepth : (nestedSample (.boolean true)).depth = 5 := by decide
  refine ⟨hwritten, hdepth, ?_⟩
  exact parseModel_written default newline hwritten (by rw [hdepth]; decide)

/-- A string with half of a surrogate pair. -/
def halfPair : Phrase :=
  .string [.number ⟨'d', 13, rfl⟩ ⟨'8', 8, rfl⟩ ⟨'0', 0, rfl⟩ ⟨'0', 0, rfl⟩]

/-- What stands in a member is read as a value first, so that a string without a meaning is
refused there even under a key that nothing reads. -/
theorem not_parseModel_written_halfPair :
    ¬∀ (types : List TypeDecl) (s : Phrase) (before after : Blanks),
      (Model.mk types).Written (fun _ => True) s → s.depth < 128 →
        parseModel (String.ofList (before.1 ++ (s.text ++ after.1))) =
          .ok (types.map TypeDecl.toDefinition) := by
  intro h
  have hread := h [outerType] (nestedSample halfPair) default default
    (nestedSample_written trivial fun _ _ => trivial) (by decide)
  have hrefused : (parseModel (String.ofList
      ([] ++ ((nestedSample halfPair).text ++ [])))).toBool = false := by
    decide +kernel
  change parseModel (String.ofList ([] ++ ((nestedSample halfPair).text ++ []))) = _ at hread
  rw [hread] at hrefused
  cases hrefused

end Ambient.Record

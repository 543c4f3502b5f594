/-
Records are read from the values that write them.

A phrase that writes a record and has a meaning is understood from its value
(`Within.knows_nested`).  The proof goes by how deep brackets may nest: what stands inside
a pair of brackets is known to be understood one level less deep, and from it every format
is.

* `Settles`, `RecordFormat.ofEntries_eq` — a record from its entries, in any order;
* `untag_eq` — the tag of a member, wherever it stands;
* `Within.Knows`, `Within.Enters`, `Within.knows_around` — one level of nesting.
-/
import Mathlib.Data.List.Nodup
import Ambient.Proofs.RecordForms

namespace Ambient.Record

open Json (Fault Phrase Element Entry Value ok_bind)

/-! ### Records from values -/

theorem WritesText.value {text : String} {s : Phrase} {v : Value} (hs : WritesText text s)
    (hv : s.value? = some v) : v = .string text := by
  obtain ⟨ps, rfl, hps⟩ := hs
  rw [Phrase.value?, hps, Option.map_some, String.ofList_toList] at hv
  exact (Option.some.inj hv).symm

theorem WritesCount.numeral_value {n : Nat} {s : Phrase} (hs : WritesCount n s) :
    ∃ t, s = .number t ∧ t.numeral.value = some (.integer n) ∧ n < countLimit := by
  obtain ⟨t, rfl, hsign, hfraction, hexponent, hn, hlimit⟩ := hs
  refine ⟨t, rfl, ?_, hlimit⟩
  have hword : n < Json.Numeral.wordLimit := Nat.lt_trans hlimit (by decide)
  simp only [Json.Numeral.value, Json.NumberText.numeral, hsign, hfraction, hexponent, hn]
  exact if_pos hword

theorem WritesCount.value {n : Nat} {s : Phrase} {v : Value} (hs : WritesCount n s)
    (hv : s.value? = some v) : v = .number (.integer n) ∧ n < countLimit := by
  obtain ⟨t, rfl, ht, hlimit⟩ := hs.numeral_value
  rw [Phrase.value?, ht, Option.map_some] at hv
  exact ⟨(Option.some.inj hv).symm, hlimit⟩

/-- No record is written as `null`. -/
theorem Format.Written.ne_null {fits : Phrase → Prop} {α : Type} {f : Format α} {a : α} {s : Phrase}
    (hs : f.Written fits a s) : s ≠ .null := by
  rintro rfl
  cases f with
  | record r =>
    obtain ⟨-, t, -, inner, es, hnull, -⟩ := hs
    cases hnull
  | choice alternatives =>
    rcases hs with ⟨name, -, ps, hnull, -⟩ | ⟨name, contents, -, inner, e, hnull, -⟩ <;> cases hnull
  | tagged title key records =>
    obtain ⟨tag, r, -, -, t, -, ⟨inner, es, hnull, -⟩, -⟩ := hs
    cases hnull

theorem value_ne_null {s : Phrase} {v : Value} (hs : s ≠ .null) (hv : s.value? = some v) :
    v ≠ .null := by
  rintro rfl
  cases s with
  | null => exact hs rfl
  | boolean b => cases hv
  | number t => exact absurd hv (by simp [Phrase.value?])
  | string ps => exact absurd hv (by simp [Phrase.value?])
  | array inner es => exact absurd hv (by simp [Phrase.value?])
  | object inner es => exact absurd hv (by simp [Phrase.value?])

/-- The phrase has a meaning as a value. -/
def Meaningful (s : Phrase) : Prop :=
  s.value?.isSome

instance (s : Phrase) : Decidable (Meaningful s) :=
  inferInstanceAs (Decidable (s.value?.isSome = true))

/-- The entry stands under the key with the value. -/
def Means (e : Entry) (kv : String × Value) : Prop :=
  e.name? = some kv.1 ∧ e.element.value.value? = some kv.2

theorem Clause.HoldsIn.written {c : Clause} {es : List Entry} (h : c.HoldsIn es)
    (hes : WellKeyed es) {e : Entry} (he : e ∈ es) (hname : e.name? = some c.key) :
    c.written e.element.value := by
  rcases h with ⟨e', he', hname', hwritten⟩ | ⟨-, hmissing⟩
  · rw [List.inj_on_of_nodup_map hes.2 he he' (hname.trans hname'.symm)]
    exact hwritten
  · exact absurd hname (hmissing e he)

/-- The keys of the entries. -/
theorem WellKeyed.exists_names {es : List Entry} (h : WellKeyed es) :
    ∃ names : List String, es.map Entry.name? = names.map some ∧ names.Nodup := by
  have hnames : ∃ names : List String, es.map Entry.name? = names.map some := by
    have hsome := h.1
    clear h
    induction es with
    | nil => exact ⟨[], rfl⟩
    | cons e es ih =>
      obtain ⟨hhead, htail⟩ := List.forall_mem_cons.mp hsome
      obtain ⟨name, hname⟩ := Option.isSome_iff_exists.mp hhead
      obtain ⟨names, hnames⟩ := ih htail
      exact ⟨name :: names, by rw [List.map_cons, List.map_cons, hname, hnames]⟩
  obtain ⟨names, hnames⟩ := hnames
  have hnodup := h.2
  rw [hnames] at hnodup
  exact ⟨names, hnames, hnodup.of_map some⟩

theorem WellKeyed.nodup {es : List Entry} {kvs : List (String × Value)} (h : WellKeyed es)
    (hkvs : List.Forall₂ Means es kvs) : (kvs.map Prod.fst).Nodup := by
  have hnames : es.map Entry.name? = (kvs.map Prod.fst).map some := by
    rw [List.map_map]
    clear h
    induction hkvs with
    | nil => rfl
    | cons he _ ih => rw [List.map_cons, List.map_cons, ih, he.1, Function.comp]
  have hnodup := h.2
  rw [hnames] at hnodup
  exact hnodup.of_map some

/-- The entries under other keys. -/
def others (key : String) (kvs : List (String × Value)) : List (String × Value) :=
  kvs.filter fun kv => kv.1 ≠ key

theorem others_cons_self {key : String} {v : Value} {kvs : List (String × Value)} :
    others key ((key, v) :: kvs) = others key kvs := by
  simp [others]

theorem others_cons {key k : String} {v : Value} {kvs : List (String × Value)} (h : k ≠ key) :
    others key ((k, v) :: kvs) = (k, v) :: others key kvs := by
  simp [others, h]

theorem others_sublist (key : String) (kvs : List (String × Value)) :
    (others key kvs).Sublist kvs :=
  List.filter_sublist

/-- The entries say what the field is, or leave its default. -/
def Settles (within : Within) (kvs : List (String × Value)) (f : FieldFormat) (a : f.slot.Carrier) :
    Prop :=
  (∃ v, (f.key, v) ∈ kvs ∧ f.slot.ofValue within v = .ok a) ∨
    (f.key ∉ kvs.map Prod.fst ∧ f.default? = some a)

section

variable {within : Within} {fields : List FieldFormat} {t : Tuple fields}

theorem fieldsOfEntries_seen (hfields : (fields.map (·.key)).Nodup) {kvs : List (String × Value)}
    (hread : Tuple.All
      (fun f a => ∀ v, (f.key, v) ∈ kvs → f.slot.ofValue within v = .ok a) fields t)
    {keys : List String} (hkeys : (kvs.map Prod.fst ++ keys).Nodup) :
    fieldsOfEntries within (Partial.seen keys fields t) kvs =
      .ok (Partial.seen ((kvs.map Prod.fst).reverse ++ keys) fields t) := by
  induction kvs generalizing keys with
  | nil => rfl
  | cons kv kvs ih =>
    obtain ⟨key, v⟩ := kv
    have htail := hread.imp fun f _ a h w hw => h w (List.mem_cons_of_mem _ hw)
    have hperm : (key :: (kvs.map Prod.fst ++ keys)).Perm (kvs.map Prod.fst ++ key :: keys) :=
      List.perm_middle.symm
    have hkey : key ∉ keys := fun hmem =>
      (List.nodup_cons.mp hkeys).1 (List.mem_append_right _ hmem)
    have hrest := ih htail (hperm.nodup_iff.mp hkeys)
    rw [List.map_cons, List.reverse_cons, List.append_assoc, List.singleton_append, ← hrest,
      fieldsOfEntries]
    by_cases hmem : key ∈ fields.map (·.key)
    · have hhead : Tuple.All (fun f a => f.key = key →
          (do return (← f.slot.ofValue within v, ()) : Except Fault (f.slot.Carrier × Unit)) =
            .ok (a, ())) fields t := by
        refine hread.imp fun f _ a h hf => ?_
        rw [h v (hf ▸ List.mem_cons_self), ok_bind]
        rfl
      rw [Partial.read_seen hfields hmem hkey hhead, ok_bind]
    · rw [Partial.read_of_not_mem _ hmem, ok_bind, Partial.seen_cons_of_not_mem hmem]

/-- A record is made of entries that settle its fields. -/
theorem RecordFormat.ofEntries_eq {α : Type} {r : RecordFormat α} (hfields : r.keys.Nodup)
    {t : Tuple r.fields} {kvs : List (String × Value)} (hkvs : (kvs.map Prod.fst).Nodup)
    (h : Tuple.All (Settles within kvs) r.fields t) : r.ofEntries within kvs = .ok (r.build t) := by
  have hread : Tuple.All
      (fun f a => ∀ v, (f.key, v) ∈ kvs → f.slot.ofValue within v = .ok a) r.fields t := by
    refine h.imp fun f _ a hf v hv => ?_
    rcases hf with ⟨w, hw, hread⟩ | ⟨hmissing, -⟩
    · cases List.inj_on_of_nodup_map hkvs hv hw rfl
      exact hread
    · exact absurd (List.mem_map_of_mem hv) hmissing
  have hcomplete : Tuple.All
      (fun f a => f.key ∈ (kvs.map Prod.fst).reverse ++ [] ∨ f.default? = some a) r.fields t := by
    refine h.imp fun f _ a hf => ?_
    rw [List.append_nil, List.mem_reverse]
    rcases hf with ⟨v, hv, -⟩ | ⟨-, hdefault⟩
    · exact .inl (List.mem_map_of_mem hv)
    · exact .inr hdefault
  have hseen : fieldsOfEntries within (Partial.seen [] r.fields t) kvs = _ :=
    fieldsOfEntries_seen hfields hread (by rwa [List.append_nil])
  rw [Partial.seen_nil] at hseen
  rw [RecordFormat.ofEntries, hseen, ok_bind, Partial.complete_seen hcomplete, ok_bind]
  rfl

theorem Settles.others {kvs : List (String × Value)} {f : FieldFormat} {a : f.slot.Carrier}
    {key : String} (h : Settles within kvs f a) (hf : f.key ≠ key) :
    Settles within (others key kvs) f a := by
  rcases h with ⟨v, hv, hread⟩ | ⟨hmissing, hdefault⟩
  · exact .inl ⟨v, List.mem_filter.mpr ⟨hv, decide_eq_true hf⟩, hread⟩
  · refine .inr ⟨fun hmem => hmissing ?_, hdefault⟩
    exact ((others_sublist key kvs).map Prod.fst).subset hmem

theorem untag_of_not_mem {α : Type} {key : String} {records : List (String × RecordFormat α)}
    {r : Option (RecordFormat α)} {kvs : List (String × Value)} (h : key ∉ kvs.map Prod.fst) :
    untag key records r kvs = .ok (r, others key kvs) := by
  induction kvs with
  | nil => rfl
  | cons kv kvs ih =>
    obtain ⟨hne, htail⟩ := not_or.mp (List.mem_cons.not.mp h)
    obtain ⟨k, v⟩ := kv
    rw [others_cons (Ne.symm hne)]
    cases r <;>
      rw [untag, if_neg (Ne.symm hne), ih htail, ok_bind] <;> rfl

/-- The tag is found wherever it stands. -/
theorem untag_eq {α : Type} {key tag : String} {records : List (String × RecordFormat α)}
    {r : RecordFormat α} (hlookup : records.lookup tag = some r) {kvs : List (String × Value)}
    (hkvs : (kvs.map Prod.fst).Nodup) (htag : (key, Value.string tag) ∈ kvs) :
    untag key records none kvs = .ok (some r, others key kvs) := by
  induction kvs with
  | nil => cases htag
  | cons kv kvs ih =>
    obtain ⟨hnot, hrest⟩ := List.nodup_cons.mp hkvs
    rcases List.mem_cons.mp htag with rfl | hmem
    · rw [others_cons_self, untag, if_pos rfl, recordOfTag, findAlternative, hlookup, ok_bind,
        untag_of_not_mem hnot]
    · obtain ⟨k, v⟩ := kv
      have hne : k ≠ key := by
        rintro rfl
        exact hnot (List.mem_map.mpr ⟨_, hmem, rfl⟩)
      rw [others_cons hne, untag, if_neg hne, ih hrest hmem, ok_bind]
      rfl

end

/-- What is written is understood, if it has a meaning and brackets nest no deeper. -/
structure Within.Knows (within : Within) (d : Nat) : Prop where
  slot : ∀ (sl : Slot) {a : sl.Carrier} {s : Phrase} {v : Value},
    sl.Written Meaningful a s → s.value? = some v → s.depth ≤ d → sl.ofValue within v = .ok a
  record : ∀ {α : Type} {expected : Json.Expected} {r : RecordFormat α} {a : α} {s : Phrase}
    {v : Value}, r.Written Meaningful a s → s.value? = some v → s.depth ≤ d →
      within.record expected r v = .ok a

namespace Within

section

variable {within : Within} {d : Nat} (h : within.Knows d)

include h

/-- The entries of an object settle its fields. -/
theorem Knows.settles {es : List Entry} {kvs : List (String × Value)}
    (hkvs : List.Forall₂ Means es kvs) (hdepth : ∀ e ∈ es, e.element.value.depth ≤ d)
    {fields : List FieldFormat} {t : Tuple fields}
    (hclauses : ∀ c ∈ Tuple.clauses Meaningful fields t, c.HoldsIn es) :
    Tuple.All (Settles within kvs) fields t := by
  refine (Tuple.all_of_clauses hclauses).imp fun f _ a hf => ?_
  rcases hf with ⟨e, he, hname, hwritten⟩ | ⟨homissible, hmissing⟩
  · obtain ⟨⟨key, v⟩, hkv, hmeans⟩ := Json.exists_of_mem_left hkvs he
    obtain rfl : f.key = key := Option.some.inj (hname.symm.trans hmeans.1)
    exact .inl ⟨v, hkv, h.slot _ hwritten hmeans.2 (hdepth e he)⟩
  · refine .inr ⟨fun hmem => ?_, homissible⟩
    obtain ⟨kv, hkv, hkey⟩ := List.mem_map.mp hmem
    obtain ⟨e, he, hmeans⟩ := Json.exists_of_mem_right hkvs hkv
    exact hmissing e he (hmeans.1.trans (congrArg some hkey))

end

/-- The fields of a tagged record are among the other entries. -/
theorem Knows.ofEntries_others {within : Within} {d : Nat} (h : within.Knows d) {α : Type}
    {r : RecordFormat α} {key : String} (hkeys : (key :: r.keys).Nodup) {t : Tuple r.fields}
    {es : List Entry} (hes : WellKeyed es)
    (hclauses : ∀ c ∈ Tuple.clauses Meaningful r.fields t, c.HoldsIn es)
    {kvs : List (String × Value)} (hmeans : List.Forall₂ Means es kvs)
    (hdepth : ∀ e ∈ es, e.element.value.depth ≤ d) :
    r.ofEntries within (others key kvs) = .ok (r.build t) := by
  obtain ⟨hkey, hfields⟩ := List.nodup_cons.mp hkeys
  have hsettles : Tuple.All (Settles within (others key kvs)) r.fields t :=
    (h.settles hmeans hdepth hclauses).imp fun f hf a hsettles =>
      hsettles.others fun heq => hkey (heq ▸ List.mem_map_of_mem hf)
  have hnodup : ((others key kvs).map Prod.fst).Nodup :=
    (hes.nodup hmeans).sublist ((others_sublist key kvs).map Prod.fst)
  exact RecordFormat.ofEntries_eq hfields hnodup hsettles

theorem Knows.contents {within : Within} {d : Nat} (hknows : within.Knows d) {α : Type}
    {contents : Contents α} {a : α} {s : Phrase} {v : Value}
    (hs : contents.Written Meaningful a s) (hv : s.value? = some v) (hdepth : s.depth ≤ d) :
    contents.ofValue within v = .ok a := by
  cases contents with
  | nothing b => exact hs.elim
  | slot sl build =>
    obtain ⟨x, rfl, hs⟩ := hs
    rw [Contents.ofValue, hknows.slot _ hs hv hdepth]
    rfl
  | record r => exact hknows.record hs hv hdepth

/-- What stands inside brackets is understood one level less deep. -/
def Enters (inside : Option Within) (d : Nat) : Prop :=
  ∀ m, d = m + 1 → ∃ within, inside = some within ∧ within.Knows m

section

variable {inside : Option Within} {d : Nat} (h : Enters inside d)

include h

theorem ofValue_record {α : Type} {expected : Json.Expected} {r : RecordFormat α} {a : α}
    {s : Phrase} {v : Value} (hs : r.Written Meaningful a s) (hv : s.value? = some v)
    (hdepth : s.depth ≤ d) : r.ofValue inside expected v = .ok a := by
  obtain ⟨hfields, t, rfl, inner, es, rfl, hes, hclauses⟩ := hs
  obtain ⟨kvs, hkvs, rfl⟩ := Option.map_eq_some_iff.mp hv
  obtain ⟨m, rfl, hinside⟩ := Phrase.exists_of_depth_object_le hdepth
  obtain ⟨within, rfl, hknows⟩ := h m rfl
  have hmeans : List.Forall₂ Means es kvs := Phrase.forall₂_of_entryValues? hkvs
  exact RecordFormat.ofEntries_eq hfields (hes.nodup hmeans)
    (hknows.settles hmeans hinside hclauses)

theorem ofValue_tagged {α : Type} {title key : String} {records : List (String × RecordFormat α)}
    {a : α} {s : Phrase} {v : Value}
    (hs : (Format.tagged title key records).Written Meaningful a s) (hv : s.value? = some v)
    (hdepth : s.depth ≤ d) : (Format.tagged title key records).ofValue inside v = .ok a := by
  obtain ⟨tag, r, hlookup, hkeys, t, rfl, ⟨inner, es, rfl, hes, hclauses⟩, -⟩ := hs
  obtain ⟨kvs, hkvs, rfl⟩ := Option.map_eq_some_iff.mp hv
  obtain ⟨m, rfl, hinside⟩ := Phrase.exists_of_depth_object_le hdepth
  obtain ⟨within, rfl, hknows⟩ := h m rfl
  obtain ⟨htag, hclauses⟩ := List.forall_mem_cons.mp hclauses
  have hmeans : List.Forall₂ Means es kvs := Phrase.forall₂_of_entryValues? hkvs
  have hmem : (key, Value.string tag) ∈ kvs := by
    rcases htag with ⟨e, he, hname, ps, hps, hmeaning⟩ | ⟨hfalse, -⟩
    · obtain ⟨⟨key', v⟩, hkv, hkey', hv⟩ := Json.exists_of_mem_left hmeans he
      obtain rfl : key = key' := Option.some.inj (hname.symm.trans hkey')
      rw [hps, Phrase.value?, hmeaning, Option.map_some, String.ofList_toList] at hv
      rwa [Option.some.inj hv]
    · exact hfalse.elim
  change (untag key records none kvs >>= _) = _
  rw [untag_eq hlookup (hes.nodup hmeans) hmem, ok_bind]
  exact hknows.ofEntries_others hkeys hes hclauses hmeans hinside

/-- What has the form of a format is read from its value. -/
theorem ofValue_format {α : Type} {f : Format α} {a : α} {s : Phrase} {v : Value}
    (hs : f.Written Meaningful a s) (hv : s.value? = some v) (hdepth : s.depth ≤ d) :
    f.ofValue inside v = .ok a := by
  cases f with
  | record r => exact ofValue_record h hs hv hdepth
  | tagged title key records => exact ofValue_tagged h hs hv hdepth
  | choice alternatives =>
    rcases hs with ⟨name, hlookup, ps, rfl, hps⟩ |
      ⟨name, contents, hlookup, inner, e, rfl, hname, he⟩
    · rw [Phrase.value?, hps, Option.map_some, String.ofList_toList] at hv
      obtain rfl := Option.some.inj hv
      rw [Format.ofValue, findAlternative, hlookup, ok_bind]
      rfl
    · obtain ⟨kvs, hkvs, rfl⟩ := Option.map_eq_some_iff.mp hv
      obtain ⟨m, rfl, hinside⟩ := Phrase.exists_of_depth_object_le hdepth
      obtain ⟨within, rfl, hknows⟩ := h m rfl
      obtain ⟨⟨key, v⟩, rest, hmeans, hrest, rfl⟩ :=
        List.forall₂_cons_left_iff.mp (Phrase.forall₂_of_entryValues? hkvs)
      obtain rfl := List.forall₂_nil_left_iff.mp hrest
      obtain rfl : name = key := Option.some.inj (hname.symm.trans hmeans.1)
      change (findAlternative (Alternative.byName alternatives) name >>= fun c : Contents α =>
        c.ofValue within v) = _
      rw [findAlternative, hlookup, ok_bind]
      exact hknows.contents he hmeans.2 (hinside e List.mem_cons_self)

theorem ofValue_many {k : Kind} {as : List k.Carrier} {s : Phrase} {v : Value}
    (hs : WritesList (k.Written Meaningful) as s) (hv : s.value? = some v) (hdepth : s.depth ≤ d) :
    (around inside).many k v = .ok as := by
  obtain ⟨inner, es, rfl, hes⟩ := hs
  obtain ⟨vs, hvs, rfl⟩ := Option.map_eq_some_iff.mp hv
  obtain ⟨m, rfl, hinside⟩ := Phrase.exists_of_depth_array_le hdepth
  obtain ⟨within, rfl, hknows⟩ := h m rfl
  change vs.mapM (within.one k) = _
  have hvalues := Phrase.forall₂_of_elementValues? hvs
  clear hv hvs hdepth
  induction hes generalizing vs with
  | nil =>
    obtain rfl := List.forall₂_nil_left_iff.mp hvalues
    rfl
  | @cons e a es as he _ ih =>
    obtain ⟨v, vs, hv, hvs, rfl⟩ := List.forall₂_cons_left_iff.mp hvalues
    obtain ⟨hhead, htail⟩ := List.forall_mem_cons.mp hinside
    have hone : within.one k v = .ok a := hknows.slot (.one k) he hv hhead
    rw [List.mapM_cons, hone, ok_bind, ih vs htail hvs, ok_bind]
    rfl

theorem knows_around : (around inside).Knows d := by
  refine ⟨?_, ofValue_record h⟩
  intro sl a s v hs hv hdepth
  cases sl with
  | text =>
    obtain rfl := hs.value hv
    rfl
  | flag =>
    obtain rfl : s = .boolean a := hs
    cases hv
    rfl
  | count =>
    obtain ⟨hvalue, hlimit⟩ := hs.value hv
    rw [hvalue, Slot.ofValue, if_pos ⟨Int.natCast_nonneg a, Int.ofNat_lt.mpr hlimit⟩]
    rfl
  | one k => exact ofValue_format h (Kind.written_format hs) hv hdepth
  | many k => exact ofValue_many h hs hv hdepth
  | textOrNull =>
    cases a with
    | none =>
      obtain rfl : s = .null := hs
      cases hv
      rfl
    | some text =>
      obtain rfl := WritesText.value hs hv
      rfl
  | oneOrNull k =>
    cases a with
    | none =>
      obtain rfl : s = .null := hs
      cases hv
      rfl
    | some a =>
      have hform := Kind.written_format hs
      have hne : v ≠ .null := value_ne_null hform.ne_null hv
      have hone : (around inside).one k v = .ok a := ofValue_format h hform hv hdepth
      rw [Slot.ofValue, hone]
      · rfl
      · exact hne

end

/-- Values are understood in which brackets nest as deep as they may. -/
theorem knows_nested (d : Nat) : (nested d).Knows d := by
  induction d with
  | zero => exact knows_around fun m hm => by cases hm
  | succ d ih =>
    refine knows_around fun m hm => ?_
    obtain rfl := Nat.succ.inj hm
    exact ⟨_, rfl, ih⟩

end Within

end Ambient.Record

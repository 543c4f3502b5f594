/-
Documentation from interfaces.

A method that overrides another and says nothing of value is given the documentation of a
method in an interface, or in what the interface inherits from.  The search takes the first
definition that has a member of the name, of whatever kind, and there the first method of
the kind.  If it meets one, it is over, documented or not.  So documentation that is there
need not be found:

* `Catalogue.AtOrAbove`, `mem_lineage_iff` — where the search goes;
* `Method.Explains` — a method whose documentation could be inherited;
* `Method.Meets`, `overridden?_eq_some_iff` — the method that the search ends at;
* `Definition.FindsDocs` — methods that could be explained are given the documentation of
  such a method;
* `Definition.findsDocs_iff` — when they are;
* `Definition.findsDocs_of_hidesNoDocs` — for example, if whatever has a member of the name
  of the method documents it;
* `Definition.not_findsDocs_song` — a field of the name, in front of the method.
-/
import Ambient.Proofs.Ancestry
import Ambient.Proofs.Cleanup
import Ambient.Proofs.Refinement

namespace Ambient

/-! ### Where the search goes -/

namespace Catalogue

variable {c : Catalogue} {t : TypeExpr} {n : String} {a : Definition}

/-- The definition is that of one of the types, or one that this inherits from. -/
def AtOrAbove (c : Catalogue) (types : List TypeExpr) (a : Definition) : Prop :=
  ∃ t ∈ types, ∃ b, c.resolve t = some b ∧ Relation.ReflTransGen c.heritage.Edge b a

theorem mem_lineage_iff {types : List TypeExpr} :
    a ∈ c.lineage types ↔ c.AtOrAbove types a := by
  rw [lineage, Graph.mem_visit_iff c.heritage_keysTell]
  simp only [Graph.Reaches, List.not_mem_nil, not_false_eq_true, and_true, true_and]
  rfl

/-- The first definition, at or above the type in the order of the search, that has a
member of the name. -/
def IsForemost (c : Catalogue) (t : TypeExpr) (n : String) (a : Definition) : Prop :=
  ∃ before after, c.lineage [t] = before ++ a :: after ∧ a.hasMember n ∧
    ∀ b ∈ before, ¬b.hasMember n

theorem declaring?_eq_some_iff : c.declaring? t n = some a ↔ c.IsForemost t n a := by
  rw [declaring?, List.find?_eq_some_iff_append, IsForemost]
  simp only [Bool.not_eq_true', Bool.not_eq_true]
  constructor
  · rintro ⟨ha, before, after, heq, hbefore⟩
    exact ⟨before, after, heq, ha, hbefore⟩
  · rintro ⟨before, after, heq, ha, hbefore⟩
    exact ⟨ha, before, after, heq, hbefore⟩

theorem IsForemost.atOrAbove (h : c.IsForemost t n a) : c.AtOrAbove [t] a := by
  obtain ⟨before, after, heq, -, -⟩ := h
  exact mem_lineage_iff.mp (heq ▸ List.mem_append_right _ List.mem_cons_self)

theorem IsForemost.hasMember (h : c.IsForemost t n a) : a.hasMember n := by
  obtain ⟨_, _, -, hn, -⟩ := h
  exact hn

/-- Some definition is the first if there is any. -/
theorem exists_isForemost (ha : c.AtOrAbove [t] a) (hn : a.hasMember n) :
    ∃ b, c.IsForemost t n b := by
  have hsome : (c.declaring? t n).isSome :=
    List.find?_isSome.mpr ⟨a, mem_lineage_iff.mpr ha, hn⟩
  obtain ⟨b, hb⟩ := Option.isSome_iff_exists.mp hsome
  exact ⟨b, declaring?_eq_some_iff.mp hb⟩

theorem AtOrAbove.mono {types types' : List TypeExpr} (h : types ⊆ types')
    (ha : c.AtOrAbove types a) : c.AtOrAbove types' a := by
  obtain ⟨t, ht, hb⟩ := ha
  exact ⟨t, h ht, hb⟩

end Catalogue

namespace Method

variable {c : Catalogue} {interfaces : List TypeExpr} {t : TypeExpr} {m o : Method}

/-! ### What the search is for -/

/-- Whether the method has documentation that is not blank. -/
def hasText (m : Method) : Bool :=
  m.doc.any fun doc => !(Text.trim doc.toList).isEmpty

/-- Whether the other method is of this one's kind and name. -/
def overrides (m o : Method) : Bool :=
  o.kind = m.kind && o.name = m.name

/-- The other method is declared at or above the interfaces, it is of the kind and name of
this one, and it is documented. -/
structure Explains (c : Catalogue) (interfaces : List TypeExpr) (m o : Method) : Prop where
  declared : ∃ a, c.AtOrAbove interfaces a ∧ o ∈ a.methods
  overrides : m.overrides o
  hasText : o.hasText

/-! ### What it meets -/

/-- In the first definition at or above the interface that has a member of the method's
name, the other method is the first of its kind and name. -/
def MeetsIn (c : Catalogue) (t : TypeExpr) (m o : Method) : Prop :=
  ∃ a, c.IsForemost t m.name a ∧ a.methods.find? m.overrides = some o

/-- The other method is met in one of the interfaces, and none is met in those before it. -/
def Meets (c : Catalogue) (interfaces : List TypeExpr) (m o : Method) : Prop :=
  ∃ before t after, interfaces = before ++ t :: after ∧ MeetsIn c t m o ∧
    ∀ u ∈ before, ∀ p, ¬MeetsIn c u m p

theorem overriddenIn?_eq_some_iff : c.overriddenIn? t m = some o ↔ MeetsIn c t m o := by
  rw [Catalogue.overriddenIn?, Option.bind_eq_some_iff]
  simp only [Catalogue.declaring?_eq_some_iff]
  rfl

theorem overridden?_eq_some_iff : c.overridden? interfaces m = some o ↔ Meets c interfaces m o := by
  rw [Catalogue.overridden?_eq, List.findSome?_eq_some_iff]
  simp only [Option.eq_none_iff_forall_ne_some, ne_eq, overriddenIn?_eq_some_iff]
  rfl

/-- What is met is declared at or above the interfaces, the first of its kind and name. -/
theorem Meets.declared (h : Meets c interfaces m o) :
    ∃ a, c.AtOrAbove interfaces a ∧ a.hasMember m.name ∧
      a.methods.find? m.overrides = some o := by
  obtain ⟨before, t, after, rfl, ⟨a, ha, hfind⟩, -⟩ := h
  have hsub : [t] ⊆ before ++ t :: after := by simp
  exact ⟨a, ha.atOrAbove.mono hsub, ha.hasMember, hfind⟩

/-- It could be inherited from, but for its documentation. -/
theorem Meets.explains (h : Meets c interfaces m o) (ho : o.hasText) :
    m.Explains c interfaces o := by
  obtain ⟨a, ha, -, hfind⟩ := h.declared
  exact ⟨⟨a, ha, List.mem_of_find?_eq_some hfind⟩, List.find?_some hfind, ho⟩

/-- If a method is met in one of the interfaces, then one is met. -/
theorem exists_meets (ht : t ∈ interfaces) (h : MeetsIn c t m o) :
    ∃ f, Meets c interfaces m f := by
  have hsome : (c.overridden? interfaces m).isSome :=
    List.findSome?_isSome_iff.mpr ⟨t, ht,
      Option.isSome_iff_exists.mpr ⟨o, overriddenIn?_eq_some_iff.mpr h⟩⟩
  obtain ⟨f, hf⟩ := Option.isSome_iff_exists.mp hsome
  exact ⟨f, overridden?_eq_some_iff.mp hf⟩

/-- What is inherited is the documentation of the method that is met, if it has any. -/
theorem doc_inheritDoc (hm : m.seeksDoc) :
    (m.inheritDoc c interfaces).doc =
      ((c.overridden? interfaces m).bind (·.doc)).or m.doc := by
  have hseeks : (m.isStatic || !m.isOverride || m.hasValuableDoc) = false := by
    simpa [seeksDoc] using hm
  rw [inheritDoc, hseeks]
  cases (c.overridden? interfaces m).bind (·.doc) <;> rfl

/-- A method is given the documentation of one that explains it if the search meets such a
one, or else meets nothing that has any, while its own says the same already. -/
theorem exists_explains_iff (hm : m.seeksDoc) :
    (∃ o, m.Explains c interfaces o ∧ (m.inheritDoc c interfaces).doc = o.doc) ↔
      (∃ o, Meets c interfaces m o ∧ o.hasText) ∨
      (∀ o, Meets c interfaces m o → o.doc = none) ∧
        ∃ o, m.Explains c interfaces o ∧ m.doc = o.doc := by
  simp only [doc_inheritDoc hm, ← overridden?_eq_some_iff]
  cases hover : c.overridden? interfaces m with
  | none => simp
  | some f =>
    simp only [Option.some.injEq, exists_eq_left', forall_eq', Option.bind_some]
    cases hdoc : f.doc with
    | none => simp [hasText, hdoc]
    | some doc =>
      simp only [Option.some_or, reduceCtorEq, false_and, or_false]
      constructor
      · rintro ⟨o, ho, heq⟩
        rw [hasText, hdoc, heq]
        exact ho.hasText
      · intro hf
        exact ⟨f, (overridden?_eq_some_iff.mp hover).explains hf, hdoc.symm⟩

/-- If everything that has a member of the name is of help, then so is what is met. -/
theorem exists_meets_of_forall
    (h : ∀ a, c.AtOrAbove interfaces a → a.hasMember m.name →
      ∃ o, a.methods.find? m.overrides = some o ∧ o.hasText)
    (hsome : ∃ o, m.Explains c interfaces o) : ∃ o, Meets c interfaces m o ∧ o.hasText := by
  obtain ⟨o, ⟨a, ⟨t, ht, hta⟩, hoa⟩, hover, -⟩ := hsome
  have hname : o.name = m.name := by
    simpa [overrides] using (Bool.and_eq_true_iff.mp hover).2
  have hmem : a.hasMember m.name := hname ▸ Definition.hasMember_of_mem_methods hoa
  -- The first definition above the same interface has a method that is met there.
  obtain ⟨b, hb⟩ := Catalogue.exists_isForemost ⟨t, List.mem_singleton_self t, hta⟩ hmem
  have hsub : [t] ⊆ interfaces := by simpa using ht
  obtain ⟨p, hp, -⟩ := h b (hb.atOrAbove.mono hsub) hb.hasMember
  obtain ⟨f, hf⟩ := exists_meets ht ⟨b, hb, hp⟩
  obtain ⟨e, he, hn, hfind⟩ := hf.declared
  obtain ⟨q, hq, htext⟩ := h e he hn
  rw [hfind, Option.some.injEq] at hq
  exact ⟨f, hf, hq ▸ htext⟩

end Method

namespace Definition

variable {c : Catalogue} {d : Definition} {excluded : List String}

/-- Each visible method that seeks documentation, and for which there is some above the
interfaces, is given the documentation of a method that explains it. -/
def FindsDocs (c : Catalogue) (excluded : List String) (d : Definition) : Prop :=
  ∀ (i : Nat) (m : Method), (d.visibleMembers excluded)[i]? = some (.method m) → m.seeksDoc →
    (∃ o, m.Explains c d.interfaces o) →
    ∃ (m' o : Method), (d.inheritDocs c (d.visibleMembers excluded))[i]? = some (.method m') ∧
      m.Explains c d.interfaces o ∧ m'.doc = o.doc

/-- Documentation is looked for member by member. -/
theorem getElem?_inheritDocs {ms : List Member} {i : Nat} {m : Method}
    (hi : ms[i]? = some (.method m)) :
    (d.inheritDocs c ms)[i]? = some (.method (m.inheritDoc c d.interfaces)) := by
  rw [inheritDocs, List.getElem?_map, hi]
  rfl

/-- **Documentation from interfaces** is found exactly if the method that the search meets
is documented. -/
theorem findsDocs_iff (c : Catalogue) (excluded : List String) (d : Definition) :
    d.FindsDocs c excluded ↔
      ∀ m : Method, .method m ∈ d.visibleMembers excluded → m.seeksDoc →
        (∃ o, m.Explains c d.interfaces o) →
        (∃ o, m.Meets c d.interfaces o ∧ o.hasText) ∨
        (∀ o, m.Meets c d.interfaces o → o.doc = none) ∧
          ∃ o, m.Explains c d.interfaces o ∧ m.doc = o.doc := by
  constructor
  · intro h m hmem hseeks hsome
    obtain ⟨i, hi⟩ := List.mem_iff_getElem?.mp hmem
    obtain ⟨m', o, hm', ho, hdoc⟩ := h i m hi hseeks hsome
    rw [getElem?_inheritDocs hi, Option.some.injEq, Member.method.injEq] at hm'
    subst hm'
    exact (Method.exists_explains_iff hseeks).mp ⟨o, ho, hdoc⟩
  · intro h i m hi hseeks hsome
    have hmem := List.mem_of_getElem? hi
    obtain ⟨o, ho, hdoc⟩ := (Method.exists_explains_iff hseeks).mpr (h m hmem hseeks hsome)
    exact ⟨_, o, getElem?_inheritDocs hi, ho, hdoc⟩

/-- Nothing hides documentation from the search: whatever has a member of the name of a
method that seeks documentation has a method of its kind too, and the first is documented. -/
def HidesNoDocs (c : Catalogue) (excluded : List String) (d : Definition) : Prop :=
  ∀ m : Method, .method m ∈ d.visibleMembers excluded → m.seeksDoc →
    ∀ a, c.AtOrAbove d.interfaces a → a.hasMember m.name →
      ∃ o, a.methods.find? m.overrides = some o ∧ o.hasText

theorem findsDocs_of_hidesNoDocs (h : d.HidesNoDocs c excluded) : d.FindsDocs c excluded := by
  intro i m hi hseeks hsome
  have hdocs := h m (List.mem_of_getElem? hi) hseeks
  obtain ⟨o, ho, hdoc⟩ := (Method.exists_explains_iff hseeks).mpr
    (.inl (Method.exists_meets_of_forall hdocs hsome))
  exact ⟨_, o, getElem?_inheritDocs hi, ho, hdoc⟩

/-! ### A field in front -/

/-- A class that says nothing of the method it overrides. -/
def song : Definition :=
  { empty .classType (.simple "a.Song") with
    interfaces := [.simple "a.Titled"]
    members :=
      [.method { Method.plain "title" (.simple "java.lang.String") [] "a.Song" with
        isOverride := true }] }

/-- Its interface has a field of that name. -/
def titled : Definition :=
  { empty .interface (.simple "a.Titled") with
    superTypes := [.simple "a.Work"]
    members := [.field { name := "title", type := .simple "java.lang.String" }] }

def work : Definition :=
  { empty .interface (.simple "a.Work") with
    members :=
      [.method { Method.plain "title" (.simple "java.lang.String") [] "a.Work" with
        doc := some "What it is called." }] }

/-- The search ends at the field, and the method is not found. -/
theorem not_findsDocs_song :
    ∃ c, Catalogue.ofList [song, titled, work] = .ok c ∧ ¬song.FindsDocs c [] ∧
      song.cleanMembers c [] = song.members := by
  refine ⟨{ roots := [song, titled, work] }, rfl, fun h => ?_, by cbv⟩
  have hwork : Catalogue.AtOrAbove { roots := [song, titled, work] } song.interfaces work :=
    ⟨.simple "a.Titled", .head _, titled, rfl, .single ⟨.simple "a.Work", .head _, rfl⟩⟩
  obtain ⟨m', o, hm', ho, hdoc⟩ := h 0 _ rfl rfl ⟨_, ⟨work, hwork, .head _⟩, rfl, by decide⟩
  have hnone : m'.doc = none := by
    cases hm'
    cbv
  have htext := ho.hasText
  rw [Method.hasText, ← hdoc, hnone] at htext
  cases htext

end Definition

end Ambient

/-
Which overrides come first.

Copies and documentation are taken from the first ancestor that has them.  If a method is
declared by two ancestors, one of which inherits from the other, this need not be the
nearer one: the search goes up one parent before it looks at the next.

* `Catalogue.Acyclic` — nothing inherits from itself (`acyclic_of_rank`);
* `Catalogue.OnWay` — an ancestor is on the way to another one, where at each definition
  the first parent is taken that leads there;
* `precedes_iff_onWay` — these are the definitions that come before what they inherit
  from;
* `Definition.TakesForemost`, `Definition.DocumentsForemost` — whatever is taken from an
  ancestor is not overridden on the way to it (`Definition.foremost_onWay`).
-/
import Ambient.Proofs.CopySources
import Ambient.Proofs.DocSources
import Ambient.Proofs.SearchOrder

namespace Ambient

namespace Catalogue

variable {c : Catalogue} {d p q : Definition}

/-- No references lead from a definition back to it. -/
def Acyclic (c : Catalogue) : Prop :=
  ∀ d, ¬Relation.TransGen c.heritage.Edge d d

/-- There are no cycles if each reference leads to a definition of lower rank. -/
theorem acyclic_of_rank (rank : Definition → Nat)
    (h : ∀ d ∈ c.definitions, ∀ t ∈ d.parents, (c.resolve t).all (rank · < rank d)) :
    c.Acyclic := by
  have hedge : ∀ d ∈ c.definitions, ∀ e, c.heritage.Edge d e →
      e ∈ c.definitions ∧ rank e < rank d := by
    rintro d hd e ⟨t, ht, he⟩
    have he : c.resolve t = some e := he
    have hrank := h d hd t ht
    rw [he] at hrank
    exact ⟨mem_definitions_of_find? he, of_decide_eq_true hrank⟩
  have hpath : ∀ {d e}, d ∈ c.definitions → Relation.TransGen c.heritage.Edge d e →
      e ∈ c.definitions ∧ rank e < rank d := by
    intro d e hd he
    induction he with
    | single hlast => exact hedge d hd _ hlast
    | tail _ hlast ih =>
      obtain ⟨hmem, hlt⟩ := ih
      obtain ⟨hmem', hlt'⟩ := hedge _ hmem _ hlast
      exact ⟨hmem', Nat.lt_trans hlt' hlt⟩
  intro d hd
  -- The last reference finds `d`, so it is one of the definitions.
  obtain ⟨_, -, t, -, hfind⟩ := Relation.TransGen.tail'_iff.mp hd
  exact Nat.lt_irrefl _ (hpath (mem_definitions_of_find? hfind) hd).2

/-- The definition `q` is on the way from `d` to `p`: at each definition, the first parent
is taken that leads to `p`. -/
def OnWay (c : Catalogue) (d p q : Definition) : Prop :=
  Relation.TransGen (c.heritage.FirstStep [d.name] p) d q ∧ q ≠ p

/-- Among the ancestors of `d`, the definition `q` comes before `p`. -/
def Precedes (c : Catalogue) (d q p : Definition) : Prop :=
  ∃ before after, c.ancestors d = before ++ p :: after ∧ q ∈ before

/-- At first nothing is met but the definition itself. -/
theorem ahead (c : Catalogue) (d p : Definition) : c.heritage.Ahead [d.name] p d [d.name] where
  subset := List.Subset.refl _
  unmet _ _ hl := hl.1

theorem mem_before_iff_onWay (hacyclic : c.Acyclic) {before after : List Definition}
    (hp : c.ancestors d = before ++ p :: after) :
    q ∈ before ∧ c.heritage.Leads [d.name] q p ↔ c.OnWay d p q :=
  (c.ahead d p).mem_before_iff c.heritage_keysTell hacyclic hp

/-- No chain of references above a definition leads back to its name, if it refers to
nothing that is not known of it. -/
theorem name_ne_of_transGen (hacyclic : c.Acyclic)
    (hd : ∀ e, c.find? d.name = some e → d.parents ⊆ e.parents)
    (h : Relation.TransGen c.heritage.Edge d q) : q.name ≠ d.name := by
  intro hname
  obtain ⟨f, ⟨t, ht, hf⟩, hfq⟩ := Relation.TransGen.head'_iff.mp h
  obtain ⟨r, -, hlast⟩ := Relation.TransGen.tail'_iff.mp h
  -- What leads from `d` to `q` leads from `q` to itself.
  have hq : c.find? q.name = some q := find?_of_edge hlast
  exact hacyclic q (.head' ⟨t, hd q (hname ▸ hq) ht, hf⟩ hfq)

theorem Inherits.transGen (h : c.Inherits d q) : Relation.TransGen c.heritage.Edge d q :=
  Relation.TransGen.mono (fun _ _ h => h.1) _ _ h

/-- What is inherited from inherits from nothing but what is inherited from. -/
theorem Inherits.leads (hacyclic : c.Acyclic)
    (hd : ∀ e, c.find? d.name = some e → d.parents ⊆ e.parents) (hq : c.Inherits d q)
    (hp : c.Inherits q p) : c.heritage.Leads [d.name] q p := by
  have hname : ∀ {e}, Relation.TransGen c.heritage.Edge d e → e.name ∉ [d.name] :=
    fun he => mt List.mem_singleton.mp (name_ne_of_transGen hacyclic hd he)
  have hchain : ∀ {e}, Relation.ReflTransGen c.heritage.Edge q e →
      Relation.ReflTransGen (fun a b => c.heritage.Edge a b ∧ b.name ∉ [d.name]) q e := by
    intro e he
    induction he with
    | refl => exact .refl
    | tail hqa hlast ih => exact ih.tail ⟨hlast, hname (hq.transGen.trans_left (hqa.tail hlast))⟩
  exact ⟨hname hq.transGen, hchain hp.transGen.to_reflTransGen⟩

/-- **Which comes first**: of two ancestors, one of which inherits from the other, it is the
one that inherits exactly if it is on the way. -/
theorem precedes_iff_onWay (hacyclic : c.Acyclic)
    (hd : ∀ e, c.find? d.name = some e → d.parents ⊆ e.parents) (hp : c.Inherits d p)
    (hq : c.Inherits d q) (hqp : c.Inherits q p) : c.Precedes d q p ↔ c.OnWay d p q := by
  have hleads := hq.leads hacyclic hd hqp
  obtain ⟨before, after, heq⟩ := List.append_of_mem (mem_ancestors_iff.mpr hp)
  constructor
  · rintro ⟨before, after, heq, hbefore⟩
    exact (mem_before_iff_onWay hacyclic heq).mp ⟨hbefore, hleads⟩
  · intro h
    exact ⟨before, after, heq, ((mem_before_iff_onWay hacyclic heq).mpr h).1⟩

end Catalogue

namespace Definition

variable {c : Catalogue} {d p q : Definition} {m o : Method}

/-- A method of the signature is declared, which is no constructor. -/
def Declares (q : Definition) (s : Signature) : Prop :=
  ∃ o ∈ q.methods, o.kind ≠ .constructor ∧ o.signature = s

/-- A method of the signature is declared and documented. -/
def Documents (q : Definition) (s : Signature) : Prop :=
  ∃ o ∈ q.methods, o.signature = s ∧ o.HasDoc

/-- A method that is copied is not overridden on the way to where it comes from. -/
theorem not_declares_of_onWay (hacyclic : c.Acyclic) {mayTake : String → Bool}
    (h : (p, m) ∈ d.copySources c mayTake) (hq : c.OnWay d p q) : ¬q.Declares m.signature := by
  rintro ⟨o, ho, hkind, hs⟩
  obtain ⟨-, -, before, after, heq, hbefore, -⟩ := mem_copySources_iff.mp h
  have hq := ((c.mem_before_iff_onWay hacyclic heq).mpr hq).1
  exact hbefore q hq o (List.mem_filter.mpr ⟨ho, decide_eq_true hkind⟩) hs

/-- Where documentation is taken from, there is none on the way. -/
theorem not_documents_of_onWay (hacyclic : c.Acyclic) (h : m.TakesDoc (c.ancestors d) p o)
    (hq : c.OnWay d p q) : ¬q.Documents m.signature := by
  rintro ⟨f, hf, hs, hdoc⟩
  obtain ⟨before, after, heq, hbefore⟩ := h.not_hasDoc
  exact hbefore q ((c.mem_before_iff_onWay hacyclic heq).mpr hq).1 f hf hs hdoc

/-- The members of `e` are those of `d` and copies of methods of some names, each taken from
an ancestor such that no definition on the way there declares it. -/
structure TakesForemost (c : Catalogue) (d : Definition) (mayTake : String → Bool)
    (e : Definition) : Prop where
  members : e.members = d.members ++ (d.copySources c mayTake).map (.method ·.2)
  not_declares : ∀ p m, (p, m) ∈ d.copySources c mayTake →
    ∀ q, c.OnWay d p q → ¬q.Declares m.signature

/-- Documentation that is forced changes the methods of the definition by `f`, which takes it
from an ancestor such that no definition on the way there has it. -/
structure DocumentsForemost (c : Catalogue) (d : Definition) (f : Method → Method) : Prop where
  result : d.withForcedDocs c = { d with members := d.members.map (Member.mapMethod f) }
  takes : ∀ m, f m = m ∨ ∃ p o, m.TakesDoc (c.ancestors d) p o ∧ f m = { m with doc := o.doc }
  not_documents : ∀ (m : Method) p o, m.TakesDoc (c.ancestors d) p o →
    ∀ q, c.OnWay d p q → ¬q.Documents m.signature

/-- **Overrides on the way come first.**  Both passes that copy methods take them from
ancestors such that no definition on the way there declares them, and documentation is
taken in the same way.  The ancestors that come before what they inherit from are just
those on the way, if nothing is referred to that is not known of the definition. -/
theorem foremost_onWay (hacyclic : c.Acyclic) (w : Whitelist) (d : Definition) :
    d.TakesForemost c (d.takesOverloads w) (d.withOverloads c w) ∧
    d.TakesForemost c (w.allows d.name) (d.flattened c w) ∧
    (∃ f, d.DocumentsForemost c f) ∧
    ((∀ e, c.find? d.name = some e → d.parents ⊆ e.parents) →
      ∀ p q, c.Inherits d p → c.Inherits d q → c.Inherits q p →
        (c.Precedes d q p ↔ c.OnWay d p q)) := by
  refine ⟨⟨members_withOverloads, ?_⟩, ⟨members_flattened, ?_⟩, ⟨_, rfl, ?_, ?_⟩, ?_⟩
  · exact fun p m h q => not_declares_of_onWay hacyclic h
  · exact fun p m h q => not_declares_of_onWay hacyclic h
  · exact fun m => m.withDocOf_eq_self_or_takesDoc (c.ancestors d)
  · exact fun m p o h q => not_documents_of_onWay hacyclic h
  · exact fun hd p q hp hq hqp => Catalogue.precedes_iff_onWay hacyclic hd hp hq hqp

/-! ### A way and a byway -/

/-- A class that inherits from two, which both inherit from a third one. -/
def kitten : Definition :=
  { empty .classType (.simple "a.Kitten") with
    superTypes := [.simple "a.Mammal"]
    interfaces := [.simple "a.Pet"]
    members :=
      [.method (feeding "int" "a.Kitten"), .method (.plain "purr" .void [] "a.Kitten")] }

def mammal : Definition :=
  { empty .classType (.simple "a.Mammal") with superTypes := [.simple "a.Creature"] }

/-- Both its methods override those of the creature. -/
def pet : Definition :=
  { empty .interface (.simple "a.Pet") with
    superTypes := [.simple "a.Creature"]
    members :=
      [.method (feeding "b.Bone" "a.Pet"),
       .method { Method.plain "purr" .void [] "a.Pet" with doc := some "Near." }] }

def creature : Definition :=
  { empty .interface (.simple "a.Creature") with
    members :=
      [.method (feeding "b.Bone" "a.Creature"),
       .method { Method.plain "purr" .void [] "a.Creature" with doc := some "Far." }] }

/-- The four of them. -/
def litter : Catalogue := { roots := [kitten, mammal, pet, creature] }

/-- The kitten may take copies of what is called `feed`. -/
def shelter : Whitelist := (Whitelist.ofList ["a\\.Kitten\\.feed"]).toOption.getD {}

theorem shelter_allows : shelter.allows "a.Kitten" "feed" = true := by decide +kernel

theorem ancestors_kitten : litter.ancestors kitten = [mammal, creature, pet] := by cbv

theorem inherits_kitten_iff {a : Definition} :
    litter.Inherits kitten a ↔ a = mammal ∨ a = creature ∨ a = pet := by
  rw [← Catalogue.mem_ancestors_iff, ancestors_kitten, List.mem_cons, List.mem_cons,
    List.mem_singleton]

theorem acyclic_litter : litter.Acyclic :=
  Catalogue.acyclic_of_rank (["a.Creature", "a.Pet", "a.Mammal"].idxOf ·.name) (by decide)

/-- Whatever may be taken of the name `feed`, the creature's method is. -/
theorem mem_copySources_kitten {mayTake : String → Bool} (h : mayTake "feed" = true) :
    (creature, feeding "b.Bone" "a.Creature") ∈ kitten.copySources litter mayTake := by
  refine mem_copySources_iff.mpr ⟨h, by decide, [mammal], [pet], ?_, by decide, rfl⟩
  exact ancestors_kitten

theorem takesOverloads_kitten : kitten.takesOverloads shelter "feed" = true :=
  Bool.and_eq_true_iff.mpr ⟨shelter_allows, by decide⟩

/-- The creature comes after the mammal, and the pet is no part of that. -/
theorem foremost_onWay_kitten :
    litter.Acyclic ∧ litter.OnWay kitten creature mammal ∧ ¬litter.OnWay kitten creature pet := by
  obtain ⟨hforemost, -, -, hprecedes⟩ := foremost_onWay acyclic_litter shelter kitten
  have hkitten : ∀ e, litter.find? kitten.name = some e → kitten.parents ⊆ e.parents := by
    intro e he
    obtain rfl : kitten = e := Option.some.inj he
    exact List.Subset.refl _
  have hcreature : litter.Inherits mammal creature :=
    .of_parent (t := .simple "a.Creature") (by decide) rfl (by decide)
  refine ⟨acyclic_litter, ?_, fun hpet => ?_⟩
  · refine (hprecedes hkitten creature mammal (inherits_kitten_iff.mpr (.inr (.inl rfl)))
      (inherits_kitten_iff.mpr (.inl rfl)) hcreature).mp ?_
    exact ⟨[mammal], [pet], ancestors_kitten, List.mem_cons_self⟩
  · refine hforemost.not_declares _ _ (mem_copySources_kitten takesOverloads_kitten) pet hpet ?_
    exact ⟨feeding "b.Bone" "a.Pet", .head _, by decide, rfl⟩

/-- The pet inherits from the creature and overrides both its methods, but these are taken
from the creature. -/
theorem byway_kitten :
    Catalogue.ofList [kitten, mammal, pet, creature] = .ok litter ∧ litter.Acyclic ∧
    litter.Inherits kitten pet ∧ litter.Inherits pet creature ∧
    (∃ m, (creature, m) ∈ kitten.copySources litter (kitten.takesOverloads shelter) ∧
      (creature, m) ∈ kitten.copySources litter (shelter.allows kitten.name) ∧
      pet.Declares m.signature) ∧
    (∃ m ∈ kitten.methods, ∃ o, m.TakesDoc (litter.ancestors kitten) creature o ∧
      o.kind ≠ .constructor ∧ pet.Documents m.signature) := by
  refine ⟨rfl, acyclic_litter, inherits_kitten_iff.mpr (.inr (.inr rfl)), ?_, ?_, ?_⟩
  · exact .of_parent (t := .simple "a.Creature") (by decide) rfl (by decide)
  · refine ⟨_, mem_copySources_kitten takesOverloads_kitten,
      mem_copySources_kitten shelter_allows, ?_⟩
    exact ⟨feeding "b.Bone" "a.Pet", .head _, by decide, rfl⟩
  · refine ⟨.plain "purr" .void [] "a.Kitten", .tail _ (.head _),
      { Method.plain "purr" .void [] "a.Creature" with doc := some "Far." }, ?_, ?_, ?_⟩
    · rw [ancestors_kitten]
      exact ⟨[mammal], [pet], [feeding "b.Bone" "a.Creature"], [], rfl, rfl, rfl, by decide⟩
    · decide
    · exact ⟨_, .tail _ (.head _), rfl, by decide⟩

end Definition

end Ambient

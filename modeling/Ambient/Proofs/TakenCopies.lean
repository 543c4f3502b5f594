/-
The copies that a definition takes of inherited methods.

Copying overloads and flattening choose among the inherited methods in one way and
differ in the names that they go by.  This file says which methods are taken, and
that there are none left to take a second time:

* `Definition.TakesCopies` — of each signature that is new to the definition and has a
  name of the right kind, the first inherited method is taken, and nothing else;
* `Definition.takenCopies`, `takesCopies` — these are the methods that are chosen;
* `withOverloads_exact` — overloads are copied of the names that the definition
  declares, and nothing else is changed;
* `flattened_exact` — flattening copies whatever is allowed and cuts the references to
  known definitions of other names.

Neither asks for the references to be free of cycles.
-/
import Ambient.Proofs.Flattening

namespace Ambient

namespace Definition

variable {c : Catalogue} {w : Whitelist} {d : Definition}

/-! ### Which methods are taken -/

/-- The methods are copies that the definition takes of inherited methods, if it may
take those of some names. -/
structure TakesCopies (c : Catalogue) (d : Definition) (mayTake : String → Bool)
    (copies : List Method) : Prop where
  /-- Constructors are not inherited. -/
  inherited : ∀ m ∈ copies, ∃ a, c.Inherits d a ∧ m ∈ a.methods ∧ m.kind ≠ .constructor
  named : ∀ m ∈ copies, mayTake m.name
  isNew : ∀ m ∈ copies, m.signature ∉ d.signatures
  nodup : (copies.map Method.signature).Nodup
  /-- Nothing is left out that may be taken. -/
  complete : ∀ a, c.Inherits d a → ∀ m ∈ a.methods, m.kind ≠ .constructor → mayTake m.name →
    m.signature ∈ d.signatures ++ copies.map Method.signature
  /-- The first ancestor that has the signature lends its first method of it. -/
  first : ∀ m ∈ copies,
    (c.ancestors d).findSome? (·.inheritable.find? (·.signature = m.signature)) = some m
  ordered : copies.Sublist ((c.ancestors d).flatMap inheritable)

/-- The methods that are chosen if those of some names may be. -/
def takenCopies (c : Catalogue) (mayTake : String → Bool) (d : Definition) : List Method :=
  selectNew (fun m => mayTake m.name) d.signatures (c.inheritedMethods d)

theorem takesCopies (c : Catalogue) (mayTake : String → Bool) (d : Definition) :
    TakesCopies c d mayTake (d.takenCopies c mayTake) where
  inherited m hm := c.mem_inheritedMethods_iff.mp (mem_of_mem_selectNew hm).1
  named m hm := (mem_of_mem_selectNew hm).2
  isNew m hm := (mem_selectNew_iff.mp hm).1
  nodup := nodup_signatures_selectNew _ _ _
  complete a ha m hm hkind hname :=
    signature_mem_of_allowed (c.mem_inheritedMethods_iff.mpr ⟨a, ha, hm, hkind⟩) hname
  first m hm := by
    have hfind := (mem_selectNew_name_iff.mp hm).2.2
    rwa [Catalogue.inheritedMethods, List.find?_flatMap] at hfind
  ordered := selectNew_sublist _ _ _

theorem signatures_append (copies : List Method) :
    Definition.signatures { d with members := d.members ++ copies.map .method } =
      d.signatures ++ copies.map Method.signature := by
  rw [signatures, methods, filterMap_method?_append, List.map_append]
  rfl

/-- A definition that has all signatures it is offered stays as it is. -/
theorem withCopies_eq_self {candidates : List Method}
    (h : ∀ m ∈ candidates, w.allows d.name m.name → m.signature ∈ d.signatures) :
    d.withCopies w candidates = d := by
  rw [withCopies, selectNew_eq_nil h, List.map_nil, List.append_nil]
  cases d
  rfl

/-! ### Overloads -/

/-- Whether overloads of a name are copied. -/
def takesOverloads (w : Whitelist) (d : Definition) (n : String) : Bool :=
  w.allows d.name n && d.hasMember n

theorem takesOverloads_eq : d.takesOverloads w =
    fun n => decide (w.allows d.name n ∧ ∃ m ∈ d.members, m.name = n) := by
  funext n
  rw [takesOverloads, hasMember, Bool.decide_and, Bool.decide_eq_true, List.any_eq]
  simp only [decide_eq_true_eq]

theorem withOverloads_eq : d.withOverloads c w =
    { d with
      members := d.members ++ (d.takenCopies c (d.takesOverloads w)).map .method } := by
  rw [withOverloads, withCopies, selectNew_filter]
  rfl

/-- Overloads bring no new names. -/
theorem hasMember_withOverloads {n : String} :
    (d.withOverloads c w).hasMember n ↔ d.hasMember n := by
  rw [withOverloads_eq, hasMember, any_name_append_iff]
  refine ⟨?_, .inl⟩
  rintro (hown | ⟨m, hm, rfl⟩)
  · exact hown
  · have hnamed := (takesCopies c (d.takesOverloads w) d).named m hm
    exact (Bool.and_eq_true_iff.mp hnamed).2

/-- **Copying overloads** appends to a definition the methods of its ancestors that are
allowed and have the name of one of its members: of each signature that it lacks the
first.  Nothing else is changed, and nothing at all the second time. -/
theorem withOverloads_exact (c : Catalogue) (w : Whitelist) (d : Definition) :
    (∃ copies, d.withOverloads c w = { d with members := d.members ++ copies.map .method } ∧
      TakesCopies c d (fun n => w.allows d.name n ∧ ∃ m ∈ d.members, m.name = n) copies) ∧
    (d.withOverloads c w).withOverloads c w = d.withOverloads c w := by
  have htakes := takesCopies c (d.takesOverloads w) d
  refine ⟨⟨_, withOverloads_eq, takesOverloads_eq ▸ htakes⟩,
    withCopies_eq_self fun m hm hallowed => ?_⟩
  -- The ancestors are the same as before, and so are the names that are declared.
  obtain ⟨hm, hname⟩ := List.mem_filter.mp hm
  rw [hasMember_withOverloads] at hname
  rw [withOverloads_eq] at hm hallowed ⊢
  obtain ⟨a, ha, hma, hkind⟩ := (c.mem_inheritedMethods_iff (d := d)).mp hm
  rw [signatures_append]
  exact htakes.complete a ha m hma hkind (Bool.and_eq_true_iff.mpr ⟨hallowed, hname⟩)

/-- A method `feed` of one parameter. -/
def feeding (type owner : String) : Method :=
  .plain "feed" .void [⟨"x", .simple type, false⟩] owner

def chewing : Method :=
  .plain "chew" .void [] "a.Eater"

/-- A class that inherits from two, which both inherit from a third one. -/
def dog : Definition :=
  { empty .classType (.simple "a.Dog") with
    superTypes := [.simple "a.Animal"]
    interfaces := [.simple "a.Eater", .simple "b.Pet"]
    members := [.method (feeding "int" "a.Dog")] }

/-- Its method for `long` has the signature of the dog's for `int`. -/
def animal : Definition :=
  { empty .classType (.simple "a.Animal") with
    superTypes := [.simple "a.Being"]
    members := [.method (feeding "long" "a.Animal"), .method (feeding "b.Bone" "a.Animal")] }

def eater : Definition :=
  { empty .interface (.simple "a.Eater") with
    superTypes := [.simple "a.Being"]
    members := [.method (feeding "b.Bone" "a.Eater"), .method chewing] }

/-- It inherits from the dog in turn. -/
def being : Definition :=
  { empty .classType (.simple "a.Being") with
    superTypes := [.simple "a.Dog"]
    members := [.method (.constructor [] "a.Being"), .method (feeding "boolean" "a.Being")] }

/-- The four of them. -/
def beings : Catalogue := Catalogue.indexed [dog, animal, eater, being]

/-- The dog may take copies of all methods. -/
def keeper : Whitelist := (Whitelist.ofList ["a\\.Dog\\.feed", "a\\.Dog\\.chew"]).toOption.getD {}

theorem keeper_allows :
    keeper.allows "a.Dog" "feed" = true ∧ keeper.allows "a.Dog" "chew" = true := by
  decide +kernel

theorem ancestors_dog : beings.ancestors dog = [animal, being, eater] := by cbv

theorem inherits_dog_iff {a : Definition} :
    beings.Inherits dog a ↔ a = animal ∨ a = being ∨ a = eater := by
  rw [← Catalogue.mem_ancestors_iff, ancestors_dog, List.mem_cons, List.mem_cons,
    List.mem_singleton]

/-- The dog takes the overload of the class at the far side of the ring, but no method of a
name that it does not declare. -/
theorem withOverloads_exact_dog :
    (beings.Inherits dog being ∧ feeding "boolean" "a.Being" ∈ being.methods ∧
      (feeding "boolean" "a.Being").signature ∈ (dog.withOverloads beings keeper).signatures) ∧
    beings.Inherits dog eater ∧ chewing ∈ eater.methods ∧ keeper.allows dog.name chewing.name ∧
    chewing.signature ∉ (dog.withOverloads beings keeper).signatures := by
  have hbeing : beings.Inherits dog being := inherits_dog_iff.mpr (.inr (.inl rfl))
  have heater : beings.Inherits dog eater := inherits_dog_iff.mpr (.inr (.inr rfl))
  have hmem : feeding "boolean" "a.Being" ∈ being.methods := .tail _ (.head _)
  obtain ⟨⟨copies, heq, htakes⟩, -⟩ := withOverloads_exact beings keeper dog
  rw [heq, signatures_append]
  refine ⟨⟨hbeing, hmem, ?_⟩, heater, .tail _ (.head _), keeper_allows.2, fun hchewing => ?_⟩
  · have hnamed : ∃ m ∈ dog.members, m.name = "feed" := ⟨_, .head _, rfl⟩
    exact htakes.complete being hbeing _ hmem (by decide)
      (decide_eq_true ⟨keeper_allows.1, hnamed⟩)
  · rcases List.mem_append.mp hchewing with hown | hcopy
    · exact absurd hown (by decide)
    · obtain ⟨m, hm, hs⟩ := List.mem_map.mp hcopy
      obtain ⟨-, o, ho, hname⟩ := of_decide_eq_true (htakes.named m hm)
      rw [show m.name = "chew" from congrArg Signature.name hs] at hname
      obtain rfl := List.mem_singleton.mp ho
      exact absurd hname (by decide)

/-! ### Flattening -/

/-- A reference does not lead away if it leads nowhere or to the name of the definition. -/
theorem not_leadsAway (t : TypeExpr) :
    (!c.leadsAway d t) = (c.resolve t).all (·.name = d.name) := by
  cases he : c.resolve t with
  | none => simp [Catalogue.leadsAway, he]
  | some e =>
    have hname : e.name = t.name := Catalogue.name_of_find? he
    simp [Catalogue.leadsAway, he, hname]

/-- Which references are cut is read off the names of the ancestors. -/
theorem flattened_eq_filter : d.flattened c w =
    { d with
      superTypes := d.superTypes.filter fun t => t.name ∉ (c.ancestors d).map Definition.name
      interfaces := d.interfaces.filter fun t => t.name ∉ (c.ancestors d).map Definition.name
      members := d.members ++ (d.takenCopies c (w.allows d.name)).map .method } :=
  rfl

theorem flattened_eq : d.flattened c w =
    { d with
      superTypes := d.superTypes.filter fun t => (c.resolve t).all (·.name = d.name)
      interfaces := d.interfaces.filter fun t => (c.resolve t).all (·.name = d.name)
      members := d.members ++ (d.takenCopies c (w.allows d.name)).map .method } := by
  rw [flattened_eq_filter, c.filter_leadsAway (List.subset_append_left _ _),
    c.filter_leadsAway (List.subset_append_right _ _)]
  simp only [not_leadsAway]

/-- A definition without ancestors is flat. -/
theorem flattened_eq_self (h : c.ancestors d = []) : d.flattened c w = d := by
  have hcopies : d.takenCopies c (w.allows d.name) = [] := by
    rw [takenCopies, Catalogue.inheritedMethods, h]
    rfl
  have hedges : ∀ ts : List TypeExpr,
      (ts.filter fun t => t.name ∉ (c.ancestors d).map Definition.name) = ts := by
    intro ts
    rw [h]
    exact List.filter_eq_self.mpr fun t _ => rfl
  rw [flattened_eq_filter, hedges, hedges, hcopies, List.map_nil, List.append_nil]
  cases d
  rfl

/-- If all inherited methods may be copied, what is declared is the definition's own and
what its ancestors declare. -/
theorem mem_signatures_flattened_iff
    (hall : ∀ m ∈ c.inheritedMethods d, w.allows d.name m.name) {s : Signature} :
    s ∈ (d.flattened c w).signatures ↔ s ∈ d.signatures ∨
      ∃ a, c.Inherits d a ∧ ∃ m ∈ a.methods, m.kind ≠ .constructor ∧ m.signature = s := by
  have htakes := takesCopies c (w.allows d.name) d
  have hsignatures : (d.flattened c w).signatures =
      d.signatures ++ (d.takenCopies c (w.allows d.name)).map Method.signature :=
    signatures_append _
  rw [hsignatures]
  constructor
  · intro hs
    rcases List.mem_append.mp hs with hown | hcopy
    · exact .inl hown
    · obtain ⟨m, hm, rfl⟩ := List.mem_map.mp hcopy
      obtain ⟨a, ha, hma, hkind⟩ := htakes.inherited m hm
      exact .inr ⟨a, ha, m, hma, hkind, rfl⟩
  · rintro (hown | ⟨a, ha, m, hm, hkind, rfl⟩)
    · exact List.mem_append_left _ hown
    · have hinherited : m ∈ c.inheritedMethods d :=
        c.mem_inheritedMethods_iff.mpr ⟨a, ha, hm, hkind⟩
      exact htakes.complete a ha m hm hkind (hall m hinherited)

/-- **Flattening** cuts the references that lead to known definitions of other names,
and appends the methods of all ancestors that are allowed: of each signature that the
definition lacks the first.  If all of them are allowed, the definition declares what
it did and what its ancestors do.  Nothing is changed the second time. -/
theorem flattened_exact (c : Catalogue) (w : Whitelist) (d : Definition) :
    (∃ copies, d.flattened c w =
        { d with
          superTypes := d.superTypes.filter fun t => (c.resolve t).all (·.name = d.name)
          interfaces := d.interfaces.filter fun t => (c.resolve t).all (·.name = d.name)
          members := d.members ++ copies.map .method } ∧
      TakesCopies c d (w.allows d.name) copies) ∧
    ((∀ m ∈ c.inheritedMethods d, w.allows d.name m.name) → ∀ s,
      s ∈ (d.flattened c w).signatures ↔ s ∈ d.signatures ∨
        ∃ a, c.Inherits d a ∧ ∃ m ∈ a.methods, m.kind ≠ .constructor ∧ m.signature = s) ∧
    (d.flattened c w).flattened c w = d.flattened c w :=
  ⟨⟨_, flattened_eq, takesCopies c (w.allows d.name) d⟩,
    fun hall _ => mem_signatures_flattened_iff hall, flattened_eq_self ancestors_flattened⟩

/-- The dog declares what all the others do, but not the constructor. -/
example : (dog.flattened beings keeper).signatures.map Signature.display =
    ["feed(number)", "feed(b.Bone)", "feed(boolean)", "chew()"] := by cbv

theorem flattened_exact_dog :
    (∀ m ∈ beings.inheritedMethods dog, keeper.allows dog.name m.name) ∧
    ⟨"chew", []⟩ ∈ (dog.flattened beings keeper).signatures := by
  have hnames : ∀ m ∈ beings.inheritedMethods dog, m.name = "feed" ∨ m.name = "chew" := by
    rw [Catalogue.inheritedMethods, ancestors_dog]
    decide
  have hall : ∀ m ∈ beings.inheritedMethods dog, keeper.allows dog.name m.name := by
    intro m hm
    rcases hnames m hm with hname | hname
    · rw [hname]
      exact keeper_allows.1
    · rw [hname]
      exact keeper_allows.2
  refine ⟨hall, ((flattened_exact beings keeper dog).2.1 hall _).mpr (.inr ?_)⟩
  exact ⟨eater, inherits_dog_iff.mpr (.inr (.inr rfl)), _, .tail _ (.head _), by decide, rfl⟩

end Definition

end Ambient

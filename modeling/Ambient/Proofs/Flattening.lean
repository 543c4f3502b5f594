/-
What is left of a hierarchy after flattening.

A flattened definition has copies of inherited methods in place of the references
to its ancestors.  This file says what stays of all that could be reached through
these references:

* `Definition.flattened_superTypes`, `flattened_interfaces` — the references that
  do not lead away stay, in their order;
* `Definition.hasMember_flattened_iff` — the names that are declared afterwards;
* `Definition.Covers` — everything visible in the ancestors is declared;
* `flattened_covers_iff` — if all inherited methods may be copied, they are
  covered, but a field is only where something else has its name;
* `flattened_external` — references to unknown types stay where they are, and the
  ancestors' are not taken over.
-/
import Ambient.Proofs.Ancestry
import Ambient.Proofs.Copies
import Ambient.Proofs.Owners

namespace Ambient

namespace Definition

variable {c : Catalogue} {w : Whitelist} {d : Definition}

/-! ### References -/

theorem flattened_superTypes :
    (d.flattened c w).superTypes = d.superTypes.filter (!c.leadsAway d ·) :=
  c.filter_leadsAway (List.subset_append_left _ _)

theorem flattened_interfaces :
    (d.flattened c w).interfaces = d.interfaces.filter (!c.leadsAway d ·) :=
  c.filter_leadsAway (List.subset_append_right _ _)

theorem flattened_parents : (d.flattened c w).parents = d.parents.filter (!c.leadsAway d ·) := by
  rw [parents, flattened_superTypes, flattened_interfaces, parents, List.filter_append]

/-- A flattened definition inherits from nothing that is known. -/
theorem ancestors_flattened : c.ancestors (d.flattened c w) = [] := by
  refine Catalogue.ancestors_eq_nil fun t ht => ?_
  rw [flattened_parents] at ht
  show c.leadsAway d t = false
  simpa using (List.mem_filter.mp ht).2

/-- A reference to an unknown type, on the definition or on one that it inherits
from. -/
def IsExternal (c : Catalogue) (d : Definition) (t : TypeExpr) : Prop :=
  c.resolve t = none ∧ ∃ a : Definition, (a = d ∨ c.Inherits d a) ∧ t ∈ a.parents

/-- **References to unknown types** stay where they are, in their order, and are the
only ones that stay beside those of a definition to itself.  None of them is taken
over from an ancestor; they stay on this one, which may be flattened as well. -/
theorem flattened_external (c : Catalogue) (w : Whitelist) (d : Definition) :
    (d.flattened c w).superTypes = d.superTypes.filter (!c.leadsAway d ·) ∧
    (d.flattened c w).interfaces = d.interfaces.filter (!c.leadsAway d ·) ∧
    ∀ t, IsExternal c d t →
      (t ∈ (d.flattened c w).parents ↔ t ∈ d.parents) ∧
      ∃ a : Definition, (a = d ∨ c.Inherits d a) ∧ t ∈ (a.flattened c w).parents := by
  have hkept : ∀ (a : Definition) (t : TypeExpr), c.resolve t = none →
      (t ∈ (a.flattened c w).parents ↔ t ∈ a.parents) := by
    intro a t ht
    rw [flattened_parents, List.mem_filter]
    simp [Catalogue.leadsAway, ht]
  refine ⟨flattened_superTypes, flattened_interfaces, ?_⟩
  rintro t ⟨ht, a, ha, hta⟩
  exact ⟨hkept d t ht, a, ha, (hkept a t ht).mpr hta⟩

/-- A class with a house and work. -/
def founder : Definition :=
  { empty .classType (.simple "a.Founder") with
    superTypes := [.simple "b.Stranger"]
    members :=
      [.field { name := "house", type := .simple "b.House" },
       .method (.plain "work" .void [] "a.Founder")] }

/-- A class that inherits from it, and from what is not known. -/
def heir : Definition :=
  { empty .classType (.simple "a.Heir") with
    superTypes := [.simple "a.Founder"]
    interfaces := [.simple "b.Friend"] }

/-- The two of them. -/
def family : Catalogue := Catalogue.indexed [heir, founder]

theorem ancestors_heir : family.ancestors heir = [founder] := by cbv

theorem inherits_heir_iff {a : Definition} : family.Inherits heir a ↔ a = founder := by
  rw [← Catalogue.mem_ancestors_iff, ancestors_heir, List.mem_singleton]

/-- The heir keeps the friend. -/
theorem flattened_external_friend :
    IsExternal family heir (.simple "b.Friend") ∧
    .simple "b.Friend" ∈ (heir.flattened family {}).parents := by
  have hfriend : IsExternal family heir (.simple "b.Friend") :=
    ⟨by cbv, heir, .inl rfl, by decide⟩
  exact ⟨hfriend, ((flattened_external family {} heir).2.2 _ hfriend).1.mpr (by decide)⟩

/-- The heir loses the stranger that the founder inherits from. -/
theorem not_flattened_stranger :
    Catalogue.ofList [heir, founder] = .ok family ∧
    ¬∀ t, IsExternal family heir t → t ∈ (heir.flattened family {}).parents := by
  refine ⟨rfl, fun h => ?_⟩
  have hstranger : IsExternal family heir (.simple "b.Stranger") :=
    ⟨by cbv, founder, .inr (inherits_heir_iff.mpr rfl), by decide⟩
  have hmem := h _ hstranger
  rw [flattened_parents] at hmem
  exact absurd (List.mem_of_mem_filter hmem) (by decide)

/-! ### Members -/

theorem methods_flattened :
    (d.flattened c w).methods = d.methods ++
      selectNew (fun m => w.allows d.name m.name) d.signatures (c.inheritedMethods d) :=
  filterMap_method?_append d.members _

/-- What an ancestor declares is declared afterwards, if it may be copied. -/
theorem signature_mem_flattened {m : Method} (hm : m ∈ c.inheritedMethods d)
    (hw : w.allows d.name m.name) : m.signature ∈ (d.flattened c w).signatures := by
  rw [signatures, methods_flattened, List.map_append]
  exact signature_mem_of_allowed hm hw

/-- A name that is declared afterwards is an old one or that of an inherited method. -/
theorem hasMember_flattened {n : String} (h : (d.flattened c w).hasMember n) :
    d.hasMember n ∨ ∃ m ∈ c.inheritedMethods d, m.name = n := by
  rcases any_name_append_iff.mp h with hown | ⟨m, hm, hn⟩
  · exact .inl hown
  · exact .inr ⟨m, (mem_of_mem_selectNew hm).1, hn⟩

/-- If all inherited methods may be copied, all of these names are declared. -/
theorem hasMember_flattened_iff (hw : ∀ m ∈ c.inheritedMethods d, w.allows d.name m.name)
    {n : String} :
    (d.flattened c w).hasMember n ↔ d.hasMember n ∨ ∃ m ∈ c.inheritedMethods d, m.name = n := by
  refine ⟨hasMember_flattened, ?_⟩
  rintro (hown | ⟨m, hm, rfl⟩)
  · exact any_name_append_iff.mpr (.inl hown)
  · -- Some method of the same signature is declared, so one of the same name is.
    obtain ⟨o, ho, hs⟩ := List.mem_map.mp (signature_mem_flattened hm (hw m hm))
    have hn : o.name = m.name := congrArg Signature.name hs
    exact hn ▸ hasMember_of_mem_methods ho

/-- All methods and public fields that could be seen in the ancestors of the one
definition are declared by the other. -/
structure Covers (c : Catalogue) (d e : Definition) : Prop where
  methods : ∀ a, c.Inherits d a → ∀ m ∈ a.methods, m.kind ≠ .constructor →
    m.signature ∈ e.signatures
  fields : ∀ a, c.Inherits d a → ∀ f, .field f ∈ a.members → f.isPublic → e.hasMember f.name

/-- **What could be seen in the ancestors** of a definition that may take copies of
all their methods: these are all declared afterwards.  A field is never copied, so it
only leaves its name where the definition or an inherited method has the same. -/
theorem flattened_covers_iff
    (hw : ∀ a, c.Inherits d a → ∀ m ∈ a.methods, w.allows d.name m.name) :
    (∀ a, c.Inherits d a → ∀ m ∈ a.methods, m.kind ≠ .constructor →
      m.signature ∈ (d.flattened c w).signatures) ∧
    (Covers c d (d.flattened c w) ↔
      ∀ a, c.Inherits d a → ∀ f, .field f ∈ a.members → f.isPublic →
        d.hasMember f.name ∨ ∃ m ∈ c.inheritedMethods d, m.name = f.name) := by
  have hallowed : ∀ m ∈ c.inheritedMethods d, w.allows d.name m.name := by
    intro m hm
    obtain ⟨a, ha, hma, -⟩ := c.mem_inheritedMethods_iff.mp hm
    exact hw a ha m hma
  have hmethods : ∀ a, c.Inherits d a → ∀ m ∈ a.methods, m.kind ≠ .constructor →
      m.signature ∈ (d.flattened c w).signatures := by
    intro a ha m hm hkind
    have hin : m ∈ c.inheritedMethods d := c.mem_inheritedMethods_iff.mpr ⟨a, ha, hm, hkind⟩
    exact signature_mem_flattened hin (hallowed m hin)
  refine ⟨hmethods, fun h a ha f hf hp => ?_, fun h => ⟨hmethods, fun a ha f hf hp => ?_⟩⟩
  · exact (hasMember_flattened_iff hallowed).mp (h.fields a ha f hf hp)
  · exact (hasMember_flattened_iff hallowed).mpr (h a ha f hf hp)

/-- It may take a copy of the work. -/
def worker : Whitelist := (Whitelist.ofList ["a\\.Heir\\.work"]).toOption.getD {}

theorem worker_allows : worker.allows "a.Heir" "work" = true := by decide +kernel

/-- The heir gets the work. -/
theorem flattened_covers_iff_heir :
    (∀ a, family.Inherits heir a → ∀ m ∈ a.methods, worker.allows heir.name m.name) ∧
    ⟨"work", []⟩ ∈ (heir.flattened family worker).signatures := by
  have hw : ∀ a, family.Inherits heir a → ∀ m ∈ a.methods,
      worker.allows heir.name m.name := by
    intro a ha m hm
    obtain rfl := inherits_heir_iff.mp ha
    obtain rfl := List.mem_singleton.mp hm
    exact worker_allows
  have hfounder : family.Inherits heir founder := inherits_heir_iff.mpr rfl
  exact ⟨hw, (flattened_covers_iff hw).1 founder hfounder _ List.mem_cons_self (by decide)⟩

/-- The heir does not get the house, whatever it may copy. -/
theorem not_covers_heir :
    Catalogue.ofList [heir, founder] = .ok family ∧
    ∀ w, ¬Covers family heir (heir.flattened family w) := by
  refine ⟨rfl, fun w h => ?_⟩
  have hfounder : family.Inherits heir founder := inherits_heir_iff.mpr rfl
  have hhouse := h.fields founder hfounder _ List.mem_cons_self rfl
  rcases hasMember_flattened hhouse with hown | ⟨m, hm, hn⟩
  · cases hown
  · obtain ⟨a, ha, hma, -⟩ := Catalogue.mem_inheritedMethods_iff.mp hm
    obtain rfl := inherits_heir_iff.mp ha
    obtain rfl := List.mem_singleton.mp hma
    revert hn
    decide

end Definition

end Ambient

/-
Where copies come from.

The ancestors of a definition are gone through one after the other, and what is copied
from one is known when the next comes.  So each copy comes from one ancestor:

* `selectFrom` — the methods that are chosen, each with the definition it is found in;
* `Definition.copySources` — the copies that a definition takes, with the ancestors they
  come from (`members_withOverloads`, `members_flattened`);
* `Definition.Lends`, `mem_copySources_iff` — each comes from the first ancestor that has a
  method of its signature;
* `Definition.firstInherited?` — the first inherited method of a signature, which is what
  is copied if anything is (`mem_takenCopies_iff`).
-/
import Ambient.Proofs.TakenCopies

namespace Ambient

/-- The inherited methods of some names that are chosen while some definitions are gone
through, each with the definition it is found in. -/
def selectFrom (mayTake : String → Bool) :
    (known : List Signature) → List Definition → List (Definition × Method)
  | _, [] => []
  | known, a :: as =>
    let chosen := selectNew (fun m => mayTake m.name) known a.inheritable
    chosen.map (a, ·) ++ selectFrom mayTake (known ++ chosen.map Method.signature) as

variable {mayTake : String → Bool}

theorem map_selectFrom (known : List Signature) (as : List Definition) :
    (selectFrom mayTake known as).map Prod.snd =
      selectNew (fun m => mayTake m.name) known (as.flatMap Definition.inheritable) := by
  induction as generalizing known with
  | nil => rfl
  | cons a as ih =>
    rw [selectFrom, List.map_append, List.map_map, ih, List.flatMap_cons, selectNew_append]
    exact congrArg (· ++ _) (List.map_id _)

/-- **Where a chosen method is found**: in the first definition that has a method of its
signature, as the first of these. -/
theorem mem_selectFrom_iff {known : List Signature} {as : List Definition} {a : Definition}
    {m : Method} :
    (a, m) ∈ selectFrom mayTake known as ↔
      mayTake m.name = true ∧ m.signature ∉ known ∧
        ∃ before after, as = before ++ a :: after ∧
          (∀ b ∈ before, ∀ o ∈ b.inheritable, o.signature ≠ m.signature) ∧
          a.inheritable.find? (·.signature = m.signature) = some m := by
  induction as generalizing known with
  | nil => simp [selectFrom]
  | cons b as ih =>
    rw [selectFrom, List.mem_append, ih, List.mem_append, not_or]
    constructor
    · rintro (hm | ⟨hname, ⟨hknown, hnew⟩, before, after, rfl, hbefore, hfind⟩)
      · obtain ⟨o, ho, hpair⟩ := List.mem_map.mp hm
        obtain ⟨rfl, rfl⟩ := Prod.mk.inj hpair
        obtain ⟨hname, hknown, hfind⟩ := mem_selectNew_name_iff.mp ho
        refine ⟨hname, hknown, [], as, rfl, fun e he => ?_, hfind⟩
        cases he
      · refine ⟨hname, hknown, b :: before, after, rfl, ?_, hfind⟩
        intro e he o ho hs
        rcases List.mem_cons.mp he with rfl | he
        · -- A method of the signature would have been chosen before.
          have hallowed : mayTake o.name = true := by
            rwa [show o.name = m.name from congrArg Signature.name hs]
          have hmem : o.signature ∈ known ++
              (selectNew (fun o => mayTake o.name) known e.inheritable).map Method.signature :=
            signature_mem_of_allowed ho hallowed
          rw [hs] at hmem
          rcases List.mem_append.mp hmem with hmem | hmem
          · exact hknown hmem
          · exact hnew hmem
        · exact hbefore e he o ho hs
    · rintro ⟨hname, hknown, before, after, heq, hbefore, hfind⟩
      cases before with
      | nil =>
        obtain ⟨rfl, rfl⟩ := List.cons.inj heq
        have hchosen := mem_selectNew_name_iff.mpr ⟨hname, hknown, hfind⟩
        exact .inl (List.mem_map_of_mem hchosen)
      | cons e before =>
        obtain ⟨rfl, rfl⟩ := List.cons.inj heq
        refine .inr ⟨hname, ⟨hknown, fun hmem => ?_⟩, before, after, rfl, ?_, hfind⟩
        · obtain ⟨o, ho, hs⟩ := List.mem_map.mp hmem
          exact hbefore b List.mem_cons_self o (mem_of_mem_selectNew ho).1 hs
        · exact fun f hf => hbefore f (List.mem_cons_of_mem _ hf)

namespace Definition

variable {c : Catalogue} {d : Definition} {w : Whitelist}

/-- The copies that the definition takes of methods of some names, each with the ancestor
that it comes from. -/
def copySources (c : Catalogue) (mayTake : String → Bool) (d : Definition) :
    List (Definition × Method) :=
  selectFrom mayTake d.signatures (c.ancestors d)

theorem map_copySources : (d.copySources c mayTake).map Prod.snd = d.takenCopies c mayTake :=
  map_selectFrom _ _

/-- Copying overloads adds the copies of what is allowed and declared already, -/
theorem members_withOverloads :
    (d.withOverloads c w).members =
      d.members ++ (d.copySources c (d.takesOverloads w)).map (.method ·.2) := by
  rw [withOverloads_eq, ← map_copySources, List.map_map]
  rfl

/-- and flattening those of what is allowed. -/
theorem members_flattened :
    (d.flattened c w).members =
      d.members ++ (d.copySources c (w.allows d.name)).map (.method ·.2) := by
  rw [flattened_eq, ← map_copySources, List.map_map]
  rfl

/-- The definition `a` is the first ancestor that has a method of the signature of `m`, and
that is its first one. -/
def Lends (c : Catalogue) (d a : Definition) (m : Method) : Prop :=
  ∃ before after, c.ancestors d = before ++ a :: after ∧
    (∀ b ∈ before, ∀ o ∈ b.inheritable, o.signature ≠ m.signature) ∧
    a.inheritable.find? (·.signature = m.signature) = some m

theorem mem_copySources_iff {a : Definition} {m : Method} :
    (a, m) ∈ d.copySources c mayTake ↔
      mayTake m.name = true ∧ m.signature ∉ d.signatures ∧ d.Lends c a m :=
  mem_selectFrom_iff

/-- What is lent is a method of an ancestor. -/
theorem Lends.inherits {a : Definition} {m : Method} (h : d.Lends c a m) :
    c.Inherits d a ∧ m ∈ a.methods ∧ m.kind ≠ .constructor := by
  obtain ⟨before, after, heq, -, hfind⟩ := h
  have ha : a ∈ c.ancestors d := heq ▸ List.mem_append_right _ List.mem_cons_self
  obtain ⟨hm, hkind⟩ := List.mem_filter.mp (List.mem_of_find?_eq_some hfind)
  exact ⟨Catalogue.mem_ancestors_iff.mp ha, hm, of_decide_eq_true hkind⟩

/-- The first of the inherited methods of a signature. -/
def firstInherited? (c : Catalogue) (d : Definition) (s : Signature) : Option Method :=
  (c.inheritedMethods d).find? (·.signature = s)

theorem signature_of_firstInherited? {s : Signature} {m : Method}
    (h : d.firstInherited? c s = some m) : m.signature = s := by
  simpa using List.find?_some h

/-- What is copied of a signature, if it is new and of the right name, is the first method
that is inherited. -/
theorem mem_takenCopies_iff {m : Method} :
    m ∈ d.takenCopies c mayTake ↔
      mayTake m.name = true ∧ m.signature ∉ d.signatures ∧
        d.firstInherited? c m.signature = some m :=
  mem_selectNew_name_iff

end Definition

end Ambient

/-
Public overloads behind private ones.

Copies are chosen without a look at who may see them, one of each signature, and only
public members are declared.  So a private method that is inherited first leaves no room
for a public one of its signature:

* `Definition.KeepsPublic` — for each public method that may be taken, the definition has
  a public method of the signature;
* `public_copy_iff` — it has one if the first method that is inherited is public;
* `keepsPublic_iff` — when no public overload is hidden;
* `shows_iff` — a signature is declared in the end if it has a public method.
-/
import Ambient.Proofs.CopySources
import Ambient.Proofs.PlainMethods

namespace Ambient.Definition

variable {c : Catalogue} {d e : Definition} {mayTake : String → Bool} {excluded : List String}
  {s : Signature}

/-- The definition has a public method of the signature. -/
def HasPublic (d : Definition) (s : Signature) : Prop :=
  ∃ m ∈ d.methods, m.isPublic ∧ m.signature = s

/-- A public method of an ancestor that the definition may take, since it has the right name,
and lacks, since its signature is new. -/
structure Lacks (c : Catalogue) (mayTake : String → Bool) (d : Definition) (m : Method) :
    Prop where
  inherited : ∃ a, c.Inherits d a ∧ m ∈ a.methods
  kind : m.kind ≠ .constructor
  isPublic : m.isPublic
  named : mayTake m.name
  isNew : m.signature ∉ d.signatures

/-- For each public method that `d` lacks, `e` has one of its signature. -/
def KeepsPublic (c : Catalogue) (mayTake : String → Bool) (d e : Definition) : Prop :=
  ∀ m, d.Lacks c mayTake m → e.HasPublic m.signature

/-- What is inherited first of each of these signatures is public. -/
def InheritsPublic (c : Catalogue) (mayTake : String → Bool) (d : Definition) : Prop :=
  ∀ m, d.Lacks c mayTake m → (d.firstInherited? c m.signature).any Method.isPublic

/-- What is copied of a new signature is the first inherited method, public or not. -/
theorem public_copy_iff (hnew : s ∉ d.signatures) (hname : mayTake s.name) :
    (∃ m ∈ d.methods ++ d.takenCopies c mayTake, m.isPublic ∧ m.signature = s) ↔
      (d.firstInherited? c s).any Method.isPublic := by
  rw [Option.any_eq_true]
  constructor
  · rintro ⟨m, hm, hpublic, rfl⟩
    rcases List.mem_append.mp hm with hown | hcopy
    · exact absurd (List.mem_map_of_mem hown) hnew
    · exact ⟨m, (mem_takenCopies_iff.mp hcopy).2.2, hpublic⟩
  · rintro ⟨f, hf, hpublic⟩
    obtain rfl := signature_of_firstInherited? hf
    exact ⟨f, List.mem_append_right _ (mem_takenCopies_iff.mpr ⟨hname, hnew, hf⟩), hpublic, rfl⟩

/-- Both passes append the copies to the members. -/
theorem keepsPublic_append_iff
    (he : e.members = d.members ++ (d.takenCopies c mayTake).map .method) :
    KeepsPublic c mayTake d e ↔ d.InheritsPublic c mayTake := by
  have hmethods : e.methods = d.methods ++ d.takenCopies c mayTake := by
    rw [methods, he, filterMap_method?_append]
    rfl
  refine forall_congr' fun m => forall_congr' fun hm => ?_
  rw [HasPublic, hmethods]
  exact public_copy_iff hm.isNew hm.named

theorem keepsPublic_withOverloads_iff {w : Whitelist} :
    KeepsPublic c (d.takesOverloads w) d (d.withOverloads c w) ↔
      d.InheritsPublic c (d.takesOverloads w) :=
  keepsPublic_append_iff (congrArg members withOverloads_eq)

theorem keepsPublic_flattened_iff {w : Whitelist} :
    KeepsPublic c (w.allows d.name) d (d.flattened c w) ↔
      d.InheritsPublic c (w.allows d.name) :=
  keepsPublic_append_iff (congrArg members flattened_eq)

/-! ### What is declared in the end -/

/-- A method of the signature is among those that are kept, and what becomes of it is
declared. -/
def Shows (c : Catalogue) (excluded : List String) (d : Definition) (s : Signature) : Prop :=
  ∃ m, .method m ∈ d.kept excluded ∧ m.signature = s ∧
    .method (d.settleMethod c (d.kept excluded) m) ∈ d.cleanMembers c excluded

/-- Signatures of public methods are shown, unless the name is excluded. -/
theorem shows_iff (c : Catalogue) (d : Definition) (hs : s.name ∉ excluded) :
    d.Shows c excluded s ↔ d.HasPublic s := by
  constructor
  · rintro ⟨m, hm, rfl, -⟩
    obtain ⟨hmem, hpublic, -⟩ := mem_visibleMembers_iff.mp (kept_subset hm)
    exact ⟨m, hmem, hpublic, rfl⟩
  · rintro ⟨m, hm, hpublic, rfl⟩
    obtain ⟨f, hf⟩ := exists_first? (mem_visibleMembers_iff.mpr ⟨hm, hpublic, hs⟩)
    have hfs := signature_of_first? hf
    have hkept : .method f ∈ d.kept excluded := mem_kept_iff.mpr (hfs ▸ hf)
    exact ⟨f, hkept, hfs, mem_cleanMembers_iff.mpr ⟨f, hkept, rfl⟩⟩

/-- **No public overload is hidden** by either of the passes exactly if, of the signatures
of the public methods that may be taken, the first inherited method is public.  What is
public after a pass is shown in the end. -/
theorem keepsPublic_iff (c : Catalogue) (w : Whitelist) (d : Definition) :
    (KeepsPublic c (d.takesOverloads w) d (d.withOverloads c w) ↔
      d.InheritsPublic c (d.takesOverloads w)) ∧
    (KeepsPublic c (w.allows d.name) d (d.flattened c w) ↔
      d.InheritsPublic c (w.allows d.name)) ∧
    ∀ (e : Definition) (excluded : List String) (s : Signature), s.name ∉ excluded →
      (e.Shows c excluded s ↔ e.HasPublic s) :=
  ⟨keepsPublic_withOverloads_iff, keepsPublic_flattened_iff, fun e _ _ => shows_iff c e⟩

/-- A class that inherits from two, and opens without a key. -/
def safe : Definition :=
  { empty .classType (.simple "a.Safe") with
    superTypes := [.simple "a.Vault"]
    interfaces := [.simple "a.Lockable"]
    members := [.method (.plain "open" .void [] "a.Safe")] }

/-- Opening it with a key is a method of the class. -/
def opening (owner : String) : Method :=
  .plain "open" .void [⟨"key", .simple "a.Key", false⟩] owner

/-- Here it is private, -/
def vault : Definition :=
  { empty .classType (.simple "a.Vault") with
    members := [.method { opening "a.Vault" with isPublic := false }] }

/-- and here public. -/
def lockable : Definition :=
  { empty .interface (.simple "a.Lockable") with members := [.method (opening "a.Lockable")] }

/-- The three of them. -/
def bank : Catalogue := { roots := [safe, vault, lockable] }

def banker : Whitelist := (Whitelist.ofList ["a\\.Safe\\.open"]).toOption.getD {}

theorem banker_allows : banker.allows "a.Safe" "open" = true := by decide +kernel

theorem ancestors_safe : bank.ancestors safe = [vault, lockable] := by cbv

/-- The private method is the first that is inherited. -/
theorem not_inheritsPublic_safe (hname : mayTake "open") :
    ¬safe.InheritsPublic bank mayTake := by
  have hlockable : bank.Inherits safe lockable := by
    rw [← Catalogue.mem_ancestors_iff, ancestors_safe]
    exact .tail _ (.head _)
  have hfirst : safe.firstInherited? bank (opening "a.Lockable").signature =
      some { opening "a.Vault" with isPublic := false } := by
    rw [firstInherited?, Catalogue.inheritedMethods, ancestors_safe]
    rfl
  intro h
  have hpublic := h (opening "a.Lockable")
    ⟨⟨lockable, hlockable, .head _⟩, by decide, rfl, hname, by decide⟩
  rw [hfirst] at hpublic
  cases hpublic

/-- So it is copied by both passes, and the public one is hidden. -/
theorem not_keepsPublic_safe :
    Catalogue.ofList [safe, vault, lockable] = .ok bank ∧
    ¬KeepsPublic bank (safe.takesOverloads banker) safe (safe.withOverloads bank banker) ∧
    ¬KeepsPublic bank (banker.allows safe.name) safe (safe.flattened bank banker) := by
  have hnamed : safe.takesOverloads banker "open" :=
    Bool.and_eq_true_iff.mpr ⟨banker_allows, by decide⟩
  exact ⟨rfl, mt keepsPublic_withOverloads_iff.mp (not_inheritsPublic_safe hnamed),
    mt keepsPublic_flattened_iff.mp (not_inheritsPublic_safe banker_allows)⟩

end Ambient.Definition

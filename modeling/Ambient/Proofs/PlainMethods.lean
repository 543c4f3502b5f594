/-
Plain methods beside accessors.

Repeated signatures are dropped before accessors are compared by name.  At that time an
accessor has the name of its property, so a plain method which is called like a property
and takes the parameters of its accessor counts as a repetition of that.  This file says
what becomes of plain methods:

* `Definition.first?` — the first visible method of a signature, which is the one that
  is kept (`mem_kept_iff`);
* `Definition.DeclaresPlain` — a plain method of a signature is declared, which either
  was one or was an accessor in conflict (`declaresPlain_iff`);
* `inConflict_of_name_eq` — an accessor that is kept beside a plain method of its name is
  in conflict, so that both are declared as plain methods;
* `Definition.keepsPlain_iff` — when no plain method is lost.
-/
import Ambient.Proofs.Conflicts

namespace Ambient.Definition

variable {c : Catalogue} {d : Definition} {excluded : List String} {m : Method}

/-! ### What is kept -/

/-- The first visible method of a signature. -/
def first? (excluded : List String) (d : Definition) (s : Signature) : Option Method :=
  ((d.visibleMembers excluded).filterMap Member.method?).find? (·.signature = s)

/-- The methods that are kept are the first of their signatures. -/
theorem mem_kept_iff : .method m ∈ d.kept excluded ↔ d.first? excluded m.signature = some m := by
  rw [kept, dropDuplicates, mem_dropKnown_iff, and_iff_right List.not_mem_nil]
  rfl

/-- One method of each visible signature is kept. -/
theorem exists_first? (hm : .method m ∈ d.visibleMembers excluded) :
    ∃ f, d.first? excluded m.signature = some f := by
  have hmem : m ∈ (d.visibleMembers excluded).filterMap Member.method? :=
    mem_filterMap_method?_iff.mpr hm
  have hsome : (d.first? excluded m.signature).isSome :=
    List.find?_isSome.mpr ⟨m, hmem, decide_eq_true rfl⟩
  exact Option.isSome_iff_exists.mp hsome

theorem signature_of_first? {s : Signature} (h : d.first? excluded s = some m) :
    m.signature = s := by
  simpa using List.find?_some h

/-! ### Plain methods -/

/-- A plain method of the signature is among the members to declare. -/
def DeclaresPlain (c : Catalogue) (excluded : List String) (d : Definition) (s : Signature) :
    Prop :=
  ∃ o, .method o ∈ d.cleanMembers c excluded ∧ o.kind = .plain ∧ o.signature = s

/-- For each plain method that is public and not excluded, one of its signature is
declared. -/
def KeepsPlain (c : Catalogue) (excluded : List String) (d : Definition) : Prop :=
  ∀ m ∈ d.methods, m.isPublic → m.name ∉ excluded → m.kind = .plain →
    d.DeclaresPlain c excluded m.signature

theorem signature_settleMethod :
    (d.settleMethod c (d.kept excluded) m).signature =
      if d.inConflict excluded m then m.toPlain.signature else m.signature := by
  obtain ⟨doc, h⟩ := exists_settleMethod_eq c excluded d m
  rw [h]
  split
  next hconflict =>
    rw [Method.toPlain, if_pos (isAccessor_of_inConflict hconflict)]
    rfl
  next => rfl

/-- A plain method that is declared is one that was kept, or an accessor in conflict. -/
theorem declaresPlain_iff {s : Signature} :
    d.DeclaresPlain c excluded s ↔
      ∃ o, .method o ∈ d.kept excluded ∧
        ((o.kind = .plain ∧ o.signature = s) ∨
          (d.inConflict excluded o ∧ o.toPlain.signature = s)) := by
  have hsettled : ∀ o : Method, ((d.settleMethod c (d.kept excluded) o).kind = .plain ∧
      (d.settleMethod c (d.kept excluded) o).signature = s) ↔
        ((o.kind = .plain ∧ o.signature = s) ∨
          (d.inConflict excluded o ∧ o.toPlain.signature = s)) := by
    intro o
    rw [kind_settleMethod, signature_settleMethod]
    cases h : d.inConflict excluded o with
    | false => simp
    | true =>
      -- What is in conflict is an accessor, so it was not plain before.
      have hacc : o.isAccessor := isAccessor_of_inConflict h
      have hkind : o.kind ≠ .plain := fun hk => by simp [Method.isAccessor, hk] at hacc
      simp [hkind]
  constructor
  · rintro ⟨_, hmem, hplain⟩
    obtain ⟨o, ho, rfl⟩ := mem_cleanMembers_iff.mp hmem
    exact ⟨o, ho, (hsettled o).mp hplain⟩
  · rintro ⟨o, ho, h⟩
    exact ⟨_, mem_cleanMembers_iff.mpr ⟨o, ho, rfl⟩, (hsettled o).mpr h⟩

/-- An accessor that is kept beside a plain method of its name is in conflict. -/
theorem inConflict_of_name_eq {a : Method} (ha : .method a ∈ d.kept excluded)
    (hacc : a.isAccessor) (hm : .method m ∈ d.kept excluded) (hplain : m.kind = .plain)
    (hname : m.name = a.name) : d.inConflict excluded a := by
  rw [inConflict, hacc, Bool.true_and, Bool.not_eq_true', Bool.eq_false_iff]
  intro hcompatible
  obtain ⟨o, ho, hoacc⟩ := exists_accessor_of_isCompatible hcompatible
    (List.mem_filter.mpr ⟨ha, decide_eq_true rfl⟩) hacc
    (List.mem_filter.mpr ⟨hm, decide_eq_true hname⟩)
  obtain rfl := Member.method.inj ho
  simp [Method.isAccessor, hplain] at hoacc

/-- **Plain methods are kept** exactly if, for each of them, the first visible method of its
signature is plain or an accessor in conflict gets that signature along with its own name.
A plain method and an accessor of one name are both declared as plain methods if neither
has the signature of an earlier method. -/
theorem keepsPlain_iff (c : Catalogue) (excluded : List String) (d : Definition) :
    (d.KeepsPlain c excluded ↔
      ∀ m f, .method m ∈ d.visibleMembers excluded → m.kind = .plain →
        d.first? excluded m.signature = some f →
        f.kind = .plain ∨
          ∃ r, .method r ∈ d.kept excluded ∧ d.inConflict excluded r ∧
            r.toPlain.signature = m.signature) ∧
    ∀ a m, d.first? excluded a.signature = some a → a.isAccessor →
      d.first? excluded m.signature = some m → m.kind = .plain → m.name = a.name →
      d.DeclaresPlain c excluded a.toPlain.signature ∧ d.DeclaresPlain c excluded m.signature := by
  refine ⟨⟨fun h m f hm hplain hf => ?_, fun h m hm hpublic hname hplain => ?_⟩, ?_⟩
  · obtain ⟨hmethod, hpublic, hname⟩ := mem_visibleMembers_iff.mp hm
    obtain ⟨o, ho, ⟨hkind, hs⟩ | ⟨hconflict, hs⟩⟩ :=
      declaresPlain_iff.mp (h m hmethod hpublic hname hplain)
    · -- Only one method of the signature is kept.
      rw [mem_kept_iff, hs, hf] at ho
      obtain rfl := Option.some.inj ho
      exact .inl hkind
    · exact .inr ⟨o, ho, hconflict, hs⟩
  · have hvisible : .method m ∈ d.visibleMembers excluded :=
      mem_visibleMembers_iff.mpr ⟨hm, hpublic, hname⟩
    obtain ⟨f, hf⟩ := exists_first? hvisible
    have hs := signature_of_first? hf
    rcases h m f hvisible hplain hf with hkind | ⟨r, hr, hconflict, hrs⟩
    · exact declaresPlain_iff.mpr ⟨f, mem_kept_iff.mpr (hs ▸ hf), .inl ⟨hkind, hs⟩⟩
    · exact declaresPlain_iff.mpr ⟨r, hr, .inr ⟨hconflict, hrs⟩⟩
  · intro a m ha hacc hm hplain hname
    have ha := mem_kept_iff.mpr ha
    have hm := mem_kept_iff.mpr hm
    have hconflict := inConflict_of_name_eq ha hacc hm hplain hname
    exact ⟨declaresPlain_iff.mpr ⟨a, ha, .inr ⟨hconflict, rfl⟩⟩,
      declaresPlain_iff.mpr ⟨m, hm, .inl ⟨hplain, rfl⟩⟩⟩

/-- A class with a getter of the property `size` and a method `size`. -/
def pile : Definition :=
  { Definition.empty .classType (.simple "a.Pile") with
    members :=
      [.method (.getter "size" "getSize" (.simple "int") "a.Pile"),
       .method (.plain "size" (.simple "int") [] "a.Pile")] }

/-- The getter comes first and takes no parameters either, so the method is gone. -/
theorem not_keepsPlain_pile :
    ∃ c, Catalogue.ofList [pile] = .ok c ∧ ¬pile.KeepsPlain c [] ∧
      moduleText c {} "a" [pile] = unlines
        ["declare module 'a' \x7b", "  export class Pile \x7b", "    get size(): number;",
          "  \x7d", "\x7d"] := by
  refine ⟨{ roots := [pile] }, rfl, fun h => ?_, by decide +kernel⟩
  have hclean : pile.cleanMembers { roots := [pile] } [] =
      [.method (.getter "size" "getSize" (.simple "int") "a.Pile")] := rfl
  obtain ⟨o, ho, hkind, -⟩ := h (.plain "size" (.simple "int") [] "a.Pile")
    (.tail _ (.head _)) rfl List.not_mem_nil rfl
  rw [hclean, List.mem_singleton] at ho
  rw [Member.method.inj ho] at hkind
  cases hkind

end Ambient.Definition

/-
Completing definitions a second time.

All definitions are completed from the catalogue as it was, so afterwards each
has more to offer to those below it.  This file shows that nothing comes of it:
a definition has taken from far above whatever it is offered again by the
ancestors in between, and once it is flattened it has no ancestors left.

* `Generator.copies_refine` — a completed definition takes no copies from
  completed ancestors;
* `transform_transform` — the definitions that come out of a run make a
  catalogue, and come out of a run over it unchanged.

Documentation is another matter, so it must not be copied by force.
-/
import Ambient.Proofs.Ancestry
import Ambient.Proofs.Copies
import Ambient.Proofs.Images
import Ambient.Proofs.Owners

namespace Ambient

namespace Generator

open Catalogue

variable (g : Generator) (c : Catalogue) (d : Definition)

/-- Completing keeps names and nesting. -/
theorem keepsNesting_refine : Definition.KeepsNesting (g.refine c) where
  name d := congrArg TypeExpr.name (g.refine_type c d)
  nested := g.refine_nested c

section
variable (hdocs : g.settings.forcesDocs = false)
include hdocs

/-- Without forced documentation a definition only takes copies and loses edges. -/
theorem refine_eq_inheriting : g.refine c d = g.inheriting c (g.withRefined c d) := by
  rw [refine_eq_complete, complete_eq, hdocs]
  rfl

theorem parents_refine : (g.refine c d).parents = g.edgesLeft c d d.parents := by
  have happend : ∀ ts us,
      g.edgesLeft c d (ts ++ us) = g.edgesLeft c d ts ++ g.edgesLeft c d us := by
    intro ts us
    unfold edgesLeft
    split
    · exact List.filter_append ts us
    · rfl
  rw [refine_eq_inheriting g c d hdocs, inheriting_eq]
  exact (happend d.superTypes d.interfaces).symm

/-- Whatever the definition has been offered, it has the signature. -/
theorem signature_mem_refine {m : Method} (hm : m ∈ c.inheritedMethods d)
    (ho : g.offers d m = true) : m.signature ∈ (g.refine c d).signatures := by
  have h : m.signature ∈ d.signatures ++ (g.copies c d).map Method.signature :=
    signature_mem_of_allowed hm ho
  rwa [Definition.signatures, g.methods_refine c d hdocs, List.map_append]

/-- The copies of overloads have names that the definition declares already. -/
theorem hasMember_refine (hflat : g.settings.flattens = false) (name : String) :
    (g.refine c d).hasMember name = d.hasMember name := by
  have hcopies : ∀ m ∈ g.copies c d, d.hasMember m.name = true := by
    intro m hm
    have ho := (mem_of_mem_selectNew hm).2
    simpa [offers, hflat] using (Bool.and_eq_true_iff.mp ho).2
  have hold : (g.withRefined c d).members.any (·.name = name) = d.hasMember name :=
    g.hasMember_withRefined c d name
  rw [refine_eq_inheriting g c d hdocs, inheriting_eq, copies_withRefined, Bool.eq_iff_iff,
    Definition.hasMember, Definition.any_name_append_iff, hold]
  constructor
  · rintro (hown | ⟨m, hm, rfl⟩)
    · exact hown
    · exact hcopies m hm
  · exact .inl

/-- Once flattened, a definition has no parents but itself and unknown types. -/
theorem ancestors_refine_of_flattens (hflat : g.settings.flattens = true) :
    (c.map (g.refine c)).ancestors (g.refine c d) = [] := by
  refine ancestors_eq_nil fun t ht => ?_
  rw [g.parents_refine c d hdocs, edgesLeft, if_pos hflat,
    filter_leadsAway (List.Subset.refl d.parents)] at ht
  rw [leadsAway_map (g.keepsNesting_refine c).name]
  simpa using (List.mem_filter.mp ht).2

/-- A definition that takes overloads keeps its ancestors, completed. -/
theorem ancestors_refine (hflat : g.settings.flattens = false) :
    (c.map (g.refine c)).ancestors (g.refine c d) = (c.ancestors d).map (g.refine c) := by
  have hname := (g.keepsNesting_refine c).name
  have hparents : ∀ d, (g.refine c d).parents = d.parents := by
    intro d
    rw [g.parents_refine c d hdocs, edgesLeft, hflat]
    rfl
  rw [ancestors, hparents, hname]
  exact visit_heritage_map hname c hparents d.parents [d.name]

/-- **No copies of copies**: whatever completed ancestors offer to a completed
definition, it has. -/
theorem copies_refine {d : Definition} (hd : c.find? d.name = some d) :
    g.copies (c.map (g.refine c)) (g.refine c d) = [] := by
  refine selectNew_eq_nil fun m hm ho => ?_
  rw [inheritedMethods] at hm
  cases hflat : g.settings.flattens with
  | true =>
    rw [g.ancestors_refine_of_flattens c d hdocs hflat] at hm
    cases hm
  | false =>
    rw [g.ancestors_refine c d hdocs hflat] at hm
    have ho' : g.offers d m = true := by
      rw [offers, hasMember_refine g c d hdocs hflat, (g.keepsNesting_refine c).name] at ho
      exact ho
    obtain ⟨a', ha', hma⟩ := List.mem_flatMap.mp hm
    obtain ⟨a, ha, rfl⟩ := List.mem_map.mp ha'
    obtain ⟨hmethod, hkind⟩ := List.mem_filter.mp hma
    rw [g.methods_refine c a hdocs] at hmethod
    rcases List.mem_append.mp hmethod with hown | hcopy
    · -- The ancestor has declared the method itself.
      refine g.signature_mem_refine c d hdocs ?_ ho'
      exact List.mem_flatMap.mpr ⟨a, ha, List.mem_filter.mpr ⟨hown, hkind⟩⟩
    · -- It has the method from one of its own ancestors.
      obtain ⟨b, hb, hmb⟩ := List.mem_flatMap.mp (mem_of_mem_selectNew hcopy).1
      rcases mem_ancestors_trans hd ha hb with rfl | hb
      · rw [Definition.signatures, g.methods_refine c b hdocs]
        exact List.mem_map_of_mem (List.mem_append_left _ (List.mem_filter.mp hmb).1)
      · exact g.signature_mem_refine c d hdocs (List.mem_flatMap.mpr ⟨b, hb, hmb⟩) ho'

/-- A completed definition is complete. -/
theorem refine_refine {d : Definition} (hd : d.Everywhere fun e => c.find? e.name = some e) :
    g.refine (c.map (g.refine c)) (g.refine c d) = g.refine c d := by
  induction d using Definition.nesting_induction with
  | step d ih =>
    obtain ⟨hfind, hnested⟩ := Definition.everywhere_iff.mp hd
    have hrefined : g.withRefined (c.map (g.refine c)) (g.refine c d) = g.refine c d := by
      refine g.withRefined_eq_self _ fun e' he' => ?_
      rw [refine_nested] at he'
      obtain ⟨e, he, rfl⟩ := List.mem_map.mp he'
      exact ih e he (hnested e he)
    have hedges : ∀ ts, g.edgesLeft (c.map (g.refine c)) (g.refine c d) ts = ts := by
      intro ts
      rw [edgesLeft]
      split
      next hflat => rw [g.ancestors_refine_of_flattens c d hdocs hflat]; simp
      next => rfl
    rw [refine_eq_inheriting _ _ _ hdocs, hrefined]
    exact g.inheriting_eq_self _ (g.copies_refine c hdocs hfind) (hedges _) (hedges _)

end

/-- **Completing all definitions a second time changes nothing**, if all names are
different, all definitions are selected and no documentation is forced. -/
theorem transform_transform {ds : List Definition} {c : Catalogue} (hc : ofList ds = .ok c)
    (hnames : (ds.flatMap Definition.names).Nodup) (g : Generator)
    (hroots : g.settings.rootTypes = []) (hdocs : g.settings.forcesDocs = false) :
    ∃ c', ofList (g.transform c) = .ok c' ∧ g.transform c' = g.transform c := by
  have hselected : ∀ c, g.transform c = c.roots.map (g.refine c) := by
    intro c
    rw [transform, selected, hroots]
  refine ⟨c.map (g.refine c), ?_, ?_⟩
  · obtain ⟨rfl, -⟩ := ofList_eq_ok_iff.mp hc
    rw [hselected]
    exact ofList_map (g.keepsNesting_refine _) hc
  · obtain ⟨rfl, -⟩ := ofList_eq_ok_iff.mp hc
    rw [hselected, hselected]
    show (ds.map _).map _ = ds.map _
    rw [List.map_map]
    refine List.map_congr_left fun d hd => ?_
    refine g.refine_refine _ hdocs fun e he => ?_
    exact find?_of_mem hnames (List.mem_flatMap.mpr ⟨d, hd, he⟩)

/-- Four classes that inherit from each other, in a ring with two ways through it,
and one that is nested in the first.  Each declares an overload of its own. -/
def weave : List Definition :=
  let overload (type owner : String) : Member :=
    .method (.plain "f" .void [⟨"x", .simple type, false⟩] owner)
  [{ Definition.empty .classType (.simple "a.A") with
      superTypes := [.simple "a.B", .simple "a.C"]
      members :=
        [overload "int" "a.A",
         .nested
          { Definition.empty .classType (.simple "a.A.In") with
            superTypes := [.simple "a.B"]
            members := [overload "b.In" "a.A.In"] }] },
   { Definition.empty .classType (.simple "a.B") with
      superTypes := [.simple "a.D"], members := [overload "b.B" "a.B"] },
   { Definition.empty .classType (.simple "a.C") with
      superTypes := [.simple "a.D"], members := [overload "b.C" "a.C"] },
   { Definition.empty .classType (.simple "a.D") with
      superTypes := [.simple "a.A"], members := [overload "b.D" "a.D"] }]

/-- A run in which every class of the ring may take all overloads. -/
def weaver : Generator where
  settings := {}
  whitelist := (Whitelist.ofList ["a\\.[A-D]\\.f", "a\\.A\\.In\\.f"]).toOption.getD {}

/-- Each class of the ring takes the overloads of the other three. -/
example : (weaver.transform (indexed weave)).map (·.signatures.length) = [4, 4, 4, 4] := by cbv

theorem transform_transform_weave :
    (weave.flatMap Definition.names).Nodup ∧ ofList weave = .ok (indexed weave) ∧
    ∃ c', ofList (weaver.transform (indexed weave)) = .ok c' ∧
      weaver.transform c' = weaver.transform (indexed weave) := by
  have hnames : (weave.flatMap Definition.names).Nodup := by decide
  have hc : ofList weave = .ok (indexed weave) := rfl
  exact ⟨hnames, hc, transform_transform hc hnames weaver rfl rfl⟩

end Generator

end Ambient

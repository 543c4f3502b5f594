/-
Output without accessors.

Without accessors in the output, a getter is declared as the method that it
stands for.  Until then it goes by the name of its property, however: overloads,
the whitelist, excluded names and overridden methods are all told by that name.
A model whose accessors are declared as methods therefore gives the same output
only if the two names are never told apart differently:

* `Generator.Neutral` — nothing that a definition is compared with on its way
  through a run tells a property from its method;
* `run_toPlain` — the run is the same for the plain model, if this holds of the
  selected definitions and of those nested in them;
* `run_kin` — it need not be the same otherwise.
-/
import Ambient.Proofs.PlainPasses

namespace Ambient.Generator

/-- Nothing on the way of a definition through a run tells an accessor's property
from the method that it stands for. -/
structure Neutral (g : Generator) (c : Catalogue) (d : Definition) : Prop where
  /-- The same methods are offered for copying, -/
  offers : ∀ m ∈ c.inheritedMethods d, g.offers d.toPlain m.toPlain = g.offers d m
  /-- and are new beside each other and the definition's own. -/
  copies : ∀ a ∈ d.methods ++ g.offered c d, ∀ b ∈ g.offered c d, a.Faithful b
  /-- The same methods are documented by force. -/
  forcesDocs : g.settings.forcesDocs → ∀ a ∈ d.methods ++ g.copies c d, a.lacksDoc →
    ∀ b ∈ (c.ancestors (g.inheriting c d)).flatMap Definition.methods, a.Faithful b
  /-- The same methods are excluded. -/
  excludes : ∀ m ∈ (g.refine c d).methods, m.isPublic →
    (m.toPlain.name ∈ g.settings.excluded ↔ m.name ∈ g.settings.excluded)
  /-- The same methods take documentation from those they override. -/
  overrides : ∀ m, .method m ∈ (g.refine c d).visibleMembers g.settings.excluded → m.seeksDoc →
    ∀ t ∈ (g.refine c d).interfaces, ∀ e ∈ c.lineage [t], e.Recognizes m
  /-- The same methods are duplicates. -/
  declares : ∀ a b, .method a ∈ (g.refine c d).visibleMembers g.settings.excluded →
    .method b ∈ (g.refine c d).visibleMembers g.settings.excluded → a.Faithful b

variable {g : Generator} {c : Catalogue} {d : Definition}

theorem withRefined_toPlain
    (h : ∀ e ∈ d.nested, g.refine c.toPlain e.toPlain = (g.refine c e).toPlain) :
    g.withRefined c.toPlain d.toPlain = (g.withRefined c d).toPlain := by
  rw [withRefined, withRefined, Definition.toPlain_eq, Definition.toPlain_eq]
  simp only [List.map_map, Definition.mk.injEq, true_and, and_true]
  refine List.map_congr_left fun m hm => ?_
  cases m with
  | method m => rfl
  | field f => rfl
  | nested e => exact congrArg Member.nested (h e (Definition.mem_nested_iff.mpr hm))

/-- A definition is completed in the same way without accessors. -/
theorem refine_toPlain (h : d.Everywhere (g.Neutral c)) :
    g.refine c.toPlain d.toPlain = (g.refine c d).toPlain := by
  induction d using Definition.nesting_induction with
  | step d ih =>
    obtain ⟨hd, hn⟩ := Definition.everywhere_iff.mp h
    have hrefined := withRefined_toPlain fun e he => ih e he (hn e he)
    -- What is nested has no part in the copies, so the conditions are those on `d` itself.
    have hcopies : g.copies c.toPlain (g.withRefined c d).toPlain =
        (g.copies c (g.withRefined c d)).map Method.toPlain := by
      rw [copies_withRefined, ← hrefined, copies_withRefined]
      exact copies_toPlain hd.offers hd.copies
    have hinheriting := inheriting_toPlain hcopies
    rw [refine_eq_complete, hrefined, complete_eq, hinheriting, refine_eq_complete, complete_eq]
    cases hf : g.settings.forcesDocs with
    | false => rfl
    | true =>
      refine Definition.withForcedDocs_toPlain ?_
      rw [methods_inheriting, methods_withRefined, copies_withRefined,
        ancestors_inheriting_withRefined]
      exact hd.forcesDocs hf

theorem lines_refine_toPlain (hs : g.settings.usesAccessors = false)
    (h : d.Everywhere (g.Neutral c)) :
    Declaration.lines c.toPlain g.settings (g.refine c d).toPlain =
      Declaration.lines c g.settings (g.refine c d) := by
  have hd : g.Neutral c d := h d d.mem_withNested_self
  refine Declaration.lines_toPlain hs ?_
  exact Definition.cleanMembers_toPlain hd.excludes hd.overrides hd.declares

/-- **Without accessors in the output it does not matter which methods are
accessors**, as long as nothing on the way tells the two apart: the model in
which they are all declared as methods gives the same. -/
theorem run_toPlain {M : Record.Model} {c : Catalogue} (hc : Catalogue.ofList M.definitions = .ok c)
    (g : Generator) (hs : g.settings.usesAccessors = false) :
    ∃ c', Catalogue.ofList M.toPlain.definitions = .ok c' ∧
      ((∀ d ∈ g.selected c, d.Everywhere (g.Neutral c)) → g.run c' = g.run c) := by
  refine ⟨c.toPlain, ?_, fun h => ?_⟩
  · rw [M.definitions_toPlain]
    exact Catalogue.ofList_toPlain hc
  · refine run_map Definition.keepsNesting_toPlain ?_ ?_ (fun d hd => refine_toPlain (h d hd)) ?_
    · intro d
      rw [d.type_toPlain]
    · intro d
      rw [d.mentions_toPlain]
    · intro d hd e he
      refine lines_refine_toPlain hs fun e' he' => ?_
      exact h d hd e' (Definition.mem_withNested_trans he' he)

theorem offers_of_patterns_eq_nil (hw : g.whitelist.patterns = []) (d : Definition) (m : Method) :
    g.offers d m = false := by
  simp [offers, Whitelist.allows, hw]

/-- Nothing is copied unless a pattern allows it. -/
theorem copies_of_patterns_eq_nil (hw : g.whitelist.patterns = []) : g.copies c d = [] := by
  refine List.eq_nil_iff_forall_not_mem.mpr fun m hm => ?_
  have hoffers := (mem_of_mem_selectNew hm).2
  rw [offers_of_patterns_eq_nil hw] at hoffers
  cases hoffers

/-- A run without accessors in the output that documents by force. -/
def documenting : Generator := ⟨{ usesAccessors := false, forcesDocs := true }, {}⟩

/-- Where nothing is nested, such a run does nothing to a definition but to document it. -/
theorem refine_documenting (hn : d.nested = []) : documenting.refine c d = d.withForcedDocs c := by
  have hrefined : documenting.withRefined c d = d := by
    refine documenting.withRefined_eq_self c fun e he => ?_
    rw [hn] at he
    cases he
  have hinheriting : documenting.inheriting c d = d :=
    documenting.inheriting_eq_self c (copies_of_patterns_eq_nil rfl) rfl rfl
  rw [refine_eq_complete, hrefined, complete_eq, hinheriting]
  rfl

/-- Of two classes, the one that inherits from the other takes its documentation. -/
theorem transform_documenting {a b : Definition} {t : TypeExpr} (ha : a.parents = [])
    (hb : b.parents = [t]) (ht : t.name = a.name) (hne : a.name ≠ b.name) (hna : a.nested = [])
    (hnb : b.nested = []) :
    documenting.transform (Catalogue.indexed [a, b]) =
      [a, { b with members := b.members.map (Member.mapMethod (·.withDocOf a.methods)) }] := by
  set c := Catalogue.indexed [a, b] with hc
  have hfind : c.heritage.find t = some a := by
    show c.find? t.name = some a
    rw [ht, Catalogue.find?, Catalogue.root?, hc, Catalogue.indexed]
    simp
  have habove : c.ancestors a = [] := by
    rw [Catalogue.ancestors, ha]
    exact c.heritage.visit_nil _
  have hbelow : c.ancestors b = [a] := by
    have hseen : c.heritage.key a ∉ [b.name] := mt List.mem_singleton.mp hne
    have hedges : c.heritage.edges a = [] := ha
    rw [Catalogue.ancestors, hb, c.heritage.visit_cons_new hfind hseen, hedges, List.nil_append,
      c.heritage.visit_nil]
  have hnodocs : ∀ m : Member, m.mapMethod (·.withDocOf []) = m := by
    intro m
    cases m <;> rfl
  have hself : a.withForcedDocs c = a := by
    rw [Definition.withForcedDocs, habove, List.flatMap_nil, funext hnodocs, List.map_id']
    cases a
    rfl
  show [documenting.refine c a, documenting.refine c b] = _
  rw [refine_documenting hna, refine_documenting hnb, hself, Definition.withForcedDocs, hbelow,
    List.flatMap_singleton]

/-- A class with a documented getter, and one below it with another getter of the property,
which has the given documentation. -/
def kin (doc : Option String) : Record.Model where
  types :=
    [⟨"a.B", .classType, [], [], [],
      [.method .getter ⟨"isX", none, some (.primitive .boolean), [], [], some "Whether.", true,
        false, false⟩],
      none, true, false⟩,
     ⟨"a.A", .classType, [], [.reference "a.B" []], [],
      [.method .getter ⟨"getX", none, some (.primitive .int), [], [], doc, true, false, false⟩],
      none, true, false⟩]

/-- The getter below takes the documentation of the one above, since it is the same overload
of the property; as a method it is not. -/
theorem run_kin :
    Catalogue.ofList (kin none).definitions = .ok (Catalogue.indexed (kin none).definitions) ∧
    ¬∃ c', Catalogue.ofList (kin none).toPlain.definitions = .ok c' ∧
      documenting.run c' = documenting.run (Catalogue.indexed (kin none).definitions) := by
  have htakes : documenting.transform (Catalogue.indexed (kin none).definitions) =
      (kin (some "Whether.")).definitions :=
    (transform_documenting rfl rfl rfl (by decide) rfl rfl).trans rfl
  have hlacks : documenting.transform (Catalogue.indexed (kin none).toPlain.definitions) =
      (kin none).toPlain.definitions :=
    (transform_documenting rfl rfl rfl (by decide) rfl rfl).trans rfl
  have hdocumented : documenting.run (Catalogue.indexed (kin none).definitions) =
      [⟨"a.d.ts", unlines
        ["declare module 'a' \x7b", "  export class B \x7b", "    /**", "     * Whether.",
         "     */", "    isX(): boolean;", "  \x7d", "", "  export class A extends B \x7b",
         "    /**", "     * Whether.", "     */", "    getX(): number;", "  \x7d", "\x7d"]⟩] := by
    rw [run, htakes]
    rfl
  have hbare : documenting.run (Catalogue.indexed (kin none).toPlain.definitions) =
      [⟨"a.d.ts", unlines
        ["declare module 'a' \x7b", "  export class B \x7b", "    /**", "     * Whether.",
         "     */", "    isX(): boolean;", "  \x7d", "", "  export class A extends B \x7b",
         "    getX(): number;", "  \x7d", "\x7d"]⟩] := by
    rw [run, hlacks]
    rfl
  refine ⟨rfl, ?_⟩
  rintro ⟨c', hc', hrun⟩
  obtain ⟨rfl, -⟩ := Catalogue.ofList_eq_ok_iff.mp hc'
  rw [hdocumented, hbare] at hrun
  revert hrun
  decide

/-- Where nothing is copied, excluded or documented by force, only the signatures
of the methods that a definition declares itself must be told alike. -/
theorem neutral_of_methods {g : Generator} {c : Catalogue} {d : Definition}
    (hw : g.whitelist.patterns = []) (hx : g.settings.excluded = [])
    (hf : g.settings.forcesDocs = false) (hd : ∀ m ∈ d.methods, ¬m.seeksDoc)
    (h : ∀ a ∈ d.methods, ∀ b ∈ d.methods, a.Faithful b) : g.Neutral c d := by
  have hoffers := offers_of_patterns_eq_nil hw
  have hoffered : g.offered c d = [] := by
    simp [offered, hoffers]
  have hvisible : ∀ m, .method m ∈ (g.refine c d).visibleMembers g.settings.excluded →
      m ∈ d.methods := by
    intro m hm
    have hmem : m ∈ (g.refine c d).methods := (Definition.mem_visibleMembers_iff.mp hm).1
    rwa [g.methods_refine c d hf, copies_of_patterns_eq_nil hw, List.append_nil] at hmem
  constructor
  · intro m _
    rw [hoffers, hoffers]
  · rw [hoffered]
    intro a _ b hb
    cases hb
  · intro hforced
    rw [hf] at hforced
    cases hforced
  · intro m _ _
    simp [hx]
  · intro m hm hs
    exact absurd hs (hd m (hvisible m hm))
  · intro a b ha hb
    exact h a (hvisible a ha) b (hvisible b hb)

/-- A dog with a tail, which is a pet with a name. -/
def kennel : Record.Model where
  types :=
    [⟨"a.Pet", .classType, [], [], [],
      [.method .getter ⟨"getName", none, some (.primitive .int), [], [], none, true, false, false⟩,
       .method .setter ⟨"setName", none, none, [⟨"name", .primitive .int, false⟩], [], none, true,
        false, false⟩],
      none, true, false⟩,
     ⟨"a.Dog", .classType, [], [.reference "a.Pet" []], [],
      [.method .getter ⟨"isGood", none, some (.primitive .boolean), [], [], none, true, false,
        false⟩,
       .method .plain ⟨"good", none, none, [⟨"dog", .primitive .int, false⟩], [], none, true, false,
        false⟩,
       .nested ⟨"a.Dog.Tail", .classType, [], [], [],
        [.method .getter ⟨"getLength", none, some (.primitive .int), [], [], none, true, false,
          false⟩],
        none, true, false⟩],
      none, true, false⟩]

/-- A run without accessors in the output, and nothing else asked for. -/
def bare : Generator := ⟨{ usesAccessors := false }, {}⟩

theorem run_toPlain_kennel :
    ∃ c', Catalogue.ofList kennel.toPlain.definitions = .ok c' ∧
      bare.run c' = bare.run (Catalogue.indexed kennel.definitions) := by
  have hc : Catalogue.ofList kennel.definitions = .ok (Catalogue.indexed kennel.definitions) := rfl
  have hmethods : ∀ d ∈ kennel.definitions, ∀ e ∈ d.withNested,
      (∀ m ∈ e.methods, ¬m.seeksDoc) ∧ ∀ a ∈ e.methods, ∀ b ∈ e.methods, a.Faithful b := by
    decide
  obtain ⟨c', hc', hrun⟩ := run_toPlain hc bare rfl
  refine ⟨c', hc', hrun fun d hd e he => ?_⟩
  obtain ⟨hdocs, hfaithful⟩ := hmethods d hd e he
  exact neutral_of_methods rfl rfl rfl hdocs hfaithful

end Ambient.Generator

/-
The names in the bodies of declarations.

Excluded methods are left out by the names they have before anything else is done.
Most methods are declared under that name.  Constructors are not, and neither are
accessors that are declared as methods: without accessors these are all, and
otherwise those in conflict.

* `Template.Signs` — a line is a signature of a name;
* `Method.shownName`, `Scoped.signs_methodTemplate` — the name of the signature that a
  method is declared with;
* `Declaration.DeclaresName` — the body of a declaration has a signature of a name;
* `Declaration.isReverted` — an accessor is declared as a method;
* `Declaration.declaresName_excluded_iff` — when no signature has an excluded name.
-/
import Ambient.Proofs.Cleanup
import Ambient.Proofs.Templates

namespace Ambient

/-! ### Signatures in lines -/

/-- What may stand before the name in a signature. -/
def modifiers : List String :=
  ["", "static ", "readonly ", "static readonly ", "get ", "static get ", "set ", "static set "]

/-- What may stand after the name in a signature. -/
def nameEnds : List String :=
  ["(", "<", "(): ", ": "]

/-- A line in the body of a declaration is a signature of this name, whatever is filled
in elsewhere. -/
def Template.Signs (line : Template) (name : String) : Prop :=
  ∃ words ∈ modifiers, ∃ stop ∈ nameEnds, ∃ rest : Template, ∀ ν,
    line.fill ν = indent 2 (words ++ name ++ stop ++ rest.fill ν)

/-- The name of the signature that a method is declared with. -/
def Method.shownName (s : Settings) (m : Method) : String :=
  if m.kind = .constructor then "constructor"
  else if s.usesAccessors then m.name
  else m.toPlain.name

namespace Scoped

open Template

variable {words name stop : String} {rest : Template}

theorem signs_of_text (hw : words ∈ modifiers) (hs : stop ∈ nameEnds) :
    Signs (indented 2 (.text (words ++ name ++ stop) :: rest)) name := by
  refine ⟨words, hw, stop, hs, rest, fun ν => ?_⟩
  simp [indented, indent, Piece.fill, String.append_assoc]

theorem signs_of_texts (hw : words ∈ modifiers) (hs : stop ∈ nameEnds) :
    Signs (indented 2 (.text (words ++ name) :: .text stop :: rest)) name := by
  refine ⟨words, hw, stop, hs, rest, fun ν => ?_⟩
  simp [indented, indent, Piece.fill, String.append_assoc]

theorem signs_plainTemplate {m : Method} (hw : words ∈ modifiers) :
    Signs (indented 2 (plainTemplate words name m)) name := by
  unfold plainTemplate genericsTemplate
  split
  · exact signs_of_texts hw (by decide : "(" ∈ nameEnds)
  · exact signs_of_texts hw (by decide : "<" ∈ nameEnds)

/-- A method is declared with a signature of the name that it shows. -/
theorem signs_methodTemplate (s : Settings) (setters : List String) (m : Method) :
    Signs (indented 2 (methodTemplate s setters m)) (m.shownName s) := by
  have hmodifier : (if m.isStatic then "static " else "") ∈ modifiers := by
    cases m.isStatic <;> decide
  have hget : (if m.isStatic then "static " else "") ++ "get " ∈ modifiers := by
    cases m.isStatic <;> decide
  have hreadonly : (if m.isStatic then "static " else "") ++ "readonly " ∈ modifiers := by
    cases m.isStatic <;> decide
  have hset : (if m.isStatic then "static " else "") ++ "set " ∈ modifiers := by
    cases m.isStatic <;> decide
  unfold methodTemplate Method.shownName Method.toPlain Method.isAccessor
  cases m.kind with
  | constructor =>
    show Signs (indented 2 (.text ("" ++ "constructor" ++ "(") :: _)) "constructor"
    exact signs_of_text (by decide) (by decide)
  | plain =>
    cases s.usesAccessors <;> exact signs_plainTemplate hmodifier
  | getter =>
    cases s.usesAccessors with
    | false => exact signs_plainTemplate hmodifier
    | true =>
      dsimp only
      split
      · exact signs_of_text hreadonly (by decide : ": " ∈ nameEnds)
      · exact signs_of_text hget (by decide : "(): " ∈ nameEnds)
  | setter =>
    cases s.usesAccessors with
    | false => exact signs_plainTemplate hmodifier
    | true => exact signs_of_text hset (by decide : "(" ∈ nameEnds)

end Scoped

namespace Declaration

open Scoped Template

variable {c : Catalogue} {s : Settings} {d : Definition} {n : String}

/-! ### Signatures in bodies -/

/-- The name of what iterable types declare as well. -/
def iteratorName : String :=
  "[Symbol.iterator]"

/-- The body of the declaration has a signature of the name: that of one of its methods,
or of the iterator.  A function type has no body. -/
def DeclaresName (c : Catalogue) (s : Settings) (d : Definition) (n : String) : Prop :=
  d.functionMethod? = none ∧
    ((d.name = TypeExpr.iterableName ∧ n = iteratorName) ∨
      ∃ m, .method m ∈ members c s d ∧ n = m.shownName s)

/-- Such a signature is one of the lines of the declaration. -/
theorem DeclaresName.exists_signs (h : DeclaresName c s d n) :
    ∃ line ∈ templates c s d, line.Signs n := by
  obtain ⟨hfun, hn⟩ := h
  set body := bodyTemplates s (headingTemplate s d (nameTemplate d))
    (d.name = TypeExpr.iterableName) (members c s d) with hbody
  have hlines : body ⊆ templates c s d := by
    rw [templates, hfun]
    intro line hline
    exact List.mem_append_left _ (List.mem_append_right _ hline)
  rcases hn with ⟨hiter, rfl⟩ | ⟨m, hm, rfl⟩
  · refine ⟨plainLine (indent 2 iteratorMember), hlines ?_, ?_⟩
    · rw [hbody, bodyTemplates, if_neg (by simp [hiter])]
      simp [hiter]
    · refine ⟨"", by decide, "(): ", by decide, [.text "globalThis.Iterator<T>;"], fun ν => ?_⟩
      rfl
  · refine ⟨indented 2 (methodTemplate s (setterNames (members c s d)) m), hlines ?_,
      signs_methodTemplate s _ m⟩
    have hempty : (members c s d).isEmpty = false := by
      rw [List.isEmpty_eq_false_iff_exists_mem]
      exact ⟨_, hm⟩
    rw [hbody, bodyTemplates, if_neg (by simp [hempty])]
    have hline : indented 2 (methodTemplate s (setterNames (members c s d)) m) ∈
        memberTemplates s (setterNames (members c s d)) (.method m) :=
      List.mem_append_right _ List.mem_cons_self
    exact List.mem_append_left _ (List.mem_append_right _ (List.mem_flatMap.mpr ⟨_, hm, hline⟩))

/-- Whether the declaration has a place for the member. -/
def hasPlace (s : Settings) (d : Definition) (m : Member) : Bool :=
  !isInterface s d || isInterfaceMember m

theorem mem_members_iff {m : Member} :
    m ∈ members c s d ↔ m ∈ d.cleanMembers c s.excluded ∧ hasPlace s d m := by
  rw [members, hasPlace]
  split
  next h => simp [h]
  next h => simp [h]

/-- Whether an accessor is declared as the method that it stands for. -/
def isReverted (s : Settings) (d : Definition) (m : Method) : Bool :=
  m.isAccessor &&
    !(s.usesAccessors && isCompatible ((d.kept s.excluded).filter (·.name = m.name)))

/-- The name of the signature that a method which is kept is declared with. -/
def signatureName (s : Settings) (d : Definition) (m : Method) : String :=
  if m.kind = .constructor then "constructor"
  else if isReverted s d m then m.methodName
  else m.name

theorem shownName_settleMethod (m : Method) :
    (d.settleMethod c (d.kept s.excluded) m).shownName s = signatureName s d m := by
  obtain ⟨doc, hdoc⟩ := m.exists_inheritDoc_eq c d.interfaces
  rw [Definition.settleMethod, hdoc, signatureName, isReverted]
  generalize isCompatible ((d.kept s.excluded).filter (·.name = m.name)) = compatible
  unfold Method.shownName Method.toPlain Method.isAccessor
  cases m.kind <;> cases s.usesAccessors <;> cases compatible <;> rfl

theorem hasPlace_settleMethod (ms : List Member) (m : Method) :
    hasPlace s d (.method (d.settleMethod c ms m)) = hasPlace s d (.method m) := by
  obtain ⟨doc, hdoc⟩ := m.exists_inheritDoc_eq c d.interfaces
  rw [Definition.settleMethod, hdoc, hasPlace, hasPlace]
  split
  · rfl
  · simp [isInterfaceMember, Method.isConstructor_toPlain]

/-- The names of the signatures, in terms of the members that are kept. -/
theorem declaresName_iff : DeclaresName c s d n ↔
    d.functionMethod? = none ∧
      ((d.name = TypeExpr.iterableName ∧ n = iteratorName) ∨
        ∃ m, .method m ∈ d.kept s.excluded ∧ hasPlace s d (.method m) ∧
          n = signatureName s d m) := by
  have hmethods : (∃ m, .method m ∈ members c s d ∧ n = m.shownName s) ↔
      ∃ m, .method m ∈ d.kept s.excluded ∧ hasPlace s d (.method m) ∧
        n = signatureName s d m := by
    simp only [mem_members_iff, Definition.mem_cleanMembers_iff]
    constructor
    · rintro ⟨_, ⟨⟨m, hm, rfl⟩, hplace⟩, rfl⟩
      rw [hasPlace_settleMethod] at hplace
      exact ⟨m, hm, hplace, shownName_settleMethod m⟩
    · rintro ⟨m, hm, hplace, rfl⟩
      refine ⟨_, ⟨⟨m, hm, rfl⟩, ?_⟩, (shownName_settleMethod m).symm⟩
      rwa [hasPlace_settleMethod]
  rw [DeclaresName, hmethods]

/-- **Excluded names** are the names of no signatures in a declaration, unless a name
is excluded under which something is declared that goes by another: `constructor`, that
of the iterator, or that of a method which an accessor stands for. -/
theorem declaresName_excluded_iff (c : Catalogue) (s : Settings) (d : Definition) :
    (∀ n, DeclaresName c s d n → ∃ line ∈ templates c s d, line.Signs n) ∧
    ((∀ n, DeclaresName c s d n → n ∉ s.excluded) ↔
      (d.functionMethod? = none →
        (d.name = TypeExpr.iterableName → iteratorName ∉ s.excluded) ∧
        ∀ m, .method m ∈ d.kept s.excluded → hasPlace s d (.method m) →
          (m.kind = .constructor → "constructor" ∉ s.excluded) ∧
          (isReverted s d m → m.methodName ∉ s.excluded))) := by
  refine ⟨fun n h => h.exists_signs, ?_⟩
  simp only [declaresName_iff]
  constructor
  · intro h hfun
    refine ⟨fun hiter => h _ ⟨hfun, .inl ⟨hiter, rfl⟩⟩, fun m hm hplace => ?_⟩
    have hname := h _ ⟨hfun, .inr ⟨m, hm, hplace, rfl⟩⟩
    refine ⟨fun hk => ?_, fun hreverted => ?_⟩
    · rwa [signatureName, if_pos hk] at hname
    · have hk : m.kind ≠ .constructor := by
        intro hk
        simp [isReverted, Method.isAccessor, hk] at hreverted
      rwa [signatureName, if_neg hk, if_pos hreverted] at hname
  · rintro h n ⟨hfun, ⟨hiter, rfl⟩ | ⟨m, hm, hplace, rfl⟩⟩
    · exact (h hfun).1 hiter
    · obtain ⟨hconstructor, haccessor⟩ := (h hfun).2 m hm hplace
      unfold signatureName
      split
      next hk => exact hconstructor hk
      next =>
        split
        next hreverted => exact haccessor hreverted
        next =>
          -- Under its own name it would not have been kept.
          exact (Definition.mem_visibleMembers_iff.mp (Definition.kept_subset hm)).2.2

/-- A class with one getter. -/
def box : Definition :=
  { Definition.empty .classType (.simple "a.Box") with
    members := [.method (.getter "x" "getX" (.simple "int") "a.Box")] }

/-- The getter is declared as a method without accessors, excluded or not. -/
theorem declaresName_box :
    let s : Settings := { usesAccessors := false, excluded := ["getX"] }
    ∃ c, Catalogue.ofList [box] = .ok c ∧
      (¬∀ n, DeclaresName c s box n → n ∉ s.excluded) ∧
      moduleText c s "a" [box] = unlines
        ["declare module 'a' \x7b", "  export class Box \x7b", "    getX(): number;", "  \x7d",
          "\x7d"] := by
  refine ⟨_, rfl, fun h => ?_, by decide +kernel⟩
  exact h "getX" ⟨rfl, .inr ⟨_, List.mem_cons_self, rfl⟩⟩ List.mem_cons_self

end Declaration

end Ambient

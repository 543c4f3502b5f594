/-
What declarations inherit from.

The types that a definition inherits from are spread over the clauses of its declaration
in one of three ways, and with accessors over an interface of the same name as well.
This file finds all of them in the text.

* `headClauses`, `mergedParents` — which types stand in which clause;
* `mem_headClauses_or_mem_mergedParents` — between them no type is lost but lists and the
  root of all types;
* `Clause`, `Declares` — lines that declare a name with some heritage clauses;
* `declares_lines` — a declaration is such lines, with the types of these clauses;
* `heritage_complete` — what is inherited from is in a clause, and nothing else is.
-/
import Ambient.Proofs.Templates

namespace Ambient

/-! ### Texts of templates -/

namespace Template

variable {ν : String → String}

@[simp]
theorem fill_text (content : String) : fill ν [.text content] = content := by
  simp [fill, Piece.fill]

theorem fill_append (t u : Template) : fill ν (t ++ u) = fill ν t ++ fill ν u := by
  induction t with
  | nil => simp [fill]
  | cons p t ih => rw [List.cons_append, fill_cons, fill_cons, ih, String.append_assoc]

theorem fill_separated (text : String) (ts : List Template) :
    fill ν (separated text ts) = text.intercalate (ts.map (fill ν)) := by
  unfold separated
  induction ts with
  | nil => rfl
  | cons t ts ih =>
    cases ts with
    | nil => simp
    | cons u ts =>
      rw [List.intercalate_cons_cons, fill_append, fill_append, ih]
      simp [fill, Piece.fill, String.append_assoc]

@[simp]
theorem uses_nil : uses [] = [] := rfl

@[simp]
theorem uses_append (t u : Template) : uses (t ++ u) = uses t ++ uses u :=
  List.filterMap_append

theorem mem_uses_separated {n text : String} {ts : List Template} :
    n ∈ uses (separated text ts) ↔ ∃ t ∈ ts, n ∈ uses t := by
  unfold separated
  induction ts with
  | nil => simp
  | cons t ts ih =>
    cases ts with
    | nil => simp
    | cons u ts =>
      rw [List.intercalate_cons_cons, uses_append, uses_append, List.mem_append, ih]
      simp

theorem mem_uses_flatMap {α : Type} {f : α → Template} {as : List α} {n : String} :
    n ∈ uses (as.flatMap f) ↔ ∃ a ∈ as, n ∈ uses (f a) := by
  induction as with
  | nil => simp
  | cons a as ih => simp [List.flatMap_cons, ih]

end Template

namespace Scoped

open Template

/-- A template of which all names are known is filled in with these. -/
theorem run_write_of_knows {t : Template} {s : Scope} (h : ∀ n ∈ uses t, s.Knows n) :
    (write t).run s = (fill s.nameOf t, s) := by
  rw [run_write, Scope.bindAll_eq_self h]

theorem typeTemplates_eq_map (ts : List TypeExpr) : typeTemplates ts = ts.map typeTemplate := by
  induction ts with
  | nil => rfl
  | cons t ts ih => rw [typeTemplates, ih, List.map_cons]

theorem heritageTemplate_of_ne {t : TypeExpr} (h : t.baseType ≠ .list) :
    heritageTemplate t = typeTemplate t :=
  if_neg h

end Scoped

open Scoped Template

namespace Declaration

variable {s : Settings} {d : Definition} {t : TypeExpr}

/-! ### Which types stand where -/

/-- The word that a heritage clause begins with. -/
inductive ClauseKind where
  | extending
  | implementing
  deriving DecidableEq, Repr

def ClauseKind.word : ClauseKind → String
  | .extending => "extends"
  | .implementing => "implements"

/-- The types in the heading, clause by clause. -/
def headClauses (s : Settings) (d : Definition) : List (ClauseKind × List TypeExpr) :=
  if s.usesAccessors then [(.extending, (properParents d.parents).take 1)]
  else if isInterface s d then [(.extending, properParents d.parents)]
  else [(.extending, properParents d.superTypes), (.implementing, d.interfaces)]

/-- The types that the merged interface extends. -/
def mergedParents (s : Settings) (d : Definition) : List TypeExpr :=
  if s.usesAccessors ∧ 1 < (properParents d.parents).length then
    (properParents d.parents).filter (·.baseType ≠ .list)
  else []

theorem mem_properParents_iff {ts : List TypeExpr} :
    t ∈ properParents ts ↔ t ∈ ts ∧ t ≠ .object := by
  rw [properParents, List.mem_filter, decide_eq_true_eq]

/-- A type that is inherited from is in the heading or in the merged interface, unless it
is a list or the root of all types. -/
theorem mem_headClauses_or_mem_mergedParents (ht : t ∈ d.parents) (hobject : t ≠ .object)
    (hlist : t.baseType ≠ .list) :
    (∃ clause ∈ headClauses s d, t ∈ clause.2) ∨ t ∈ mergedParents s d := by
  have hproper : t ∈ properParents d.parents := mem_properParents_iff.mpr ⟨ht, hobject⟩
  unfold headClauses mergedParents
  by_cases hs : s.usesAccessors
  · rw [if_pos hs]
    by_cases hlength : 1 < (properParents d.parents).length
    · rw [if_pos ⟨hs, hlength⟩, List.mem_filter]
      exact .inr ⟨hproper, decide_eq_true hlist⟩
    · -- The one parent that there is at most is the one that the class extends.
      have htake := List.take_of_length_le (Nat.le_of_not_lt hlength)
      exact .inl ⟨_, List.mem_singleton_self _, by rwa [htake]⟩
  · rw [if_neg hs]
    by_cases hi : isInterface s d
    · rw [if_pos hi]
      exact .inl ⟨_, List.mem_singleton_self _, hproper⟩
    · rw [if_neg hi]
      obtain h | h := List.mem_append.mp ht
      · exact .inl ⟨_, List.mem_cons_self, mem_properParents_iff.mpr ⟨h, hobject⟩⟩
      · exact .inl ⟨_, List.mem_cons_of_mem _ List.mem_cons_self, h⟩

/-- Nothing but what is inherited from is in the heading. -/
theorem mem_parents_of_mem_headClauses {clause : ClauseKind × List TypeExpr}
    (hc : clause ∈ headClauses s d) (ht : t ∈ clause.2) : t ∈ d.parents := by
  unfold headClauses at hc
  split at hc
  · obtain rfl := List.mem_singleton.mp hc
    exact (mem_properParents_iff.mp (List.mem_of_mem_take ht)).1
  · split at hc
    · obtain rfl := List.mem_singleton.mp hc
      exact (mem_properParents_iff.mp ht).1
    · obtain rfl | hc := List.mem_cons.mp hc
      · exact List.mem_append_left _ (mem_properParents_iff.mp ht).1
      · obtain rfl := List.mem_singleton.mp hc
        exact List.mem_append_right _ ht

/-- The merged interface extends what is inherited from, but no lists. -/
theorem of_mem_mergedParents (ht : t ∈ mergedParents s d) :
    t ∈ d.parents ∧ t.baseType ≠ .list := by
  unfold mergedParents at ht
  split at ht
  · obtain ⟨hproper, hlist⟩ := List.mem_filter.mp ht
    exact ⟨(mem_properParents_iff.mp hproper).1, of_decide_eq_true hlist⟩
  · cases ht

/-! ### Clauses in a text -/

/-- A heritage clause as it is written. -/
structure Clause where
  kind : ClauseKind
  entries : List String

/-- A clause without entries is not written. -/
def Clause.text (clause : Clause) : String :=
  if clause.entries = [] then ""
  else " " ++ clause.kind.word ++ " " ++ ", ".intercalate clause.entries

/-- How a class or an interface begins, before its body. -/
def opening (keyword name : String) (clauses : List Clause) : String :=
  "export " ++ keyword ++ " " ++ name ++ String.join (clauses.map Clause.text)

/-- The lines are a class or an interface of this name with these clauses. -/
inductive IsBlock (name : String) (clauses : List Clause) : List String → Prop where
  | empty {keyword : String} (hk : keyword ∈ ["class", "interface"]) :
      IsBlock name clauses [indent 1 (opening keyword name clauses ++ " \x7b\x7d")]
  | body {keyword : String} (hk : keyword ∈ ["class", "interface"]) {inner : List String}
      (hinner : ∀ line ∈ inner, ∃ text, line = indent 2 text) :
      IsBlock name clauses (indent 1 (opening keyword name clauses ++ " \x7b") ::
        inner ++ [indent 1 "\x7d"])

/-- The lines declare the name, as a class or an interface and perhaps as an interface
once more, and have these clauses altogether. -/
inductive Declares (name : String) : List Clause → List String → Prop where
  | alone {clauses : List Clause} {lines : List String} (h : IsBlock name clauses lines) :
      Declares name clauses lines
  | merged {clauses more : List Clause} {lines further : List String}
      (h : IsBlock name clauses lines) (h' : IsBlock name more further) :
      Declares name (clauses ++ more) (lines ++ further)

/-- The clause with the texts of some types. -/
def clauseOf (ν : String → String) (clause : ClauseKind × List TypeExpr) : Clause where
  kind := clause.1
  entries := clause.2.map fun t => fill ν (heritageTemplate t)

variable {ν : String → String}

theorem fill_clauseTemplate (clause : ClauseKind × List TypeExpr) :
    fill ν (clauseTemplate clause.1.word clause.2) = (clauseOf ν clause).text := by
  obtain ⟨kind, ts⟩ := clause
  unfold clauseTemplate Clause.text clauseOf
  cases ts with
  | nil => rfl
  | cons t ts =>
    simp [fill_separated, Piece.fill, String.append_assoc, Function.comp_def]

theorem fill_flatMap {α : Type} (f : α → Template) (as : List α) :
    fill ν (as.flatMap f) = String.join (as.map fun a => fill ν (f a)) := by
  induction as with
  | nil => rfl
  | cons a as ih => rw [List.flatMap_cons, fill_append, ih, List.map_cons, String.join_cons]

/-- The template of an opening. -/
def openingTemplate (keyword : String) (name : Template)
    (clauses : List (ClauseKind × List TypeExpr)) : Template :=
  .text ("export " ++ keyword ++ " ") :: name ++
    clauses.flatMap fun clause => clauseTemplate clause.1.word clause.2

/-- A heading has its clauses after the name. -/
theorem exists_headingTemplate_eq (s : Settings) (d : Definition) (name : Template) :
    ∃ keyword ∈ ["class", "interface"],
      headingTemplate s d name = openingTemplate keyword name (headClauses s d) := by
  unfold headingTemplate headClauses openingTemplate
  dsimp only
  split
  · exact ⟨"class", List.mem_cons_self, by simp [ClauseKind.word]⟩
  · split
    · exact ⟨"interface", List.mem_cons_of_mem _ List.mem_cons_self, by simp [ClauseKind.word]⟩
    · exact ⟨"class", List.mem_cons_self, by simp [ClauseKind.word]⟩

theorem fill_openingTemplate (keyword : String) (name : Template)
    (clauses : List (ClauseKind × List TypeExpr)) :
    fill ν (openingTemplate keyword name clauses) =
      opening keyword (fill ν name) (clauses.map (clauseOf ν)) := by
  rw [openingTemplate, List.cons_append, fill_cons, fill_append, fill_flatMap, opening,
    List.map_map, String.append_assoc]
  simp [fill_clauseTemplate, Piece.fill, Function.comp_def, String.append_assoc]

/-- The names in the types of the clauses are used. -/
theorem mem_uses_openingTemplate {keyword : String} {name : Template}
    {clauses : List (ClauseKind × List TypeExpr)} {clause : ClauseKind × List TypeExpr}
    (hc : clause ∈ clauses) (ht : t ∈ clause.2) {n : String} (hn : n ∈ uses (heritageTemplate t)) :
    n ∈ uses (openingTemplate keyword name clauses) := by
  have hne : ¬clause.2.isEmpty := by
    rw [List.isEmpty_iff]
    exact List.ne_nil_of_mem ht
  have hclause : n ∈ uses (clauseTemplate clause.1.word clause.2) := by
    rw [clauseTemplate, if_neg hne, uses_text, mem_uses_separated]
    exact ⟨_, List.mem_map_of_mem ht, hn⟩
  rw [openingTemplate, uses_append]
  exact List.mem_append_right _ (mem_uses_flatMap.mpr ⟨clause, hc, hclause⟩)

@[simp]
theorem fill_plainLine (line : String) : fill ν (plainLine line) = line :=
  fill_text line

@[simp]
theorem fill_indented (depth : Nat) (t : Template) :
    fill ν (indented depth t) = indent depth (fill ν t) := by
  simp [indented, indent, Piece.fill]

theorem exists_eq_indent_of_mem_docLines {depth : Nat} {doc : Option String} {line : String}
    (h : line ∈ docLines depth doc) : ∃ text, line = indent depth text := by
  unfold docLines commentLines at h
  split at h
  · split at h
    · cases h
    · obtain ⟨text, -, rfl⟩ := List.mem_map.mp h
      exact ⟨text, rfl⟩
  · cases h

/-- The lines of a member stand at the second depth. -/
theorem exists_eq_indent_of_mem_memberTemplates {setters : List String} {m : Member} {t : Template}
    (h : t ∈ memberTemplates s setters m) : ∃ text, fill ν t = indent 2 text := by
  have hline : ∀ {t u : Template}, t ∈ (docLines 2 m.doc).map plainLine ++ [indented 2 u] →
      ∃ text, fill ν t = indent 2 text := by
    intro t u ht
    obtain ht | ht := List.mem_append.mp ht
    · obtain ⟨line, hline, rfl⟩ := List.mem_map.mp ht
      rw [fill_plainLine]
      exact exists_eq_indent_of_mem_docLines hline
    · obtain rfl := List.mem_singleton.mp ht
      exact ⟨_, fill_indented 2 u⟩
  cases m with
  | method m => exact hline h
  | field f => exact hline h
  | nested e => cases h

/-- A body begins with its heading. -/
theorem exists_bodyTemplates_eq (s : Settings) (heading : Template) (isIterable : Bool)
    (ms : List Member) : ∃ ending rest,
      bodyTemplates s heading isIterable ms = indented 1 (heading ++ [.text ending]) :: rest := by
  unfold bodyTemplates
  split
  · exact ⟨_, _, rfl⟩
  · exact ⟨_, _, rfl⟩

/-- A body goes with its heading to a block. -/
theorem isBlock_bodyTemplates {heading : Template} {keyword name : String} {clauses : List Clause}
    (hk : keyword ∈ ["class", "interface"])
    (hheading : fill ν heading = opening keyword name clauses) (isIterable : Bool)
    (ms : List Member) :
    IsBlock name clauses ((bodyTemplates s heading isIterable ms).map (fill ν)) := by
  have hfirst : ∀ ending, fill ν (indented 1 (heading ++ [.text ending])) =
      indent 1 (opening keyword name clauses ++ ending) := by
    intro ending
    rw [fill_indented, fill_append, hheading, fill_text]
  unfold bodyTemplates
  split
  · rw [List.map_singleton, hfirst]
    exact .empty hk
  · rw [List.map_append, List.map_append, List.map_cons, hfirst, List.map_singleton,
      fill_plainLine, List.cons_append]
    refine .body hk fun line hline => ?_
    obtain hline | hline := List.mem_append.mp hline
    · obtain ⟨t, ht, rfl⟩ := List.mem_map.mp hline
      split at ht
      · obtain rfl := List.mem_singleton.mp ht
        exact ⟨_, fill_plainLine _⟩
      · cases ht
    · obtain ⟨t, ht, rfl⟩ := List.mem_map.mp hline
      obtain ⟨m, -, ht⟩ := List.mem_flatMap.mp ht
      exact exists_eq_indent_of_mem_memberTemplates ht

/-- The clauses of the merged interface: one, or none if there is nothing to extend. -/
def mergedClauses (s : Settings) (d : Definition) : List (ClauseKind × List TypeExpr) :=
  if mergedParents s d = [] then [] else [(.extending, mergedParents s d)]

/-- Lists have no place in the merged interface, so that its types are written as usual. -/
theorem mergedTemplates_eq (s : Settings) (d : Definition) (name : Template) :
    mergedTemplates s d name = (mergedClauses s d).map fun clause =>
      indented 1 (openingTemplate "interface" name [clause] ++ [.text " \x7b\x7d"]) := by
  set merged := (properParents d.parents).filter (·.baseType ≠ .list) with hmerged
  have htemplates : typeTemplates merged = merged.map heritageTemplate := by
    rw [typeTemplates_eq_map]
    refine List.map_congr_left fun t ht => (heritageTemplate_of_ne ?_).symm
    exact of_decide_eq_true (List.mem_filter.mp ht).2
  unfold mergedTemplates mergedClauses mergedParents
  dsimp only
  rw [← hmerged, htemplates]
  by_cases hs : s.usesAccessors ∧ 1 < (properParents d.parents).length
  · rw [if_pos hs]
    by_cases hnil : merged = []
    · simp [hnil]
    · simp [hs, hnil, openingTemplate, clauseTemplate, ClauseKind.word]
  · rw [if_neg hs, if_pos rfl, List.map_nil, if_neg]
    simpa using fun h h' => absurd ⟨h, h'⟩ hs

/-- All clauses of a declaration. -/
def allClauses (s : Settings) (d : Definition) : List (ClauseKind × List TypeExpr) :=
  headClauses s d ++ mergedClauses s d

/-- A declaration that is not a function type is one block or two. -/
theorem declares_templates (c : Catalogue) (s : Settings) (h : d.functionMethod? = none)
    (ν : String → String) :
    ∃ block, (templates c s d).map (fill ν) = docLines 1 d.doc ++ block ∧
      Declares (fill ν (nameTemplate d)) ((allClauses s d).map (clauseOf ν)) block := by
  have hdoc : ((docLines 1 d.doc).map plainLine).map (fill ν) = docLines 1 d.doc := by
    rw [List.map_map]
    exact (List.map_congr_left fun line _ => fill_plainLine line).trans (List.map_id _)
  obtain ⟨keyword, hk, hheading⟩ := exists_headingTemplate_eq s d (nameTemplate d)
  have hblock : IsBlock (fill ν (nameTemplate d)) ((headClauses s d).map (clauseOf ν))
      ((bodyTemplates s (headingTemplate s d (nameTemplate d)) (d.name = TypeExpr.iterableName)
        (members c s d)).map (fill ν)) :=
    isBlock_bodyTemplates hk (by rw [hheading, fill_openingTemplate]) _ _
  unfold templates
  rw [h]
  dsimp only
  rw [List.map_append, List.map_append, hdoc, List.append_assoc, mergedTemplates_eq, allClauses,
    List.map_append]
  refine ⟨_, rfl, ?_⟩
  unfold mergedClauses
  split
  · simpa using Declares.alone hblock
  · refine .merged hblock ?_
    rw [List.map_singleton, List.map_singleton, List.map_singleton, fill_indented, fill_append,
      fill_openingTemplate, fill_text]
    exact .empty (List.mem_cons_of_mem _ List.mem_cons_self)

/-- What is used in the heading is used in the declaration. -/
theorem mem_uses_of_head (c : Catalogue) (s : Settings) (h : d.functionMethod? = none)
    (keyword : String) {n : String}
    (hn : n ∈ uses (openingTemplate keyword (nameTemplate d) (headClauses s d))) :
    n ∈ (templates c s d).flatMap uses := by
  obtain ⟨keyword', -, hheading⟩ := exists_headingTemplate_eq s d (nameTemplate d)
  obtain ⟨ending, rest, hbody⟩ := exists_bodyTemplates_eq s (headingTemplate s d (nameTemplate d))
    (d.name = TypeExpr.iterableName) (members c s d)
  unfold templates
  rw [h]
  dsimp only
  rw [List.flatMap_append, List.flatMap_append, hbody, hheading, List.flatMap_cons, indented,
    uses_text, uses_append]
  refine List.mem_append_left _ (List.mem_append_right _ (List.mem_append_left _ ?_))
  exact List.mem_append_left _ hn

/-- What is used in the merged interface is used in the declaration. -/
theorem mem_uses_of_merged (c : Catalogue) (s : Settings) (h : d.functionMethod? = none)
    {clause : ClauseKind × List TypeExpr} (hc : clause ∈ mergedClauses s d) {n : String}
    (hn : n ∈ uses (openingTemplate "interface" (nameTemplate d) [clause])) :
    n ∈ (templates c s d).flatMap uses := by
  unfold templates
  rw [h]
  dsimp only
  rw [List.flatMap_append, mergedTemplates_eq]
  refine List.mem_append_right _ (List.mem_flatMap.mpr ⟨_, List.mem_map_of_mem hc, ?_⟩)
  rw [indented, uses_text, uses_append]
  exact List.mem_append_left _ hn

/-- The names in the types of all clauses are used. -/
theorem mem_uses_templates (c : Catalogue) (s : Settings) (h : d.functionMethod? = none)
    {clause : ClauseKind × List TypeExpr} (hc : clause ∈ allClauses s d) (ht : t ∈ clause.2)
    {n : String} (hn : n ∈ uses (heritageTemplate t)) : n ∈ (templates c s d).flatMap uses := by
  obtain hc | hc := List.mem_append.mp hc
  · exact mem_uses_of_head c s h "class" (mem_uses_openingTemplate hc ht hn)
  · exact mem_uses_of_merged c s h hc (mem_uses_openingTemplate List.mem_cons_self ht hn)

/-- The types in the clauses of a declaration are those that are inherited from, but for
lists and the root of all types. -/
theorem exists_mem_allClauses (ht : t ∈ d.parents) (hobject : t ≠ .object)
    (hlist : t.baseType ≠ .list) : ∃ clause ∈ allClauses s d, t ∈ clause.2 := by
  obtain ⟨clause, hc, htc⟩ | hmerged :=
    mem_headClauses_or_mem_mergedParents (s := s) ht hobject hlist
  · exact ⟨clause, List.mem_append_left _ hc, htc⟩
  · refine ⟨(.extending, mergedParents s d), List.mem_append_right _ ?_, hmerged⟩
    rw [mergedClauses, if_neg (List.ne_nil_of_mem hmerged)]
    exact List.mem_cons_self

theorem mem_parents_of_mem_allClauses {clause : ClauseKind × List TypeExpr}
    (hc : clause ∈ allClauses s d) (ht : t ∈ clause.2) : t ∈ d.parents := by
  obtain hc | hc := List.mem_append.mp hc
  · exact mem_parents_of_mem_headClauses hc ht
  · unfold mergedClauses at hc
    split at hc
    · cases hc
    · obtain rfl := List.mem_singleton.mp hc
      exact (of_mem_mergedParents ht).1

/-- **Heritage is complete**: the lines of a declaration, unless it is a function type,
declare the name of the definition with some clauses.  Every type that is inherited from
stands in these, as it is written where it is used, unless it is a list or the root of
all types; and whatever stands in them is one of the types that are inherited from. -/
theorem heritage_complete (c : Catalogue) (s : Settings) (d : Definition) (scope : Scope)
    (h : d.functionMethod? = none) :
    let written := (lines c s d).run scope
    ∃ clauses block,
      written.1 = docLines 1 d.doc ++ block ∧
      Declares ((declaredName d).run written.2).1 clauses block ∧
      (∀ t ∈ d.parents, t ≠ .object → t.baseType ≠ .list →
        ((typeText t).run written.2).1 ∈ clauses.flatMap Clause.entries) ∧
      ∀ entry ∈ clauses.flatMap Clause.entries, ∃ t ∈ d.parents,
        entry = ((heritageText t).run written.2).1 := by
  -- All lines are written before anything is asked about names, so that the names that they
  -- use are known in the scope that is left, and a type is written there as it is in them.
  set final := scope.bindAll ((templates c s d).flatMap uses)
  have hrun : (lines c s d).run scope = ((templates c s d).map (fill final.nameOf), final) := by
    rw [lines_eq, run_writeAll]
  have hknown : ∀ n ∈ (templates c s d).flatMap uses, final.Knows n := fun n hn =>
    Scope.knows_bindAll hn
  have hname : (declaredName d).run final = (fill final.nameOf (nameTemplate d), final) := by
    rw [declaredName_eq]
    exact run_write_of_knows fun n hn =>
      hknown n (mem_uses_of_head c s h "class" (by
        rw [openingTemplate, uses_append, uses_text]
        exact List.mem_append_left _ hn))
  have htext : ∀ clause ∈ allClauses s d, ∀ t ∈ clause.2,
      (heritageText t).run final = (fill final.nameOf (heritageTemplate t), final) := by
    intro clause hc t ht
    rw [heritageText_eq]
    exact run_write_of_knows fun n hn => hknown n (mem_uses_templates c s h hc ht hn)
  obtain ⟨block, hlines, hdeclares⟩ := declares_templates c s h final.nameOf
  intro written
  rw [show written = _ from hrun, hname]
  refine ⟨_, block, hlines, hdeclares, fun t ht hobject hlist => ?_, fun entry hentry => ?_⟩
  · obtain ⟨clause, hc, htc⟩ := exists_mem_allClauses (s := s) ht hobject hlist
    have hplain : (typeText t).run final = (heritageText t).run final := by
      rw [typeText_eq, heritageText_eq, heritageTemplate_of_ne hlist]
    rw [hplain, htext clause hc t htc]
    exact List.mem_flatMap.mpr ⟨_, List.mem_map_of_mem hc, List.mem_map_of_mem htc⟩
  · obtain ⟨_, hwritten, hentry⟩ := List.mem_flatMap.mp hentry
    obtain ⟨clause, hc, rfl⟩ := List.mem_map.mp hwritten
    obtain ⟨t, htc, rfl⟩ := List.mem_map.mp hentry
    exact ⟨t, mem_parents_of_mem_allClauses hc htc, by rw [htext clause hc t htc]⟩

/-- A class with two interfaces besides its super type and a list. -/
def puppy : Definition :=
  { Definition.empty .classType (.simple "a.Puppy") with
    superTypes := [.object, .simple "b.Dog", .generic .list [.simple "b.Bone"]]
    interfaces := [.simple "c.Pet", .generic (.simple "c.Tame") [.simple "b.Owner"]] }

/-- The module of the class. -/
def kennelScope : Scope where
  module := "a"
  taken := ["Puppy"]

theorem heritage_complete_puppy :
    puppy.functionMethod? = none ∧
    ∃ clauses block, ((lines {} {} puppy).run kennelScope).1 = block ∧
      Declares "Puppy" clauses block ∧ "Tame<Owner>" ∈ clauses.flatMap Clause.entries := by
  obtain ⟨clauses, block, hlines, hdeclares, hall, -⟩ :=
    heritage_complete {} {} puppy kennelScope rfl
  have hname : ((declaredName puppy).run ((lines {} {} puppy).run kennelScope).2).1 = "Puppy" := by
    decide +kernel
  have htext : ((typeText (.generic (.simple "c.Tame") [.simple "b.Owner"])).run
      ((lines {} {} puppy).run kennelScope).2).1 = "Tame<Owner>" := by
    decide +kernel
  have hentry := hall (.generic (.simple "c.Tame") [.simple "b.Owner"]) (by decide) (by decide)
    (by decide)
  rw [hname] at hdeclares
  rw [htext] at hentry
  exact ⟨rfl, clauses, block, hlines, hdeclares, hentry⟩

/-- The class extends one type, and the interface beside it all but the list. -/
example :
    ((lines {} {} puppy).run kennelScope).1 =
      ["  export class Puppy extends Dog {}",
       "  export interface Puppy extends Dog, Pet, Tame<Owner> {}"] := by
  decide +kernel

/-- Without accessors the list is among the types that are extended. -/
example :
    ((lines {} { usesAccessors := false } puppy).run kennelScope).1 =
      ["  export class Puppy extends Dog, Array<Bone> implements Pet, Tame<Owner> {}"] := by
  decide +kernel

end Declaration

end Ambient

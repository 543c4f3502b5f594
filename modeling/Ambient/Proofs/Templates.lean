/-
Templates: texts with places for names.

Declarations are written piece by piece, and every use of a name may change the
scope.  Here what is written is separated from the names it gets: a template is
the text with the qualified names in their places, and to write it is to fill
each place with the local name at the end.

* `Piece`, `Template`, `Template.fill`, `Template.uses` — texts with places;
* `Scoped.write`, `run_write` — writing a template from left to right comes to the
  same as binding all of its names first and filling the places afterwards;
* `typeTemplate`, ..., `Declaration.templates`, `blockTemplates` — the template
  of whatever is written, each with the equation that it is what is written.
-/
import Ambient.Declaration.Basic
import Ambient.Proofs.LocalNames

namespace Ambient

/-! ### Templates -/

/-- A part of a template. -/
inductive Piece where
  /-- A text as it stands. -/
  | text (content : String)
  /-- The place of a qualified name. -/
  | use (qualified : String)
  deriving DecidableEq, Repr

/-- A text with places for names. -/
abbrev Template := List Piece

def Piece.fill (ν : String → String) : Piece → String
  | .text a => a
  | .use n => ν n

def Piece.name? : Piece → Option String
  | .text _ => none
  | .use n => some n

namespace Template

/-- The text with all names filled in. -/
def fill (ν : String → String) (t : Template) : String :=
  String.join (t.map (Piece.fill ν))

def uses (t : Template) : List String :=
  t.filterMap Piece.name?

def separated (text : String) (ts : List Template) : Template :=
  [.text text].intercalate ts

variable {ν μ : String → String} {t : Template}

@[simp]
theorem fill_cons (p : Piece) : fill ν (p :: t) = p.fill ν ++ fill ν t := by
  simp [fill, String.join_cons]

@[simp]
theorem uses_text (a : String) : uses (.text a :: t) = uses t := rfl

@[simp]
theorem uses_use (n : String) : uses (.use n :: t) = n :: uses t := rfl

/-- Only the names that have a place matter. -/
theorem fill_congr (h : ∀ n ∈ t.uses, ν n = μ n) : fill ν t = fill μ t := by
  induction t with
  | nil => rfl
  | cons p t ih =>
    cases p with
    | text a =>
      rw [fill_cons, fill_cons, ih h]
      rfl
    | use n =>
      obtain ⟨hn, ht⟩ := List.forall_mem_cons.mp h
      rw [fill_cons, fill_cons, ih ht, Piece.fill, Piece.fill, hn]

/-- Later imports do not change what known names are filled in with. -/
theorem fill_nameOf_bindAll {s : Scope} (h : ∀ n ∈ uses t, s.Knows n) (ns : List String) :
    fill (s.bindAll ns).nameOf t = fill s.nameOf t :=
  fill_congr fun n hn => ((h n hn).bindAll ns).2

end Template

open Template

namespace Scoped

/-! ### Writing -/

/-- Writes the pieces from left to right. -/
@[simp]
def write : Template → Scoped String
  | [] => pure ""
  | .text a :: t => do
    let rest ← write t
    return a ++ rest
  | .use n :: t => do
    let name ← localName n
    let rest ← write t
    return name ++ rest

/-- To write a template is to bind its names and then to fill them in. -/
theorem run_write (t : Template) (s : Scope) :
    (write t).run s = (fill (s.bindAll (uses t)).nameOf t, s.bindAll (uses t)) := by
  induction t generalizing s with
  | nil => rfl
  | cons p t ih =>
    cases p with
    | text a =>
      rw [write, StateT.run_bind, ih, fill_cons, uses_text]
      rfl
    | use n =>
      have hname := (s.nameOf_bindAll_cons n (uses t)).2
      rw [write, StateT.run_bind]
      show (write t >>= fun rest => pure ((s.bind n).1 ++ rest)).run (s.bind n).2 = _
      rw [StateT.run_bind, ih, fill_cons, Piece.fill, uses_use, hname]
      rfl

/-- What follows goes on with the text and the names that are bound by then. -/
theorem run_write_bind {α : Type} (t : Template) (k : String → Scoped α) (s : Scope) :
    (write t >>= k).run s =
      (k (fill (s.bindAll (uses t)).nameOf t)).run (s.bindAll (uses t)) := by
  rw [StateT.run_bind, run_write]
  rfl

@[simp]
theorem write_append (t u : Template) :
    write (t ++ u) = (do
      let first ← write t
      let rest ← write u
      return first ++ rest) := by
  induction t with
  | nil => simp only [write, List.nil_append, pure_bind, String.empty_append, bind_pure]
  | cons p t ih =>
    cases p <;> simp only [write, List.cons_append, ih, bind_assoc, pure_bind, String.append_assoc]

/-- Writes several templates, one after the other. -/
def writeAll (ts : List Template) : Scoped (List String) :=
  ts.mapM write

@[simp]
theorem write_separated (a : String) (ts : List Template) :
    write (separated a ts) = (do
      let texts ← writeAll ts
      return a.intercalate texts) := by
  unfold separated writeAll
  induction ts with
  | nil => simp
  | cons t ts ih =>
    cases ts with
    | nil => simp
    | cons u ts =>
      rw [List.intercalate_cons_cons, write_append, write_append, ih]
      simp [List.mapM_cons, String.append_assoc]

/-- What writes a template for each element writes them all, one after the other. -/
theorem mapM_eq_writeAll {α : Type} {p : α → Scoped String} {f : α → Template}
    (h : ∀ a, p a = write (f a)) (as : List α) : as.mapM p = writeAll (as.map f) := by
  rw [writeAll, List.mapM_map, funext h]
  rfl

/-! ### Types

Each text has its template beside it, with the equation that the text is what is
written.  Builtin types and the names of declared parameters are texts; every
other name has a place of its own. -/

mutual

def typeTemplate : TypeExpr → Template
  | .simple name =>
    match TypeExpr.targetNames.lookup name with
    | some target => [.text target]
    | none => [.use name]
  | .generic base args =>
    if base.baseType = .list then
      if args.length = 1 then separated ", " (typeTemplates args) ++ [.text "[]"]
      else [.text "any[]"]
    else typeTemplate base ++ .text "<" :: separated ", " (typeTemplates args) ++ [.text ">"]
  | .array component n => typeTemplate component ++ [.text (TypeExpr.brackets n)]
  | .wildcard bound => typeTemplate bound
  | .nullable inner => typeTemplate inner

def typeTemplates : List TypeExpr → List Template
  | [] => []
  | t :: ts => typeTemplate t :: typeTemplates ts

end

mutual

@[simp]
theorem typeText_eq : (t : TypeExpr) → typeText t = write (typeTemplate t)
  | .simple name => by
    rw [typeText, typeTemplate]
    cases TypeExpr.targetNames.lookup name with
    | some target => simp
    | none => simp
  | .generic base args => by
    rw [typeText, typeTemplate]
    split
    · split
      · rw [typeTexts_eq args]
        simp
      · simp
    · rw [typeText_eq base, typeTexts_eq args]
      simp [String.append_assoc]
  | .array component n => by
    rw [typeText, typeTemplate, typeText_eq component]
    simp
  | .wildcard bound => by
    rw [typeText, typeTemplate, typeText_eq bound]
  | .nullable inner => by
    rw [typeText, typeTemplate, typeText_eq inner]

@[simp]
theorem typeTexts_eq : (ts : List TypeExpr) → typeTexts ts = writeAll (typeTemplates ts)
  | [] => by simp [typeTexts, typeTemplates, writeAll]
  | t :: ts => by
    rw [typeTexts, typeTemplates, typeText_eq t, typeTexts_eq ts, writeAll, writeAll,
      List.mapM_cons]

end

def heritageTemplate (t : TypeExpr) : Template :=
  if t.baseType = .list then
    match t.args with
    | [element] => .text "Array<" :: typeTemplate element ++ [.text ">"]
    | _ => [.text "Array<any>"]
  else typeTemplate t

@[simp]
theorem heritageText_eq (t : TypeExpr) : heritageText t = write (heritageTemplate t) := by
  unfold heritageText heritageTemplate
  split
  · cases t.args with
    | nil => simp
    | cons element rest =>
      cases rest with
      | nil => simp [String.append_assoc]
      | cons => simp
  · exact typeText_eq t

def clauseTemplate (word : String) (ts : List TypeExpr) : Template :=
  if ts.isEmpty then []
  else .text (" " ++ word ++ " ") :: separated ", " (ts.map heritageTemplate)

@[simp]
theorem heritageClause_eq (word : String) (ts : List TypeExpr) :
    heritageClause word ts = write (clauseTemplate word ts) := by
  unfold heritageClause clauseTemplate
  split
  · rfl
  · simp [mapM_eq_writeAll heritageText_eq]

def genericTemplate : TypeExpr → Template
  | .generic base bounds =>
    .text (base.name ++ " extends ") :: separated " & " (typeTemplates bounds)
  | t => [.text t.name]

@[simp]
theorem genericText_eq (t : TypeExpr) : genericText t = write (genericTemplate t) := by
  cases t with
  | generic base bounds => simp [genericText, genericTemplate]
  | simple => simp [genericText, genericTemplate]
  | array => simp [genericText, genericTemplate]
  | wildcard => simp [genericText, genericTemplate]
  | nullable => simp [genericText, genericTemplate]

def genericsTemplate (ts : List TypeExpr) : Template :=
  if ts.isEmpty then []
  else .text "<" :: separated ", " (ts.map genericTemplate) ++ [.text ">"]

@[simp]
theorem genericsText_eq (ts : List TypeExpr) :
    genericsText ts = write (genericsTemplate ts) := by
  unfold genericsText genericsTemplate
  split
  · rfl
  · simp [mapM_eq_writeAll genericText_eq, String.append_assoc]

def paramTemplate (p : Parameter) : Template :=
  .text ((if p.variadic then "..." else "") ++ parameterName p.name ++ ": ") ::
    typeTemplate p.type

@[simp]
theorem paramText_eq (p : Parameter) : paramText p = write (paramTemplate p) := by
  simp [paramText, paramTemplate]

def paramsTemplate (ps : List Parameter) : Template :=
  separated ", " (ps.map paramTemplate)

@[simp]
theorem paramsText_eq (ps : List Parameter) : paramsText ps = write (paramsTemplate ps) := by
  simp [paramsText, paramsTemplate, mapM_eq_writeAll paramText_eq]

/-! ### Members -/

def plainTemplate (modifier name : String) (m : Method) : Template :=
  .text (modifier ++ name) :: genericsTemplate m.typeParams ++ .text "(" ::
    paramsTemplate m.params ++ .text "): " :: typeTemplate m.returnType ++ [.text ";"]

@[simp]
theorem plainText_eq (modifier name : String) (m : Method) :
    plainText modifier name m = write (plainTemplate modifier name m) := by
  simp [plainText, plainTemplate, String.append_assoc]

def methodTemplate (s : Settings) (setters : List String) (m : Method) : Template :=
  let modifier := if m.isStatic then "static " else ""
  match m.kind, s.usesAccessors with
  | .constructor, _ => .text "constructor(" :: paramsTemplate m.params ++ [.text ");"]
  | .getter, true =>
    if s.marksReadOnly && m.name ∉ setters then
      .text (modifier ++ "readonly " ++ m.name ++ ": ") :: typeTemplate m.returnType ++ [.text ";"]
    else
      .text (modifier ++ "get " ++ m.name ++ "(): ") :: typeTemplate m.returnType ++ [.text ";"]
  | .setter, true =>
    .text (modifier ++ "set " ++ m.name ++ "(") :: paramsTemplate m.params ++ [.text ");"]
  | .plain, _ => plainTemplate modifier m.name m
  | _, false => plainTemplate modifier m.methodName m

@[simp]
theorem methodText_eq (s : Settings) (setters : List String) (m : Method) :
    methodText s setters m = write (methodTemplate s setters m) := by
  unfold methodText methodTemplate
  cases m.kind <;> cases s.usesAccessors <;> simp [String.append_assoc]
  -- Only a getter among accessors asks for more than the kind.
  split <;> simp [String.append_assoc]

def fieldTemplate (f : Field) : Template :=
  .text ((if f.isStatic then "static " else "") ++ (if f.isFinal then "readonly " else "") ++
    f.name ++ ": ") :: typeTemplate f.type ++ [.text ";"]

@[simp]
theorem fieldText_eq (f : Field) : fieldText f = write (fieldTemplate f) := by
  simp [fieldText, fieldTemplate, String.append_assoc]

/-! ### Lines -/

def plainLine (line : String) : Template := [.text line]

def indented (depth : Nat) (t : Template) : Template :=
  .text (indent depth "") :: t

@[simp]
theorem write_plainLine (line : String) : write (plainLine line) = pure line := by
  simp [plainLine]

@[simp]
theorem write_indented (depth : Nat) (t : Template) :
    write (indented depth t) = (do
      let line ← write t
      return indent depth line) := by
  simp [indented, indent]

@[simp]
theorem writeAll_nil : writeAll [] = pure [] := rfl

@[simp]
theorem writeAll_cons (t : Template) (ts : List Template) :
    writeAll (t :: ts) = (do
      let line ← write t
      let rest ← writeAll ts
      return line :: rest) := by
  simp [writeAll]

@[simp]
theorem writeAll_append (ts us : List Template) :
    writeAll (ts ++ us) = (do
      let first ← writeAll ts
      let rest ← writeAll us
      return first ++ rest) := by
  simp [writeAll]

@[simp]
theorem writeAll_map_plainLine (lines : List String) :
    writeAll (lines.map plainLine) = pure lines := by
  induction lines with
  | nil => rfl
  | cons line lines ih => simp [ih]

/-- To write several templates is to bind all their names and then to fill them in. -/
theorem run_writeAll (ts : List Template) (s : Scope) :
    (writeAll ts).run s =
      (ts.map (fill (s.bindAll (ts.flatMap uses)).nameOf), s.bindAll (ts.flatMap uses)) := by
  induction ts generalizing s with
  | nil => rfl
  | cons t ts ih =>
    have hknown : ∀ n ∈ uses t, (s.bindAll (uses t)).Knows n := fun n hn => Scope.knows_bindAll hn
    rw [writeAll_cons, run_write_bind, StateT.run_bind, ih, List.flatMap_cons,
      Scope.bindAll_append, List.map_cons, fill_nameOf_bindAll hknown]
    rfl

theorem run_writeAll_bind {α : Type} (ts : List Template) (k : List String → Scoped α)
    (s : Scope) :
    (writeAll ts >>= k).run s =
      (k (ts.map (fill (s.bindAll (ts.flatMap uses)).nameOf))).run
        (s.bindAll (ts.flatMap uses)) := by
  rw [StateT.run_bind, run_writeAll]
  rfl

/-- What was written before can be recalled instead of being written again: its
names keep their local names. -/
theorem write_recall {α : Type} (t : Template) (ts : String → List Template)
    (k : List String → String → Scoped α) :
    (do let x ← write t
        let lines ← writeAll (ts x)
        let y ← write t
        k lines y) = (do
      let x ← write t
      let lines ← writeAll (ts x)
      k lines x) := by
  apply StateT.ext
  intro s
  rw [run_write_bind, run_write_bind, run_writeAll_bind, run_writeAll_bind, run_write_bind]
  set s₁ := s.bindAll (uses t)
  set x := fill s₁.nameOf t
  set s₂ := s₁.bindAll ((ts x).flatMap uses)
  have hknown₁ : ∀ n ∈ uses t, s₁.Knows n := fun n hn => Scope.knows_bindAll hn
  have hknown₂ : ∀ n ∈ uses t, s₂.Knows n := fun n hn => ((hknown₁ n hn).bindAll _).1
  rw [Scope.bindAll_eq_self hknown₂, fill_nameOf_bindAll hknown₁]

/-- What writes several templates for each element writes them all. -/
theorem mapM_flatten {α : Type} {p : α → Scoped (List String)} {f : α → List Template}
    (h : ∀ a, p a = writeAll (f a)) (as : List α) :
    (do let lines ← as.mapM p
        return lines.flatten) = writeAll (as.flatMap f) := by
  induction as with
  | nil => simp
  | cons a as ih =>
    rw [List.flatMap_cons, writeAll_append, ← ih]
    simp [h]

def memberTemplates (s : Settings) (setters : List String) (m : Member) : List Template :=
  match m with
  | .method method =>
    (docLines 2 m.doc).map plainLine ++ [indented 2 (methodTemplate s setters method)]
  | .field field => (docLines 2 m.doc).map plainLine ++ [indented 2 (fieldTemplate field)]
  | .nested _ => []

theorem memberLines_eq (s : Settings) (setters : List String) (m : Member) :
    memberLines s setters m = writeAll (memberTemplates s setters m) := by
  cases m with
  | method m => simp [memberLines, memberTemplates]
  | field f => simp [memberLines, memberTemplates]
  | nested d => simp [memberLines, memberTemplates]

/-- The template of a definition's name with its type parameters. -/
def nameTemplate (d : Definition) : Template :=
  .text d.simpleName :: genericsTemplate d.type.args

@[simp]
theorem declaredName_eq (d : Definition) : declaredName d = write (nameTemplate d) := by
  simp [declaredName, nameTemplate]

def functionTemplate (m : Method) : Template :=
  genericsTemplate m.typeParams ++ .text "(" :: paramsTemplate m.params ++ .text ") => " ::
    typeTemplate m.returnType

@[simp]
theorem functionText_eq (m : Method) : functionText m = write (functionTemplate m) := by
  simp [functionText, functionTemplate, String.append_assoc]

end Scoped

open Scoped

namespace Declaration

/-! ### Declarations -/

/-- The template of a heading, given the template of the name. -/
def headingTemplate (s : Settings) (d : Definition) (name : Template) : Template :=
  let parents := properParents d.parents
  if s.usesAccessors then
    .text "export class " :: name ++ clauseTemplate "extends" (parents.take 1)
  else if isInterface s d then
    .text "export interface " :: name ++ clauseTemplate "extends" parents
  else
    .text "export class " :: name ++ clauseTemplate "extends" (properParents d.superTypes) ++
      clauseTemplate "implements" d.interfaces

/-- The templates of a class or an interface, given that of its heading. -/
def bodyTemplates (s : Settings) (heading : Template) (isIterable : Bool) (ms : List Member) :
    List Template :=
  if ms.isEmpty && !isIterable then [indented 1 (heading ++ [.text " \x7b\x7d"])]
  else
    indented 1 (heading ++ [.text " \x7b"]) ::
      (if isIterable then [plainLine (indent 2 iteratorMember)] else []) ++
      ms.flatMap (memberTemplates s (setterNames ms)) ++ [plainLine (indent 1 "\x7d")]

/-- The templates of the merged interface, given that of its name. -/
def mergedTemplates (s : Settings) (d : Definition) (name : Template) : List Template :=
  let parents := properParents d.parents
  let merged := parents.filter (·.baseType ≠ .list)
  if s.usesAccessors && 1 < parents.length && !merged.isEmpty then
    [indented 1 (.text "export interface " :: name ++ .text " extends " ::
      separated ", " (typeTemplates merged) ++ [.text " \x7b\x7d"])]
  else []

@[simp]
theorem heading_eq (s : Settings) (d : Definition) (name : String) :
    heading s d name = write (headingTemplate s d [.text name]) := by
  unfold heading headingTemplate
  split
  · simp [String.append_assoc]
  · split <;> simp [String.append_assoc]

/-- A heading is written with the name in it. -/
theorem write_headingTemplate (s : Settings) (d : Definition) (name : Template) :
    write (headingTemplate s d name) = (do
      let x ← write name
      write (headingTemplate s d [.text x])) := by
  unfold headingTemplate
  split
  · simp
  · split <;> simp

/-- A body is written with the heading in it. -/
theorem writeAll_bodyTemplates (s : Settings) (heading : Template) (isIterable : Bool)
    (ms : List Member) :
    writeAll (bodyTemplates s heading isIterable ms) = (do
      let x ← write heading
      bodyLines s x isIterable ms) := by
  unfold bodyTemplates bodyLines
  split
  · simp
  · rw [writeAll_append, writeAll_append, ← mapM_flatten (memberLines_eq s (setterNames ms))]
    cases isIterable <;> simp

@[simp]
theorem mergedLines_eq (s : Settings) (d : Definition) (name : String) :
    mergedLines s d name = writeAll (mergedTemplates s d [.text name]) := by
  unfold mergedLines mergedTemplates
  dsimp only
  split
  · simp [String.append_assoc]
  · simp

/-- The merged interface, if there is one, is written with the name in it. -/
theorem writeAll_mergedTemplates (s : Settings) (d : Definition) :
    (∀ name, mergedTemplates s d name = []) ∨
    ∀ name, writeAll (mergedTemplates s d name) = (do
      let x ← write name
      writeAll (mergedTemplates s d [.text x])) := by
  unfold mergedTemplates
  dsimp only
  split
  · right
    intro name
    simp
  · left
    intro name
    rfl

/-- The templates of a declaration. -/
def templates (c : Catalogue) (s : Settings) (d : Definition) : List Template :=
  let doc := (docLines 1 d.doc).map plainLine
  match d.functionMethod? with
  | some m =>
    doc ++ [indented 1 (.text "export type " :: nameTemplate d ++ .text " = " ::
      functionTemplate m ++ [.text ";"])]
  | none =>
    doc ++ bodyTemplates s (headingTemplate s d (nameTemplate d))
        (d.name = TypeExpr.iterableName) (members c s d) ++
      mergedTemplates s d (nameTemplate d)

/-- The lines of a declaration are those of its templates. -/
theorem lines_eq (c : Catalogue) (s : Settings) (d : Definition) :
    lines c s d = writeAll (templates c s d) := by
  unfold lines templates
  cases d.functionMethod? with
  | some m => simp [String.append_assoc]
  | none =>
    set isIterable : Bool := decide (d.name = TypeExpr.iterableName)
    set ms := members c s d
    have hbody : ∀ name, writeAll (bodyTemplates s (headingTemplate s d name) isIterable ms) =
        (do let x ← write name
            writeAll (bodyTemplates s (headingTemplate s d [.text x]) isIterable ms)) := by
      intro name
      simp only [writeAll_bodyTemplates, write_headingTemplate s d name, bind_assoc]
    have hfold : ∀ {α : Type} (x : String) (k : List String → Scoped α),
        (do let heading ← write (headingTemplate s d [.text x])
            let body ← bodyLines s heading isIterable ms
            k body) =
          writeAll (bodyTemplates s (headingTemplate s d [.text x]) isIterable ms) >>= k := by
      intro α x k
      rw [writeAll_bodyTemplates, bind_assoc]
    simp only [declaredName_eq, heading_eq, mergedLines_eq, hfold, writeAll_append,
      writeAll_map_plainLine, pure_bind, bind_assoc, hbody (nameTemplate d)]
    obtain hnone | hmerged := writeAll_mergedTemplates s d
    · simp [hnone]
    · rw [hmerged (nameTemplate d)]
      simp only [bind_assoc]
      rw [write_recall (nameTemplate d)]

end Declaration

/-! ### Modules -/

/-- The templates of all lines of some declarations. -/
def blockTemplates (c : Catalogue) (s : Settings) (ds : List Definition) : List Template :=
  [plainLine ""].intercalate (ds.map (Declaration.templates c s))

theorem writeAll_intercalate (line : String) (blocks : List (List Template)) :
    writeAll ([plainLine line].intercalate blocks) = (do
      let texts ← blocks.mapM writeAll
      return [line].intercalate texts) := by
  induction blocks with
  | nil => simp
  | cons ts blocks ih =>
    cases blocks with
    | nil => simp
    | cons us blocks =>
      rw [List.intercalate_cons_cons, writeAll_append, writeAll_append, ih]
      simp [List.mapM_cons]

theorem declarationLines_eq (c : Catalogue) (s : Settings) (ds : List Definition) :
    declarationLines c s ds = writeAll (blockTemplates c s ds) := by
  rw [declarationLines, blockTemplates, writeAll_intercalate, List.mapM_map,
    funext (Declaration.lines_eq c s)]
  rfl

/-- The names that are used in some declarations, in order. -/
def blockUses (c : Catalogue) (s : Settings) (ds : List Definition) : List String :=
  (blockTemplates c s ds).flatMap uses

/-- The scope of a module in the end, when all names in its declarations are bound. -/
def blockScope (c : Catalogue) (s : Settings) (module : String) (ds : List Definition) : Scope :=
  Scope.bindAll { module, taken := ds.map Definition.simpleName } (blockUses c s ds)

/-- The text of a module from its import statements and the lines of its
declarations. -/
def blockText (module : String) (imports lines : List String) : String :=
  unlines (("declare module '" ++ module ++ "' \x7b") ::
    (if imports.isEmpty then [] else imports.map (indent 1) ++ [""]) ++ lines ++ ["\x7d"])

/-- **A module is its template with the local names filled in**, after the import
statements for them. -/
theorem moduleText_eq (c : Catalogue) (s : Settings) (module : String) (ds : List Definition) :
    moduleText c s module ds =
      blockText module (blockScope c s module ds).importLines
        ((blockTemplates c s ds).map (fill (blockScope c s module ds).nameOf)) := by
  unfold moduleText blockText
  dsimp only
  rw [declarationLines_eq, run_writeAll]
  simp [blockScope, blockUses]

end Ambient

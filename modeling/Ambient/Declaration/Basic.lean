/-
Declarations and modules.

* `Settings` — every choice that changes the output; the defaults are what is done when nothing is
  asked for;
* `commentLines` — a text as a comment, one line for each line of the text, where whatever would end
  the comment early is taken apart;
* `Scoped.memberLines` — a field or a method with its comment;
* `Declaration.heading` — how a definition is declared and what it inherits from;
* `Declaration.lines` — a whole declaration: its comment, its heading, its members, and with
  accessors an interface of the same name that inherits from all that the class cannot;
* `moduleText` — a module with its imports and declarations.

With accessors every type is a class, as interfaces have no accessors. A functional interface that
begins with its method is a function type instead.
-/
import Ambient.Declaration.Types
import Ambient.Hierarchy.Cleanup
import Ambient.Text.Split

namespace Ambient

/-- The choices that shape the output. -/
structure Settings where
  /-- Whether there is an index of all units. -/
  buildsIndex : Bool := false
  /-- Whether a getter without a setter is a read-only property. -/
  marksReadOnly : Bool := false
  /-- The names of methods that are left out. -/
  excluded : List String := []
  /-- Whether accessors are declared as properties, and every type as a class. -/
  usesAccessors : Bool := true
  /-- Whether each module has a unit of its own. -/
  groupsByModule : Bool := false
  /-- Whether ancestors are copied into each type, and no longer inherited from. -/
  flattens : Bool := false
  /-- Whether overriding methods without documentation take an ancestor's. -/
  forcesDocs : Bool := false
  /-- The patterns for methods that may be copied from ancestors. -/
  whitelist : List String := []
  /-- The types to declare, with all they lead to; all types if there are none. -/
  rootTypes : List String := []
  deriving DecidableEq, Repr, Inhabited

/-! ### Comments -/

/-- A line of text at some depth of indentation. -/
def indent (depth : Nat) (text : String) : String :=
  String.ofList (List.replicate (2 * depth) ' ') ++ text

/-- The text with a backslash inside each `*/`. -/
def openComment : List Char → List Char
  | [] => []
  | [c] => [c]
  | c :: d :: cs =>
    if c = '*' ∧ d = '/' then '*' :: '\\' :: '/' :: openComment cs
    else c :: openComment (d :: cs)

/-- The line of a comment that holds a line of text. -/
def commentLine (line : List Char) : String :=
  match openComment (Text.trimEnd line) with
  | [] => " *"
  | cs => " * " ++ String.ofList cs

/-- A comment with the text, or nothing if the text is blank. -/
def commentLines (depth : Nat) (text : String) : List String :=
  match Text.trim text.toList with
  | [] => []
  | cs =>
    let body := (Text.splitOn '\n' cs).map commentLine
    ("/**" :: body ++ [" */"]).map (indent depth)

/-- The comment of what has documentation. -/
def docLines (depth : Nat) : Option String → List String
  | some doc => commentLines depth doc
  | none => []

/-! ### Members -/

namespace Scoped

/-- A method's name, parameters and result. -/
def plainText (modifier name : String) (m : Method) : Scoped String := do
  let generics ← genericsText m.typeParams
  let params ← paramsText m.params
  return modifier ++ name ++ generics ++ "(" ++ params ++ "): " ++ (← typeText m.returnType) ++ ";"

/-- The declaration of a method, given the names of the properties that can be written. -/
def methodText (s : Settings) (setters : List String) (m : Method) : Scoped String :=
  let modifier := if m.isStatic then "static " else ""
  match m.kind, s.usesAccessors with
  | .constructor, _ => do return "constructor(" ++ (← paramsText m.params) ++ ");"
  | .getter, true => do
    let type ← typeText m.returnType
    if s.marksReadOnly && m.name ∉ setters then
      return modifier ++ "readonly " ++ m.name ++ ": " ++ type ++ ";"
    else return modifier ++ "get " ++ m.name ++ "(): " ++ type ++ ";"
  | .setter, true => do
    return modifier ++ "set " ++ m.name ++ "(" ++ (← paramsText m.params) ++ ");"
  | .plain, _ => plainText modifier m.name m
  | _, false => plainText modifier m.methodName m

/-- The declaration of a field. -/
def fieldText (f : Field) : Scoped String := do
  let modifiers := (if f.isStatic then "static " else "") ++ if f.isFinal then "readonly " else ""
  return modifiers ++ f.name ++ ": " ++ (← typeText f.type) ++ ";"

/-- A member with its comment. Nested definitions are declared elsewhere. -/
def memberLines (s : Settings) (setters : List String) (m : Member) : Scoped (List String) :=
  match m with
  | .method method => do
    return docLines 2 m.doc ++ [indent 2 (← methodText s setters method)]
  | .field field => do return docLines 2 m.doc ++ [indent 2 (← fieldText field)]
  | .nested _ => pure []

/-- The name of a definition with its type parameters. -/
def declaredName (d : Definition) : Scoped String := do
  return d.simpleName ++ (← genericsText d.type.args)

/-- A method as a function type. -/
def functionText (m : Method) : Scoped String := do
  let generics ← genericsText m.typeParams
  let params ← paramsText m.params
  return generics ++ "(" ++ params ++ ") => " ++ (← typeText m.returnType)

end Scoped

open Scoped

/-! ### Declarations -/

/-- The method that makes a functional interface a function type: its first member, unless that is
static. -/
def Definition.functionMethod? (d : Definition) : Option Method :=
  match d.kind, d.members with
  | .functionalInterface, .method m :: _ => if m.isStatic then none else some m
  | _, _ => none

/-- The types inherited from, without the root of all types. -/
def properParents (ts : List TypeExpr) : List TypeExpr :=
  ts.filter (· ≠ .object)

namespace Declaration

/-- Whether the definition is declared as an interface, which has neither static members nor
constructors. -/
def isInterface (s : Settings) (d : Definition) : Bool :=
  !s.usesAccessors && (d.kind = .interface || d.kind = .functionalInterface)

/-- Whether the member can be declared in an interface. -/
def isInterfaceMember : Member → Bool
  | .method m => !m.isStatic && m.kind ≠ .constructor
  | m => !m.isStatic

/-- How the definition of this name is declared, and what it inherits from. A class with accessors
extends its first parent only. -/
def heading (s : Settings) (d : Definition) (name : String) : Scoped String := do
  let parents := properParents d.parents
  if s.usesAccessors then
    return "export class " ++ name ++ (← heritageClause "extends" (parents.take 1))
  else if isInterface s d then
    return "export interface " ++ name ++ (← heritageClause "extends" parents)
  else
    let extended ← heritageClause "extends" (properParents d.superTypes)
    let implemented ← heritageClause "implements" d.interfaces
    return "export class " ++ name ++ extended ++ implemented

/-- The members in the body of the declaration. -/
def members (c : Catalogue) (s : Settings) (d : Definition) : List Member :=
  let all := d.cleanMembers c s.excluded
  if isInterface s d then all.filter isInterfaceMember else all

/-- The names of the properties that can be written. -/
def setterNames (ms : List Member) : List String :=
  (ms.filterMap Member.method?).filterMap fun m => if m.kind = .setter then some m.name else none

/-- What every iterable type declares as well. -/
def iteratorMember : String :=
  "[Symbol.iterator](): globalThis.Iterator<T>;"

/-- The lines of a class or an interface, given its heading. -/
def bodyLines (s : Settings) (heading : String) (isIterable : Bool) (ms : List Member) :
    Scoped (List String) :=
  if ms.isEmpty && !isIterable then pure [indent 1 (heading ++ " \x7b\x7d")]
  else do
    let lines ← ms.mapM (memberLines s (setterNames ms))
    let iterator := if isIterable then [indent 2 iteratorMember] else []
    return indent 1 (heading ++ " \x7b") :: iterator ++ lines.flatten ++ [indent 1 "\x7d"]

/-- The interface that adds to a class what it cannot extend. -/
def mergedLines (s : Settings) (d : Definition) (name : String) : Scoped (List String) := do
  let parents := properParents d.parents
  -- The parent that the class extends stays among them; lists do not.
  let merged := parents.filter (·.baseType ≠ .list)
  if s.usesAccessors && 1 < parents.length && !merged.isEmpty then
    let texts ← typeTexts merged
    return [indent 1 ("export interface " ++ name ++ " extends " ++ ", ".intercalate texts
      ++ " \x7b\x7d")]
  else return []

/-- The lines of a declaration. -/
def lines (c : Catalogue) (s : Settings) (d : Definition) : Scoped (List String) := do
  let name ← declaredName d
  match d.functionMethod? with
  | some m =>
    let function ← functionText m
    return docLines 1 d.doc ++ [indent 1 ("export type " ++ name ++ " = " ++ function ++ ";")]
  | none =>
    let heading ← heading s d name
    let body ← bodyLines s heading (d.name = TypeExpr.iterableName) (members c s d)
    let merged ← mergedLines s d name
    return docLines 1 d.doc ++ body ++ merged

end Declaration

/-! ### Modules -/

/-- The lines of several declarations, with an empty line between them. -/
def declarationLines (c : Catalogue) (s : Settings) (ds : List Definition) :
    Scoped (List String) := do
  let blocks ← ds.mapM (Declaration.lines c s)
  return [""].intercalate blocks

/-- Lines, each ended. -/
def unlines (lines : List String) : String :=
  String.join (lines.map (· ++ "\n"))

/-- A module with the declarations of some definitions. -/
def moduleText (c : Catalogue) (s : Settings) (module : String) (ds : List Definition) : String :=
  -- A name that is declared here can not be imported from elsewhere.
  let scope : Scope := { module, taken := ds.map Definition.simpleName }
  let (body, scope) := (declarationLines c s ds).run scope
  let imports := scope.importLines.map (indent 1)
  let imports := if imports.isEmpty then [] else imports ++ [""]
  unlines (("declare module '" ++ module ++ "' \x7b") :: imports ++ body ++ ["\x7d"])

end Ambient

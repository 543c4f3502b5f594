/-
Types as they are written in declarations.

* `Scoped.typeText` — a type where it is used;
* `Scoped.heritageText` — a type that is inherited from, where a list is spelled out as an array;
* `Scoped.genericsText` — declared type parameters with their bounds;
* `Scoped.paramsText` — a list of parameters.

Each use of a name goes through the scope of the module.
-/
import Ambient.Declaration.Scope
import Ambient.Definition.Basic

namespace Ambient.Scoped

mutual

/-- A type where it is used. A list type is the array of its one argument, or of anything. -/
def typeText : TypeExpr → Scoped String
  | .simple name =>
    match TypeExpr.targetNames.lookup name with
    | some target => pure target
    | none => localName name
  | .generic base args =>
    -- The name of the list type itself is not used, so nothing is imported for it.
    if base.baseType = .list then
      if args.length = 1 then do return ", ".intercalate (← typeTexts args) ++ "[]"
      else pure "any[]"
    else do
      let base ← typeText base
      return base ++ "<" ++ ", ".intercalate (← typeTexts args) ++ ">"
  | .array component n => do return (← typeText component) ++ TypeExpr.brackets n
  | .wildcard bound => typeText bound
  | .nullable inner => typeText inner

/-- Several types, from left to right. -/
def typeTexts : List TypeExpr → Scoped (List String)
  | [] => pure []
  | t :: ts => do
    let text ← typeText t
    return text :: (← typeTexts ts)

end

/-- A type that is inherited from. -/
def heritageText (t : TypeExpr) : Scoped String :=
  if t.baseType = .list then
    match t.args with
    | [element] => do return "Array<" ++ (← typeText element) ++ ">"
    | _ => pure "Array<any>"
  else typeText t

/-- Types that are inherited from, after a word, or nothing if there are none. -/
def heritageClause (word : String) (ts : List TypeExpr) : Scoped String :=
  if ts.isEmpty then pure ""
  else do return " " ++ word ++ " " ++ ", ".intercalate (← ts.mapM heritageText)

/-- A declared type parameter. -/
def genericText : TypeExpr → Scoped String
  | .generic base bounds => do
    return base.name ++ " extends " ++ " & ".intercalate (← typeTexts bounds)
  | t => pure t.name

/-- Declared type parameters between angle brackets, or nothing if there are none. -/
def genericsText (ts : List TypeExpr) : Scoped String :=
  if ts.isEmpty then pure ""
  else do return "<" ++ ", ".intercalate (← ts.mapM genericText) ++ ">"

/-- A parameter with its type. -/
def paramText (p : Parameter) : Scoped String := do
  return (if p.variadic then "..." else "") ++ parameterName p.name ++ ": " ++ (← typeText p.type)

/-- A list of parameters. -/
def paramsText (ps : List Parameter) : Scoped String := do
  return ", ".intercalate (← ps.mapM paramText)

end Ambient.Scoped

/-
The texts a type expression is known by.

* `name` — the qualified name under which the type is looked up;
* `display` — the expression written out in full, for people;
* `targetName?` — what a builtin type is called in the declarations;
* `erasure` — what the whole expression becomes in the declarations, with qualified names. Types
  that the declarations cannot tell apart, such as `int` and `long`, have one erasure.
-/
import Ambient.QualifiedName
import Ambient.TypeExpr.Basic

namespace Ambient.TypeExpr

/-- One pair of brackets for each dimension. -/
def brackets (dimensions : Nat) : String :=
  String.join (List.replicate dimensions "[]")

/-- The qualified name of the type, without arguments. A wildcard has none and is `*`. -/
def name : TypeExpr → String
  | .simple name => name
  | .generic base _ => base.name
  | .array component n => component.name ++ brackets n
  | .wildcard _ => "*"
  | .nullable inner => inner.name

/-- The last segment of the type's name. -/
def simpleName (t : TypeExpr) : String :=
  QualifiedName.simple t.name

mutual

/-- The expression written out. Optional types are written by name. -/
def display : TypeExpr → String
  | .simple name => name
  | .generic base args => base.display ++ "<" ++ ", ".intercalate (displayAll args) ++ ">"
  | .array component n => component.display ++ brackets n
  | .wildcard bound => "? extends " ++ bound.display
  | .nullable inner => inner.name

/-- Several expressions written out. -/
def displayAll : List TypeExpr → List String
  | [] => []
  | t :: ts => t.display :: displayAll ts

end

/-- What a primitive or builtin name is called in the declarations. -/
def targetNames : List (String × String) :=
  [("void", "void"), ("boolean", "boolean"), ("byte", "number"), ("short", "number"),
   ("int", "number"), ("long", "number"), ("float", "number"), ("double", "number"),
   ("char", "string"), ("java.lang.String", "string"), ("java.lang.Object", "any"),
   ("java.util.List", "any[]")]

/-- The target's own name for the type, if it has one. -/
def targetName? : TypeExpr → Option String
  | .simple name => targetNames.lookup name
  | _ => none

mutual

/-- The type that the declarations put in this one's place, with qualified names. A list type with
one argument is an array there. -/
def erasure : TypeExpr → String
  | .simple name => (targetNames.lookup name).getD name
  | .generic base args =>
    match decide (base.baseType = list), erasureAll args with
    | true, [element] => element ++ "[]"
    | _, erased => base.erasure ++ "<" ++ ", ".intercalate erased ++ ">"
  | .array component n => component.erasure ++ brackets n
  | .wildcard bound => bound.erasure
  | .nullable inner => inner.erasure

/-- The erasures of several expressions. -/
def erasureAll : List TypeExpr → List String
  | [] => []
  | t :: ts => t.erasure :: erasureAll ts

end

end Ambient.TypeExpr

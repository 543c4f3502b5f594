/-
The modules that declarations are put into.

* `Definition.moduleName` — what a definition is declared in: the scope of its name, or a module of
  its own kind for names without one;
* `Definition.declared` — the definitions that one stands for: itself and those nested in it, but
  nothing of a builtin type;
* `modulesOf` — all declared definitions by module.
-/
import Ambient.Definition.Basic
import Ambient.Grouping

namespace Ambient

/-- The module of names without a scope. -/
def defaultModule : String := "default"

/-- The module a definition is declared in. -/
def Definition.moduleName (d : Definition) : String :=
  match QualifiedName.scope d.name with
  | "" => defaultModule
  | scope => scope

namespace Definition

mutual

/-- The definition and all that are nested in it, each before the ones inside it. A builtin type is
left out with everything inside. -/
def declared : Definition → List Definition
  | ⟨kind, type, superTypes, interfaces, members, doc, isPublic, isStatic⟩ =>
    if type.isBuiltin then []
    else
      ⟨kind, type, superTypes, interfaces, members, doc, isPublic, isStatic⟩
        :: declaredAmong members

/-- The declared definitions among the members. -/
def declaredAmong : List Member → List Definition
  | [] => []
  | .nested d :: members => d.declared ++ declaredAmong members
  | .method _ :: members => declaredAmong members
  | .field _ :: members => declaredAmong members

end

/-- A definition that is not builtin is declared, before those among its members. -/
theorem declared_eq (d : Definition) :
    d.declared = if d.type.isBuiltin then [] else d :: declaredAmong d.members := by
  cases d
  rfl

end Definition

/-- The declared definitions by module, the modules in the order of their first definition. -/
def modulesOf (ds : List Definition) : List (String × List Definition) :=
  Grouping.groupBy Definition.moduleName (ds.flatMap Definition.declared)

end Ambient

/-
Names in the scope of a module.

* `Scope` — the module, the names taken in it and the names it imports;
* `Scope.localName` — the name under which a qualified name is known in the module; the first use of
  a name from another module imports it, under an alias if its simple name is taken;
* `Scope.importLines` — the import statements, one for each module that something comes from;
* `parameterName` — a parameter's name, altered if it is a reserved word.
-/
import Ambient.Grouping
import Ambient.QualifiedName

namespace Ambient

/-- The names of a module. -/
structure Scope where
  module : String
  /-- The simple names that stand for something already. -/
  taken : List String := []
  /-- Imported names with the names they have here, in the order of their first use. -/
  imports : List (String × String) := []
  deriving DecidableEq, Repr

namespace Scope

/-- The name an import gets if its simple name is taken. -/
def aliasOf (qualified : String) : String :=
  let path := (QualifiedName.scope qualified).map fun c => if c = '.' then '_' else c
  path ++ "_" ++ QualifiedName.simple qualified

/-- The name a new import gets. -/
def importName (s : Scope) (qualified : String) : String :=
  let simple := QualifiedName.simple qualified
  if simple ∈ s.taken then aliasOf qualified else simple

/-- The name of a qualified name in the scope, and the scope with it. Names without a dot need no
import, nor do those of the module itself. -/
def bind (s : Scope) (qualified : String) : String × Scope :=
  if QualifiedName.scope qualified = "" then (qualified, s)
  else if QualifiedName.scope qualified = s.module then (QualifiedName.simple qualified, s)
  else
    match s.imports.lookup qualified with
    | some name => (name, s)
    | none =>
      let name := s.importName qualified
      (name, { s with taken := name :: s.taken, imports := s.imports ++ [(qualified, name)] })

/-- What an import statement says of one name. -/
def specifier (entry : String × String) : String :=
  let simple := QualifiedName.simple entry.1
  if simple = entry.2 then simple else simple ++ " as " ++ entry.2

/-- The import statements, in the order in which their modules were first used. -/
def importLines (s : Scope) : List String :=
  (Grouping.groupBy (fun entry => QualifiedName.scope entry.1) s.imports).map
    fun (module, entries) =>
      "import \x7b " ++ ", ".intercalate (entries.map specifier) ++ " \x7d from '" ++ module ++ "';"

end Scope

/-- What needs the names of a module, and may import some. -/
abbrev Scoped := StateM Scope

/-- The name of a qualified name in the module. -/
def Scoped.localName (qualified : String) : Scoped String :=
  fun s => s.bind qualified

/-- The words that cannot name a parameter. -/
def reservedWords : List String :=
  ["arguments", "break", "case", "catch", "class", "const", "continue", "debugger", "default",
   "delete", "do", "else", "enum", "eval", "export", "extends", "false", "finally", "for",
   "function", "if", "implements", "import", "in", "instanceof", "interface", "let", "new", "null",
   "package", "private", "protected", "public", "return", "static", "super", "switch", "this",
   "throw", "true", "try", "typeof", "var", "void", "while", "with", "yield"]

/-- A name for a parameter: reserved words end in an underscore. -/
def parameterName (name : String) : String :=
  if name ∈ reservedWords then name ++ "_" else name

end Ambient

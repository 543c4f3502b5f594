/-
Type expressions, as they stand in signatures and in heritage clauses.

* `TypeExpr` — a name, a generic instantiation, an array, a bounded wildcard or an optional value;
* `named`, `instantiate`, `arrayOf`, `optional` — the constructors that keep the normal form:
  boxed primitives become primitives, empty argument lists vanish, arrays of arrays are one array
  and an optional value is optional once;
* `mentions` — every expression inside an expression, outermost first.
-/

namespace Ambient

/-- A type expression. -/
inductive TypeExpr where
  /-- A type without arguments: qualified, or a type variable. -/
  | simple (name : String)
  /-- A generic type applied to arguments. -/
  | generic (base : TypeExpr) (args : List TypeExpr)
  /-- An array with so many dimensions. -/
  | array (component : TypeExpr) (dimensions : Nat)
  /-- Any type below the bound. -/
  | wildcard (bound : TypeExpr)
  /-- A value of the inner type, or none. -/
  | nullable (inner : TypeExpr)
  deriving Repr, Inhabited

namespace TypeExpr

mutual

private def decEq : (a b : TypeExpr) → Decidable (a = b)
  | .simple a, .simple b => if h : a = b then .isTrue (h ▸ rfl) else .isFalse (by simp [h])
  | .generic b as, .generic c bs =>
    match decEq b c, decEqAll as bs with
    | .isTrue h, .isTrue h' => .isTrue (h ▸ h' ▸ rfl)
    | .isFalse h, _ => .isFalse (by simp [h])
    | _, .isFalse h => .isFalse (by simp [h])
  | .array a m, .array b n =>
    match decEq a b with
    | .isTrue h => if h' : m = n then .isTrue (h ▸ h' ▸ rfl) else .isFalse (by simp [h'])
    | .isFalse h => .isFalse (by simp [h])
  | .wildcard a, .wildcard b =>
    match decEq a b with
    | .isTrue h => .isTrue (h ▸ rfl)
    | .isFalse h => .isFalse (by simp [h])
  | .nullable a, .nullable b =>
    match decEq a b with
    | .isTrue h => .isTrue (h ▸ rfl)
    | .isFalse h => .isFalse (by simp [h])
  | .simple _, .generic .. | .simple _, .array .. | .simple _, .wildcard _
  | .simple _, .nullable _ | .generic .., .simple _ | .generic .., .array ..
  | .generic .., .wildcard _ | .generic .., .nullable _ | .array .., .simple _
  | .array .., .generic .. | .array .., .wildcard _ | .array .., .nullable _
  | .wildcard _, .simple _ | .wildcard _, .generic .. | .wildcard _, .array ..
  | .wildcard _, .nullable _ | .nullable _, .simple _ | .nullable _, .generic ..
  | .nullable _, .array .. | .nullable _, .wildcard _ => .isFalse nofun

private def decEqAll : (as bs : List TypeExpr) → Decidable (as = bs)
  | [], [] => .isTrue rfl
  | a :: as, b :: bs =>
    match decEq a b, decEqAll as bs with
    | .isTrue h, .isTrue h' => .isTrue (h ▸ h' ▸ rfl)
    | .isFalse h, _ => .isFalse (by simp [h])
    | _, .isFalse h => .isFalse (by simp [h])
  | [], _ :: _ | _ :: _, [] => .isFalse nofun

end

instance : DecidableEq TypeExpr := decEq

/-! ### Names with a meaning of their own -/

/-- The classes that stand for a primitive type. -/
def boxes : List (String × String) :=
  [("java.lang.Boolean", "boolean"), ("java.lang.Byte", "byte"), ("java.lang.Short", "short"),
   ("java.lang.Character", "char"), ("java.lang.Integer", "int"), ("java.lang.Long", "long"),
   ("java.lang.Float", "float"), ("java.lang.Double", "double")]

/-- The name a type is known by: that of the primitive for a boxed primitive, else its own. -/
def canonicalName (name : String) : String :=
  (boxes.lookup name).getD name

/-- The type with this name. -/
def named (name : String) : TypeExpr :=
  .simple (canonicalName name)

/-- The type of a method that gives nothing back. -/
def void : TypeExpr := .simple "void"

/-- The type above all others. -/
def object : TypeExpr := .simple "java.lang.Object"

/-- The type of texts. -/
def string : TypeExpr := .simple "java.lang.String"

/-- The type of lists. -/
def list : TypeExpr := .simple "java.util.List"

/-- The root of the iterable types, whose declaration gets an iterator. -/
def iterableName : String := "java.lang.Iterable"

/-- The types that have no declaration of their own. -/
def builtins : List TypeExpr :=
  [.simple "boolean", .simple "byte", .simple "short", .simple "char", .simple "int",
   .simple "long", .simple "float", .simple "double", string, object, list]

/-- Canonical names stay as they are. -/
theorem canonicalName_idem (name : String) :
    canonicalName (canonicalName name) = canonicalName name := by
  unfold canonicalName
  cases h : boxes.lookup name with
  | none => simp [h]
  | some p =>
    have hp : p ∈ boxes.map Prod.snd := by
      obtain ⟨l, r, he, -⟩ := List.lookup_eq_some_iff.mp h
      simp [he]
    have all : ∀ q ∈ boxes.map Prod.snd, boxes.lookup q = none := by decide
    simp [all p hp]

/-! ### Constructors -/

/-- The most dimensions an array has: as many as 32 bits count. -/
def maxDimensions : Nat := 4294967295

/-- The base type applied to arguments, or the base type alone if there are none. -/
def instantiate (base : TypeExpr) (args : List TypeExpr) : TypeExpr :=
  if args.isEmpty then base else .generic base args

/-- An array of the component. It has at least one dimension, and an array of arrays has the
dimensions of both, as far as they can be counted. -/
def arrayOf (component : TypeExpr) (dimensions : Nat) : TypeExpr :=
  match component with
  | .array inner n => .array inner (min (n + max dimensions 1) maxDimensions)
  | component => .array component (max dimensions 1)

/-- The optional form of a type; an optional type is its own. -/
def optional : TypeExpr → TypeExpr
  | .nullable inner => .nullable inner
  | inner => .nullable inner

/-! ### Parts -/

/-- The innermost type that is neither generic, an array nor optional. -/
def baseType : TypeExpr → TypeExpr
  | .simple name => .simple name
  | .wildcard bound => .wildcard bound
  | .generic base _ => base.baseType
  | .array component _ => component.baseType
  | .nullable inner => inner.baseType

/-- The dimensions of an array, zero for any other type. -/
def dimensions : TypeExpr → Nat
  | .array _ n => n
  | .nullable inner => inner.dimensions
  | _ => 0

/-- The arguments of a generic type. -/
def args : TypeExpr → List TypeExpr
  | .generic _ args => args
  | .nullable inner => inner.args
  | _ => []

/-- Whether the type has no declaration of its own. -/
def isBuiltin (t : TypeExpr) : Bool :=
  builtins.contains t.baseType

mutual

/-- The expression and all those inside it, outermost first. An optional type is passed over in
favour of its inner type. -/
def mentions : TypeExpr → List TypeExpr
  | .simple name => [.simple name]
  | .generic base args => .generic base args :: (base.mentions ++ mentionsAll args)
  | .array component n => .array component n :: component.mentions
  | .wildcard bound => .wildcard bound :: bound.mentions
  | .nullable inner => inner.mentions

/-- What a list of expressions mentions, one after the other. -/
def mentionsAll : List TypeExpr → List TypeExpr
  | [] => []
  | t :: ts => t.mentions ++ mentionsAll ts

end

theorem mentionsAll_eq_flatMap (ts : List TypeExpr) : mentionsAll ts = ts.flatMap mentions := by
  induction ts with
  | nil => rfl
  | cons t ts ih => simp [mentionsAll, ih]

end TypeExpr

end Ambient

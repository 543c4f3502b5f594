/-
Types without optional types in them.

Declarations do not show whether a value may be absent.  Here a type expression is
taken without all that says so, and every text and name that is made of the one is
made of the other.

* `TypeExpr.definite` — a type expression with each optional type replaced by its
  inner type, arrays of arrays being one array again;
* `TypeExpr.definiteInside` — the same below an optional type that is the whole
  expression, as it stands in heritage clauses;
* `TypeExpr.definiteArgs` — the type of a definition with its declared parameters
  made definite;
* `name_definite`, `erasure_definite`, `Scoped.typeText_definite` — names,
  erasures and texts stay;
* `definite_arrayOf` — an array of a type, as far as its dimensions can be counted.
-/
import Ambient.Declaration.Types
import Ambient.Hierarchy.Ancestors

namespace Ambient

namespace TypeExpr

/-! ### Definite types -/

/-- An array with so many dimensions more. -/
def widened : TypeExpr → Nat → TypeExpr
  | .array inner m, n => .array inner (m + n)
  | component, n => .array component n

mutual

/-- The type without optional types in it. -/
def definite : TypeExpr → TypeExpr
  | .simple n => .simple n
  | .generic base args => .generic base.definite (definiteAll args)
  | .array component n => component.definite.widened n
  | .wildcard bound => .wildcard bound.definite
  | .nullable inner => inner.definite

/-- Several types without optional types in them. -/
def definiteAll : List TypeExpr → List TypeExpr
  | [] => []
  | t :: ts => t.definite :: definiteAll ts

end

theorem definiteAll_eq_map (ts : List TypeExpr) : definiteAll ts = ts.map definite := by
  induction ts with
  | nil => rfl
  | cons t ts ih => rw [definiteAll, ih, List.map_cons]

/-- The type without optional types in it, unless it is one as a whole. -/
def definiteInside : TypeExpr → TypeExpr
  | .nullable inner => .nullable inner.definite
  | t => t.definite

/-- A type with its declared parameters made definite. -/
def definiteArgs : TypeExpr → TypeExpr
  | .generic base args => .generic base (args.map definiteInside)
  | .nullable inner => .nullable inner.definiteArgs
  | t => t

/-! ### Arrays -/

theorem brackets_add (m n : Nat) : brackets (m + n) = brackets m ++ brackets n := by
  rw [brackets, ← List.replicate_append_replicate, String.join_append]
  rfl

theorem widened_widened (t : TypeExpr) (m n : Nat) :
    (t.widened m).widened n = t.widened (m + n) := by
  cases t <;> simp [widened, Nat.add_assoc]

theorem le_dimensions_widened (t : TypeExpr) (n : Nat) : n ≤ (t.widened n).dimensions := by
  cases t <;> simp [widened, dimensions]

@[simp]
theorem baseType_widened (t : TypeExpr) (n : Nat) : (t.widened n).baseType = t.baseType := by
  cases t <;> rfl

@[simp]
theorem args_widened (t : TypeExpr) (n : Nat) : (t.widened n).args = [] := by
  cases t <;> rfl

theorem widened_ne_simple (t : TypeExpr) (n : Nat) (m : String) : t.widened n ≠ .simple m := by
  cases t <;> simp [widened]

theorem name_widened (t : TypeExpr) (n : Nat) : (t.widened n).name = t.name ++ brackets n := by
  cases t with
  | array inner m => rw [widened, name, name, brackets_add, String.append_assoc]
  | _ => rfl

theorem erasure_widened (t : TypeExpr) (n : Nat) :
    (t.widened n).erasure = t.erasure ++ brackets n := by
  cases t with
  | array inner m => rw [widened, erasure, erasure, brackets_add, String.append_assoc]
  | _ => rfl

theorem definite_widened (t : TypeExpr) (n : Nat) :
    (t.widened n).definite = t.definite.widened n := by
  cases t with
  | array inner m => rw [widened, definite, definite, widened_widened]
  | _ => rfl

theorem dimensions_le_definite : (t : TypeExpr) → t.dimensions ≤ t.definite.dimensions
  | .array component n => le_dimensions_widened component.definite n
  | .nullable inner => inner.dimensions_le_definite
  | .simple _ | .generic _ _ | .wildcard _ => Nat.zero_le _

/-- As far as the dimensions can be counted, they are added. -/
theorem arrayOf_eq_widened {t : TypeExpr} {n : Nat}
    (h : t.dimensions + max n 1 ≤ maxDimensions) : t.arrayOf n = t.widened (max n 1) := by
  cases t with
  | array inner m => exact congrArg _ (Nat.min_eq_left h)
  | _ => rfl

theorem definite_arrayOf {t : TypeExpr} {n : Nat}
    (h : t.definite.dimensions + max n 1 ≤ maxDimensions) :
    (t.arrayOf n).definite = t.definite.arrayOf n := by
  have := t.dimensions_le_definite
  rw [arrayOf_eq_widened h, arrayOf_eq_widened (by omega), definite_widened]

theorem dimensions_arrayOf_le (t : TypeExpr) (n : Nat) :
    (t.arrayOf n).dimensions ≤ t.dimensions + max n 1 := by
  cases t with
  | array inner m => exact Nat.min_le_left _ _
  | _ => exact Nat.le_add_left _ _

/-! ### Optional types -/

theorem definite_ne_nullable : (t : TypeExpr) → ∀ inner, t.definite ≠ .nullable inner
  | .simple _, _ => nofun
  | .generic _ _, _ => nofun
  | .array component n, inner => by
    rw [definite]
    cases component.definite <;> simp [widened]
  | .wildcard _, _ => nofun
  | .nullable inner, other => inner.definite_ne_nullable other

theorem definite_optional (t : TypeExpr) : t.optional.definite = t.definite := by
  cases t <;> rfl

theorem optional_definite (t : TypeExpr) : t.definite.optional = .nullable t.definite := by
  have h := t.definite_ne_nullable
  cases hd : t.definite with
  | nullable inner => exact absurd hd (h inner)
  | _ => rfl

theorem definiteInside_optional (t : TypeExpr) :
    t.optional.definiteInside = .nullable t.definite := by
  cases t <;> rfl

theorem definiteInside_of_ne {t : TypeExpr} (h : ∀ inner, t ≠ .nullable inner) :
    t.definiteInside = t.definite := by
  cases t with
  | nullable inner => exact absurd rfl (h inner)
  | _ => rfl

theorem definiteArgs_instantiate (n : String) (args : List TypeExpr) :
    (instantiate (named n) args).definiteArgs =
      instantiate (named n) (args.map definiteInside) := by
  cases args <;> rfl

/-! ### Names -/

@[simp]
theorem name_definite : (t : TypeExpr) → t.definite.name = t.name
  | .simple n => rfl
  | .generic base args => base.name_definite
  | .array component n => by rw [definite, name_widened, component.name_definite, name]
  | .wildcard bound => rfl
  | .nullable inner => inner.name_definite

@[simp]
theorem baseType_definite_iff {n : String} :
    (t : TypeExpr) → (t.definite.baseType = .simple n ↔ t.baseType = .simple n)
  | .simple m => Iff.rfl
  | .generic base args => base.baseType_definite_iff
  | .array component k => by
    rw [definite, baseType_widened, component.baseType_definite_iff, baseType]
  | .wildcard bound => by simp [definite, baseType]
  | .nullable inner => inner.baseType_definite_iff

theorem args_definite : (t : TypeExpr) → t.definite.args = t.args.map definite
  | .generic _ args => definiteAll_eq_map args
  | .array component n => args_widened component.definite n
  | .nullable inner => inner.args_definite
  | .simple _ | .wildcard _ => rfl

mutual

@[simp]
theorem erasure_definite : (t : TypeExpr) → t.definite.erasure = t.erasure
  | .simple n => rfl
  | .generic base args => by
    -- Lists have an erasure of their own; what is a list is told from the base type.
    have hlist : decide (base.definite.baseType = list) = decide (base.baseType = list) :=
      decide_eq_decide.mpr base.baseType_definite_iff
    rw [definite, erasure, hlist, erasureAll_definite args, erasure_definite base, erasure]
  | .array component n => by
    rw [definite, erasure_widened, erasure_definite component, erasure]
  | .wildcard bound => by rw [definite, erasure, erasure_definite bound, erasure]
  | .nullable inner => by rw [definite, erasure_definite inner, erasure]

theorem erasureAll_definite : (ts : List TypeExpr) → erasureAll (definiteAll ts) = erasureAll ts
  | [] => rfl
  | t :: ts => by
    rw [definiteAll, erasureAll, erasure_definite t, erasureAll_definite ts, erasureAll]

end

/-! ### Names that are mentioned -/

open Catalogue (simpleNames)

theorem simpleNames_append (as bs : List TypeExpr) :
    simpleNames (as ++ bs) = simpleNames as ++ simpleNames bs :=
  List.filterMap_append

theorem simpleNames_flatMap {α : Type} (as : List α) (f : α → List TypeExpr) :
    simpleNames (as.flatMap f) = as.flatMap fun a => simpleNames (f a) :=
  List.filterMap_flatMap

theorem simpleNames_widened (t : TypeExpr) (n : Nat) :
    simpleNames (t.widened n).mentions = simpleNames t.mentions := by
  cases t <;> rfl

mutual

@[simp]
theorem simpleNames_definite :
    (t : TypeExpr) → simpleNames t.definite.mentions = simpleNames t.mentions
  | .simple n => rfl
  | .generic base args => by
    show simpleNames (base.definite.mentions ++ mentionsAll (definiteAll args)) =
      simpleNames (base.mentions ++ mentionsAll args)
    rw [simpleNames_append, simpleNames_definite base, simpleNames_definiteAll args,
      simpleNames_append]
  | .array component n => by
    rw [definite, simpleNames_widened, simpleNames_definite component]
    rfl
  | .wildcard bound => simpleNames_definite bound
  | .nullable inner => simpleNames_definite inner

theorem simpleNames_definiteAll :
    (ts : List TypeExpr) → simpleNames (mentionsAll (definiteAll ts)) =
      simpleNames (mentionsAll ts)
  | [] => rfl
  | t :: ts => by
    rw [definiteAll, mentionsAll, simpleNames_append, simpleNames_definite t,
      simpleNames_definiteAll ts, mentionsAll, simpleNames_append]

end

/-! ### Outermost optional types -/

@[simp]
theorem name_definiteInside (t : TypeExpr) : t.definiteInside.name = t.name := by
  cases t <;> simp [definiteInside, name]

@[simp]
theorem baseType_definiteInside_iff {n : String} {t : TypeExpr} :
    t.definiteInside.baseType = .simple n ↔ t.baseType = .simple n := by
  cases t <;> simp [definiteInside, baseType]

@[simp]
theorem simpleNames_definiteInside (t : TypeExpr) :
    simpleNames t.definiteInside.mentions = simpleNames t.mentions := by
  cases t <;> simp [definiteInside, mentions]

theorem args_definiteInside (t : TypeExpr) : t.definiteInside.args = t.args.map definite := by
  cases t with
  | nullable inner => exact inner.args_definite
  | _ => exact args_definite _

theorem definiteInside_eq_simple_iff {n : String} {t : TypeExpr} :
    t.definiteInside = .simple n ↔ t = .simple n := by
  cases t <;> simp [definiteInside, definite, widened_ne_simple]

/-! ### Declared parameters -/

theorem args_definiteArgs : (t : TypeExpr) → t.definiteArgs.args = t.args.map definiteInside
  | .generic _ _ => rfl
  | .nullable inner => inner.args_definiteArgs
  | .simple _ | .array _ _ | .wildcard _ => rfl

@[simp]
theorem name_definiteArgs : (t : TypeExpr) → t.definiteArgs.name = t.name
  | .nullable inner => inner.name_definiteArgs
  | .simple _ | .generic _ _ | .array _ _ | .wildcard _ => rfl

theorem baseType_definiteArgs : (t : TypeExpr) → t.definiteArgs.baseType = t.baseType
  | .nullable inner => inner.baseType_definiteArgs
  | .simple _ | .generic _ _ | .array _ _ | .wildcard _ => rfl

@[simp]
theorem isBuiltin_definiteArgs (t : TypeExpr) : t.definiteArgs.isBuiltin = t.isBuiltin :=
  congrArg builtins.contains t.baseType_definiteArgs

@[simp]
theorem simpleNames_definiteArgs :
    (t : TypeExpr) → simpleNames t.definiteArgs.mentions = simpleNames t.mentions
  | .generic base args => by
    show simpleNames (base.mentions ++ mentionsAll (args.map definiteInside)) =
      simpleNames (base.mentions ++ mentionsAll args)
    simp only [mentionsAll_eq_flatMap, simpleNames_append, simpleNames_flatMap, List.flatMap_map,
      simpleNames_definiteInside]
  | .nullable inner => inner.simpleNames_definiteArgs
  | .simple _ | .array _ _ | .wildcard _ => rfl

end TypeExpr

/-! ### Texts -/

namespace Scoped

open TypeExpr

theorem typeText_widened (t : TypeExpr) (n : Nat) :
    typeText (t.widened n) = do return (← typeText t) ++ brackets n := by
  cases t with
  | array inner m => simp [widened, typeText, brackets_add, String.append_assoc]
  | _ => rfl

mutual

@[simp]
theorem typeText_definite : (t : TypeExpr) → typeText t.definite = typeText t
  | .simple n => rfl
  | .generic base args => by
    have hlist : base.definite.baseType = .list ↔ base.baseType = .list :=
      base.baseType_definite_iff
    have hlength : (definiteAll args).length = args.length := by
      rw [definiteAll_eq_map, List.length_map]
    rw [definite, typeText, typeText_definite base, typeTexts_definiteAll args, hlength, typeText]
    simp only [hlist]
  | .array component n => by
    rw [definite, typeText_widened, typeText_definite component, typeText]
  | .wildcard bound => by rw [definite, typeText, typeText_definite bound, typeText]
  | .nullable inner => by rw [definite, typeText_definite inner, typeText]

theorem typeTexts_definiteAll :
    (ts : List TypeExpr) → typeTexts (definiteAll ts) = typeTexts ts
  | [] => rfl
  | t :: ts => by
    rw [definiteAll, typeTexts, typeText_definite t, typeTexts_definiteAll ts, typeTexts]

end

@[simp]
theorem typeText_definiteInside (t : TypeExpr) : typeText t.definiteInside = typeText t := by
  cases t with
  | nullable inner => rw [definiteInside, typeText, typeText_definite, typeText]
  | _ => exact typeText_definite _

theorem typeTexts_definiteInside (ts : List TypeExpr) :
    typeTexts (ts.map definiteInside) = typeTexts ts := by
  induction ts with
  | nil => rfl
  | cons t ts ih => rw [List.map_cons, typeTexts, typeText_definiteInside, ih, typeTexts]

@[simp]
theorem heritageText_definiteInside (t : TypeExpr) :
    heritageText t.definiteInside = heritageText t := by
  have hlist : t.definiteInside.baseType = .list ↔ t.baseType = .list :=
    baseType_definiteInside_iff
  rw [heritageText, args_definiteInside, typeText_definiteInside, heritageText]
  simp only [hlist]
  refine ite_congr rfl (fun _ => ?_) fun _ => rfl
  match t.args with
  | [] => rfl
  | [element] => simp
  | _ :: _ :: _ => rfl

/-- A declared parameter has bounds only if it is not optional itself. -/
@[simp]
theorem genericText_definiteInside (t : TypeExpr) :
    genericText t.definiteInside = genericText t := by
  cases t with
  | generic base bounds =>
    rw [definiteInside, definite, genericText, name_definite, typeTexts_definiteAll, genericText]
    · simp
  | array component n =>
    have hname : genericText (component.definite.widened n) =
        pure (component.definite.widened n).name := by
      cases component.definite <;> rfl
    rw [definiteInside, definite, hname, name_widened, name_definite]
    · rfl
    · simp
  | nullable inner =>
    show pure inner.definite.name = pure inner.name
    rw [name_definite]
  | _ => rfl

end Scoped

end Ambient

/-
Type expressions in normal form.

Each constructor looks one level down only: at the name, at the list of arguments, at
whether an array is made of an array or an optional value of an optional one.  This is
enough for an invariant of whole expressions:

* `TypeExpr.Normal` — the normal form, at every depth;
* `normal_named`, `Normal.instantiate`, `Normal.arrayOf`, `Normal.optional` — what each
  constructor keeps of it;
* `Record.TypeUse.normal_toTypeExpr` — resolved types become expressions in normal form;
* `Record.TypeUse.toTypeExpr_array` — arrays of arrays become one array, with the sum of
  all dimensions as far as it can be counted;
* `Record.normalForm_exact` — all of this.
-/
import Ambient.Record.Resolve

namespace Ambient

namespace TypeExpr

/-- Names are canonical, nothing is applied to no arguments, an array has a dimension and is
no array of arrays, and an optional value is optional once.  So is everything inside. -/
inductive Normal : TypeExpr → Prop
  | simple {name : String} (h : named name = .simple name) : Normal (.simple name)
  | generic {base : TypeExpr} {args : List TypeExpr} (hbase : Normal base) (hne : args ≠ [])
      (hargs : ∀ a ∈ args, Normal a) : Normal (.generic base args)
  | array {component : TypeExpr} {n : Nat} (h : Normal component)
      (hone : ∀ inner m, component ≠ .array inner m) (hn : 1 ≤ n) : Normal (.array component n)
  | wildcard {bound : TypeExpr} (h : Normal bound) : Normal (.wildcard bound)
  | nullable {inner : TypeExpr} (h : Normal inner) (hone : ∀ other, inner ≠ .nullable other) :
      Normal (.nullable inner)

/-! ### Constructors -/

theorem normal_named (name : String) : (named name).Normal :=
  .simple (congrArg simple (canonicalName_idem name))

theorem Normal.instantiate {base : TypeExpr} {args : List TypeExpr} (hbase : base.Normal)
    (hargs : ∀ a ∈ args, a.Normal) : (base.instantiate args).Normal := by
  rw [TypeExpr.instantiate]
  split
  · exact hbase
  next h => exact .generic hbase (by simpa using h) hargs

/-- An array of something else has the dimensions that are asked for, but at least one. -/
theorem arrayOf_of_ne {component : TypeExpr} (h : ∀ inner m, component ≠ .array inner m)
    (n : Nat) : component.arrayOf n = .array component (max n 1) := by
  cases component with
  | array inner m => exact absurd rfl (h inner m)
  | _ => rfl

/-- The optional form of what is not optional has one more level. -/
theorem optional_of_ne {inner : TypeExpr} (h : ∀ other, inner ≠ .nullable other) :
    inner.optional = .nullable inner := by
  cases inner with
  | nullable other => exact absurd rfl (h other)
  | _ => rfl

theorem Normal.arrayOf {component : TypeExpr} (h : component.Normal) (n : Nat) :
    (component.arrayOf n).Normal := by
  by_cases harray : ∃ inner m, component = .array inner m
  · -- The array takes the place of its component, whose own component is no array.
    obtain ⟨inner, m, rfl⟩ := harray
    obtain _ | _ | ⟨hinner, hone, hm⟩ := h
    exact .array hinner hone (Nat.le_min.mpr ⟨Nat.le_add_right_of_le hm, by decide⟩)
  · have hone : ∀ inner m, component ≠ .array inner m := fun inner m he => harray ⟨inner, m, he⟩
    rw [arrayOf_of_ne hone]
    exact .array h hone (Nat.le_max_right n 1)

theorem Normal.optional {inner : TypeExpr} (h : inner.Normal) : inner.optional.Normal := by
  by_cases hnullable : ∃ other, inner = .nullable other
  · obtain ⟨other, rfl⟩ := hnullable
    exact h
  · have hone : ∀ other, inner ≠ .nullable other := fun other he => hnullable ⟨other, he⟩
    rw [optional_of_ne hone]
    exact .nullable h hone

end TypeExpr

namespace Record

open TypeExpr (Normal named instantiate arrayOf optional maxDimensions)

/-! ### Resolved types -/

theorem Primitive.normal_simple (type : Primitive) : Normal (.simple type.name) := by
  cases type <;> exact .simple rfl

theorem normal_object : TypeExpr.object.Normal :=
  .simple rfl

namespace TypeUse

mutual

theorem normal_toTypeExpr : (u : TypeUse) → u.toTypeExpr.Normal
  | .primitive type => type.normal_simple
  | .reference name args => (TypeExpr.normal_named name).instantiate (normal_toTypeExprs args)
  | .array component n => component.normal_toTypeExpr.arrayOf n
  | .wildcard (some upper) none => .wildcard upper.normal_toTypeExpr
  | .wildcard (some _) (some _) => normal_object
  | .wildcard none _ => normal_object
  | .variable name => TypeExpr.normal_named name
  | .nullable inner => inner.normal_toTypeExpr.optional

theorem normal_toTypeExprs : (us : List TypeUse) → ∀ t ∈ toTypeExprs us, t.Normal
  | [], _, h => nomatch h
  | u :: us, t, h => by
    rcases List.mem_cons.mp h with rfl | h
    · exact u.normal_toTypeExpr
    · exact normal_toTypeExprs us t h

end

/-! ### Arrays of arrays -/

/-- What is left of an array of arrays without the arrays. -/
def core : TypeUse → TypeUse
  | .array component _ => component.core
  | u => u

/-- The dimensions that are declared for an array and for the arrays that it is an array of. -/
def counts : TypeUse → List Nat
  | .array component n => n :: component.counts
  | _ => []

/-- How many dimensions that makes: each array has at least one. -/
def totalCount (u : TypeUse) : Nat :=
  u.counts.foldr (fun n total => max n 1 + total) 0

/-- What is no array does not become one. -/
theorem toTypeExpr_ne_array {u : TypeUse} (h : ∀ component n, u ≠ .array component n)
    (inner : TypeExpr) (m : Nat) : u.toTypeExpr ≠ .array inner m := by
  intro he
  cases u with
  | primitive type => cases he
  | reference name args =>
    rw [toTypeExpr, TypeExpr.instantiate] at he
    split at he
    · cases he
    · cases he
  | array component n => exact h component n rfl
  | wildcard upper lower => cases upper <;> cases lower <;> cases he
  | «variable» name => cases he
  | nullable inner =>
    rw [toTypeExpr] at he
    cases hinner : inner.toTypeExpr <;> rw [hinner] at he <;> cases he

/-- An array of something else is all there is to it. -/
theorem toTypeExpr_array_of_ne {u : TypeUse} (h : ∀ component n, u ≠ .array component n) {n : Nat}
    (hn : n ≤ maxDimensions) :
    (array u n).toTypeExpr =
      .array u.core.toTypeExpr (min (array u n).totalCount maxDimensions) := by
  have hcore : u.core = u ∧ u.counts = [] := by
    cases u with
    | array component n => exact absurd rfl (h component n)
    | _ => exact ⟨rfl, rfl⟩
  have hmax : max n 1 ≤ maxDimensions := Nat.max_le.mpr ⟨hn, by decide⟩
  have htotal : (array u n).totalCount = max n 1 := by
    rw [totalCount, counts, hcore.2]
    rfl
  rw [toTypeExpr, TypeExpr.arrayOf_of_ne (toTypeExpr_ne_array h), hcore.1, htotal,
    Nat.min_eq_left hmax]

/-- **Arrays of arrays** become one array of what is left without them. -/
theorem toTypeExpr_array (u : TypeUse) (n : Nat)
    (h : ∀ m ∈ (array u n).counts, m ≤ maxDimensions) :
    (array u n).toTypeExpr =
      .array u.core.toTypeExpr (min (array u n).totalCount maxDimensions) := by
  obtain ⟨hn, hcounts⟩ := List.forall_mem_cons.mp h
  cases u with
  | array component m =>
    have hcomponent := toTypeExpr_array component m hcounts
    have htotal : (array (array component m) n).totalCount =
        max n 1 + (array component m).totalCount := rfl
    rw [toTypeExpr, hcomponent, htotal]
    -- What has been cut off at the greatest number stays cut off.
    exact congrArg (TypeExpr.array _) (by omega)
  | _ =>
    refine toTypeExpr_array_of_ne (fun component m he => ?_) hn
    cases he

end TypeUse

theorem TypeParam.normal_toTypeExpr (p : TypeParam) : p.toTypeExpr.Normal := by
  obtain ⟨name, bound⟩ := p
  cases bound with
  | none => exact TypeExpr.normal_named name
  | some bound =>
    refine (TypeExpr.normal_named name).instantiate fun t ht => ?_
    rw [List.mem_singleton.mp ht]
    exact bound.normal_toTypeExpr

/-- **Normal form**: resolved types and type parameters become expressions in normal form.
Arrays of arrays become one, whose dimensions are those of all of them as far as they can be
counted.  What the constructors make of expressions in normal form is in normal form. -/
theorem normalForm_exact :
    (∀ u : TypeUse, u.toTypeExpr.Normal) ∧ (∀ p : TypeParam, p.toTypeExpr.Normal) ∧
    (∀ (u : TypeUse) (n : Nat), (∀ m ∈ (TypeUse.array u n).counts, m ≤ maxDimensions) →
      (TypeUse.array u n).toTypeExpr =
        .array u.core.toTypeExpr (min (TypeUse.array u n).totalCount maxDimensions)) ∧
    (∀ name, (named name).Normal) ∧
    (∀ base args, base.Normal → (∀ a ∈ args, a.Normal) → (instantiate base args).Normal) ∧
    (∀ component n, component.Normal → (arrayOf component n).Normal) ∧
    (∀ bound, bound.Normal → (TypeExpr.wildcard bound).Normal) ∧
    ∀ inner, inner.Normal → (optional inner).Normal :=
  ⟨TypeUse.normal_toTypeExpr, TypeParam.normal_toTypeExpr, TypeUse.toTypeExpr_array,
    TypeExpr.normal_named, fun _ _ => Normal.instantiate, fun _ n h => h.arrayOf n,
    fun _ => Normal.wildcard, fun _ => Normal.optional⟩

/-- Three arrays of each other around an optional array of its own. -/
def gridUse : TypeUse :=
  .array (.array (.array (.nullable (.array (.reference "java.lang.Integer" []) 0)) 2) 0) 4294967295

theorem normalForm_exact_grid :
    (∀ m ∈ gridUse.counts, m ≤ maxDimensions) ∧
    gridUse.toTypeExpr = .array (.nullable (.array (.simple "int") 1)) maxDimensions ∧
    (optional
      (.wildcard (arrayOf (instantiate (named "a.Box") [gridUse.toTypeExpr]) 0))).Normal := by
  have hcounts : ∀ m ∈ gridUse.counts, m ≤ maxDimensions := by decide
  obtain ⟨hresolved, -, harray, hname, hgeneric, harrayOf, hwildcard, hoptional⟩ := normalForm_exact
  have hargs : ∀ a ∈ [gridUse.toTypeExpr], a.Normal := by
    simpa using hresolved gridUse
  refine ⟨hcounts, harray _ _ hcounts, hoptional _ (hwildcard _ (harrayOf _ 0 ?_))⟩
  exact hgeneric _ _ (hname "a.Box") hargs

end Record

end Ambient

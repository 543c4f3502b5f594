/-
Types as the declarations show them.

The declarations know fewer types than signatures do: numbers are all one, a list
is an array, and whether a value is optional is not said.  Two functions take a
type there, one to a text that tells overloads apart and one to the text that is
written.  Both are brought together here by what they have in common:

* `ShownType` — a name, an array or an applied type;
* `TypeExpr.shown` — what a type expression is shown as;
* `TypeExpr.erasure_eq`, `Scoped.typeText_eq_write` — the erasure is the shown type
  spelled out, and what is written is the shown type with local names;
* `ShownType.text_inj` — a shown type can be read off its spelling;
* `Scoped.run_again_of_erasure_eq` — so types of one erasure are written alike.
-/
import Mathlib.Data.List.Induction
import Mathlib.Logic.Function.Iterate
import Ambient.Proofs.Templates
import Ambient.Proofs.UsedNames
import Ambient.Record.Resolve

namespace Ambient

/-- A type of the declarations, with qualified names. -/
inductive ShownType where
  | name (n : String)
  | array (component : ShownType)
  | applied (base : ShownType) (args : List ShownType)

namespace ShownType

mutual

/-- The type spelled out. -/
def text : ShownType → String
  | .name n => n
  | .array component => component.text ++ "[]"
  | .applied base args => base.text ++ "<" ++ ", ".intercalate (texts args) ++ ">"

/-- Several types spelled out. -/
def texts : List ShownType → List String
  | [] => []
  | t :: ts => t.text :: texts ts

end

theorem texts_eq_map (ts : List ShownType) : texts ts = ts.map text := by
  induction ts with
  | nil => rfl
  | cons t ts ih => rw [texts, ih, List.map_cons]

/-- The characters of some arguments, after the bracket that opens them. -/
def argChars (args : List ShownType) : List Char :=
  '<' :: (", ".intercalate (texts args)).toList

theorem toList_text_array (component : ShownType) :
    (array component).text.toList = component.text.toList ++ ['['] ++ [']'] := by
  simp [text]

theorem toList_text_applied (base : ShownType) (args : List ShownType) :
    (applied base args).text.toList = base.text.toList ++ argChars args ++ ['>'] := by
  simp [text, argChars]

/-! ### Reading a type off its spelling

A type is read from its end: there a bracket or a name shows at once what kind of
type it is.  What stands before it then ends in an opening bracket or a blank, or
there is nothing. -/

/-- The characters that spell out how types are put together. -/
def marks : List Char := ['<', '>', '[', ']', ',', ' ']

/-- The name can be told from what stands around it. -/
def IsPlain (n : String) : Prop :=
  ∀ c ∈ n.toList, c ∉ marks

instance : DecidablePred IsPlain :=
  fun n => List.decidableBAll (· ∉ marks) n.toList

/-- All names in the type are plain, and nothing is applied to no arguments. -/
inductive Plain : ShownType → Prop
  | name {n : String} (h : IsPlain n) : Plain (.name n)
  | array {component : ShownType} (h : Plain component) : Plain (.array component)
  | applied {base : ShownType} {args : List ShownType} (hb : Plain base) (hne : args ≠ [])
      (h : ∀ a ∈ args, Plain a) : Plain (.applied base args)

/-- The text may stand before a type. -/
def Opens (x : List Char) : Prop :=
  ∀ c ∈ x.getLast?, c = '<' ∨ c = ' '

/-- The type is told from the end of a text, and what stands before it as well. -/
def Readable (s : ShownType) : Prop :=
  ∀ ⦃t : ShownType⦄ ⦃x y : List Char⦄, t.Plain → Opens x → Opens y →
    x ++ s.text.toList = y ++ t.text.toList → s = t ∧ x = y

theorem opens_concat {x : List Char} {c : Char} : Opens (x ++ [c]) ↔ c = '<' ∨ c = ' ' := by
  simp [Opens]

/-- A name does not end as an array or an applied type does. -/
theorem append_name_ne {n : String} (hn : IsPlain n) {x z : List Char} (hx : Opens x) {m : Char}
    (hm : m = ']' ∨ m = '>') : x ++ n.toList ≠ z ++ [m] := by
  intro h
  have hlast := congrArg List.getLast? h
  rw [List.getLast?_append, List.getLast?_concat] at hlast
  have hmark : m ∈ marks := by rcases hm with rfl | rfl <;> decide
  cases hc : n.toList.getLast? with
  | some c =>
    rw [hc] at hlast
    obtain rfl : c = m := Option.some.inj hlast
    exact hn c (List.mem_of_getLast? hc) hmark
  | none =>
    rw [hc] at hlast
    rcases hx m hlast with rfl | rfl <;> simp at hm

/-- A plain name ends where a mark stands before it. -/
theorem append_name_inj {m n : List Char} (hm : ∀ c ∈ m, c ∉ marks) {x y : List Char}
    (hy : Opens y) (h : x ++ m = y ++ n) (hlong : n.length ≤ m.length) : m = n ∧ x = y := by
  obtain ⟨a, rfl, rfl⟩ : ∃ a, y = x ++ a ∧ m = a ++ n := by
    rcases List.append_eq_append_iff.mp h with ⟨a, ha, hb⟩ | ⟨a, ha, hb⟩
    · exact ⟨a, ha, hb⟩
    · have hlen := congrArg List.length hb
      rw [List.length_append] at hlen
      obtain rfl : a = [] := List.length_eq_zero_iff.mp (by omega)
      exact ⟨[], by simpa using ha.symm, by simpa using hb.symm⟩
  rcases List.eq_nil_or_concat a with rfl | ⟨a, c, rfl⟩
  · simp
  · -- The last character of what would be left of the name is a mark.
    have hmark : c ∉ marks := hm c (by simp)
    rw [List.concat_eq_append, ← List.append_assoc, opens_concat] at hy
    rcases hy with rfl | rfl <;> exact absurd (by decide) hmark

theorem readable_name {n : String} (hn : IsPlain n) : Readable (.name n) := by
  intro t x y ht hx hy h
  cases ht with
  | @name m hm =>
    rcases Nat.le_total m.toList.length n.toList.length with hle | hle
    · obtain ⟨hnm, hxy⟩ := append_name_inj hn hy h hle
      exact ⟨congrArg _ (String.toList_inj.mp hnm), hxy⟩
    · obtain ⟨hmn, hyx⟩ := append_name_inj hm hx h.symm hle
      exact ⟨congrArg _ (String.toList_inj.mp hmn.symm), hyx.symm⟩
  | array =>
    rw [toList_text_array, ← List.append_assoc] at h
    exact absurd h (append_name_ne hn hx (.inl rfl))
  | applied =>
    rw [toList_text_applied, ← List.append_assoc] at h
    exact absurd h (append_name_ne hn hx (.inr rfl))

theorem argChars_singleton (a : ShownType) : argChars [a] = ['<'] ++ a.text.toList := by
  simp [argChars, texts_eq_map]

theorem argChars_concat {args : List ShownType} (h : args ≠ []) (a : ShownType) :
    argChars (args ++ [a]) = argChars args ++ [',', ' '] ++ a.text.toList := by
  have hmap : args.map text ≠ [] := by simpa using h
  simp [argChars, texts_eq_map, String.intercalate_append_of_ne_nil hmap]

/-- Arguments are told from the end of a text, one after the other. -/
theorem append_argChars_inj {as bs : List ShownType} (has : as ≠ []) (hbs : bs ≠ [])
    (hread : ∀ a ∈ as, Readable a) (hplain : ∀ b ∈ bs, b.Plain) {x y : List Char}
    (h : x ++ argChars as = y ++ argChars bs) : as = bs ∧ x = y := by
  induction as using List.reverseRecOn generalizing bs with
  | nil => exact absurd rfl has
  | append_singleton as a ih =>
    obtain ⟨bs, b, rfl⟩ := (List.eq_nil_or_concat bs).resolve_left hbs
    rw [List.concat_eq_append] at hplain h ⊢
    have ha : a.Readable := hread a (by simp)
    have hb : b.Plain := hplain b (by simp)
    -- The last arguments are the same; what is left tells whether there are more.
    have hfirst (x : List Char) : Opens (x ++ ['<']) := opens_concat.mpr (.inl rfl)
    have hmore (x : List Char) (as : List ShownType) : Opens (x ++ argChars as ++ [',', ' ']) := by
      have hend : [',', ' '] = [','] ++ [' '] := rfl
      rw [hend, ← List.append_assoc]
      exact opens_concat.mpr (.inr rfl)
    by_cases hnil : as = [] <;> by_cases hnil' : bs = []
    · subst hnil hnil'
      simp only [List.nil_append, argChars_singleton, ← List.append_assoc] at h ⊢
      obtain ⟨rfl, hxy⟩ := ha hb (hfirst x) (hfirst y) h
      exact ⟨rfl, List.append_cancel_right hxy⟩
    · subst hnil
      simp only [List.nil_append, argChars_singleton, argChars_concat hnil',
        ← List.append_assoc] at h
      obtain ⟨-, hxy⟩ := ha hb (hfirst x) (hmore y bs) h
      exact absurd (congrArg List.getLast? hxy) (by simp)
    · subst hnil'
      simp only [List.nil_append, argChars_singleton, argChars_concat hnil,
        ← List.append_assoc] at h
      obtain ⟨-, hxy⟩ := ha hb (hmore x as) (hfirst y) h
      exact absurd (congrArg List.getLast? hxy) (by simp)
    · simp only [argChars_concat hnil, argChars_concat hnil', ← List.append_assoc] at h
      obtain ⟨rfl, hxy⟩ := ha hb (hmore x as) (hmore y bs) h
      obtain ⟨rfl, hfront⟩ := ih hnil hnil' (fun a ha => hread a (by simp [ha]))
        (fun b hb => hplain b (by simp [hb])) (List.append_cancel_right hxy)
      exact ⟨rfl, hfront⟩

theorem Plain.readable {s : ShownType} (hs : s.Plain) : s.Readable := by
  induction hs with
  | name hn => exact readable_name hn
  | @array component _ ih =>
    intro t x y ht hx hy h
    cases ht with
    | name hm =>
      rw [toList_text_array, ← List.append_assoc] at h
      exact absurd h.symm (append_name_ne hm hy (.inl rfl))
    | array ht =>
      simp only [toList_text_array, ← List.append_assoc] at h
      obtain ⟨rfl, hxy⟩ := ih ht hx hy
        (List.append_cancel_right (List.append_cancel_right h))
      exact ⟨rfl, hxy⟩
    | applied =>
      simp only [toList_text_array, toList_text_applied, ← List.append_assoc] at h
      exact absurd (congrArg List.getLast? h) (by simp)
  | @applied base args _ hne _ ihb ih =>
    intro t x y ht hx hy h
    cases ht with
    | name hm =>
      rw [toList_text_applied, ← List.append_assoc] at h
      exact absurd h.symm (append_name_ne hm hy (.inr rfl))
    | array =>
      simp only [toList_text_array, toList_text_applied, ← List.append_assoc] at h
      exact absurd (congrArg List.getLast? h) (by simp)
    | applied ht hne' hargs =>
      simp only [toList_text_applied, ← List.append_assoc] at h
      obtain ⟨rfl, hbase⟩ := append_argChars_inj hne hne' ih hargs (List.append_cancel_right h)
      obtain ⟨rfl, hxy⟩ := ihb ht hx hy hbase
      exact ⟨rfl, hxy⟩

/-- **A shown type can be read off its spelling**, if its names are plain. -/
theorem text_inj {s t : ShownType} (hs : s.Plain) (ht : t.Plain) (h : s.text = t.text) : s = t := by
  have hopens : Opens [] := by simp [Opens]
  exact (hs.readable ht hopens hopens (congrArg _ (congrArg String.toList h))).1

/-! ### Writing -/

mutual

/-- The type with the local names of a scope.  A list of several arguments shows none of
them. -/
def write : ShownType → Scoped String
  | .name n => Scoped.localName n
  | .array component => do return (← component.write) ++ "[]"
  | .applied (.array _) _ => pure "any[]"
  | .applied base args => do
    let base ← base.write
    return base ++ "<" ++ ", ".intercalate (← writeAll args) ++ ">"

/-- Several types, from left to right. -/
def writeAll : List ShownType → Scoped (List String)
  | [] => pure []
  | t :: ts => do
    let text ← t.write
    return text :: (← writeAll ts)

end

end ShownType

namespace TypeExpr

open ShownType (IsPlain Plain)

/-! ### What a type is shown as -/

mutual

/-- The type that the declarations show. -/
def shown : TypeExpr → ShownType
  | .simple n =>
    if n = "java.util.List" then .array (.name "any")
    else .name ((targetNames.lookup n).getD n)
  | .generic base args =>
    match decide (base.baseType = list), shownAll args with
    | true, [element] => .array element
    | _, args => .applied base.shown args
  | .array component n => ShownType.array^[n] component.shown
  | .wildcard bound => bound.shown
  | .nullable inner => inner.shown

/-- The types that the declarations show for several. -/
def shownAll : List TypeExpr → List ShownType
  | [] => []
  | t :: ts => t.shown :: shownAll ts

end

theorem shownAll_eq_map (ts : List TypeExpr) : shownAll ts = ts.map shown := by
  induction ts with
  | nil => rfl
  | cons t ts ih => rw [shownAll, ih, List.map_cons]

theorem brackets_succ (n : Nat) : brackets (n + 1) = brackets n ++ "[]" := by
  simp [brackets, List.replicate_succ']

theorem text_iterate_array (t : ShownType) (n : Nat) :
    (ShownType.array^[n] t).text = t.text ++ brackets n := by
  induction n with
  | zero => simp [brackets]
  | succ n ih =>
    rw [Function.iterate_succ_apply', ShownType.text, ih, brackets_succ, String.append_assoc]

mutual

/-- The erasure of a type is the type that is shown, spelled out. -/
theorem erasure_eq : (t : TypeExpr) → t.erasure = t.shown.text
  | .simple n => by
    rw [erasure, shown]
    split
    next h => rw [h]; rfl
    · rfl
  | .generic base args => by
    rw [erasure, shown, erasureAll_eq args, erasure_eq base]
    cases decide (base.baseType = list) with
    | false => rfl
    | true =>
      match shownAll args with
      | [] => rfl
      | [element] => rfl
      | _ :: _ :: _ => rfl
  | .array component n => by
    rw [erasure, shown, erasure_eq component, text_iterate_array]
  | .wildcard bound => by rw [erasure, shown, erasure_eq bound]
  | .nullable inner => by rw [erasure, shown, erasure_eq inner]

theorem erasureAll_eq : (ts : List TypeExpr) → erasureAll ts = ShownType.texts (shownAll ts)
  | [] => rfl
  | t :: ts => by rw [erasureAll, shownAll, ShownType.texts, erasure_eq t, erasureAll_eq ts]

end

/-- Only a name has arguments, and at least one of them. -/
inductive IsResolved : TypeExpr → Prop
  | simple (n : String) : IsResolved (.simple n)
  | generic (n : String) {args : List TypeExpr} (hne : args ≠ []) (h : ∀ a ∈ args, IsResolved a) :
      IsResolved (.generic (.simple n) args)
  | array {component : TypeExpr} (h : IsResolved component) (n : Nat) :
      IsResolved (.array component n)
  | wildcard {bound : TypeExpr} (h : IsResolved bound) : IsResolved (.wildcard bound)
  | nullable {inner : TypeExpr} (h : IsResolved inner) : IsResolved (.nullable inner)

/-- What a name is shown as is plain if the name is. -/
theorem isPlain_target {n : String} (h : IsPlain n) (hn : n ≠ "java.util.List") :
    IsPlain ((targetNames.lookup n).getD n) := by
  cases hl : targetNames.lookup n with
  | none => exact h
  | some target =>
    have hall : ∀ p ∈ targetNames, p.1 = "java.util.List" ∨ IsPlain p.2 := by decide
    obtain ⟨l, r, he, -⟩ := List.lookup_eq_some_iff.mp hl
    exact (hall (n, target) (by simp [he])).resolve_left hn

theorem plain_iterate_array {t : ShownType} (h : t.Plain) (n : Nat) :
    (ShownType.array^[n] t).Plain := by
  induction n with
  | zero => exact h
  | succ n ih =>
    rw [Function.iterate_succ_apply']
    exact .array ih

theorem IsResolved.plain_shown {t : TypeExpr} (ht : t.IsResolved) (h : ∀ n, t.Uses n → IsPlain n) :
    t.shown.Plain := by
  have hname : ∀ n, IsPlain n → (TypeExpr.simple n).shown.Plain := by
    intro n hn
    rw [shown]
    split
    · exact .array (.name (by decide))
    next hne => exact .name (isPlain_target hn hne)
  induction ht with
  | simple n => exact hname n (h n .simple)
  | @generic n args hne _ ih =>
    have hargs : ∀ a ∈ shownAll args, a.Plain := by
      rw [shownAll_eq_map]
      intro a ha
      obtain ⟨t, ht, rfl⟩ := List.mem_map.mp ha
      exact ih t ht fun m hm => h m (.arg ht hm)
    have hne' : shownAll args ≠ [] := by simpa [shownAll_eq_map] using hne
    rw [shown]
    split
    next element _ he => exact .array (hargs element (by simp [he]))
    · exact .applied (hname n (h n (.base .simple))) hne' hargs
  | @array component _ n ih => exact plain_iterate_array (ih fun m hm => h m (.component hm)) n
  | wildcard _ ih => exact ih fun m hm => h m (.bound hm)
  | nullable _ ih => exact ih fun m hm => h m (.inner hm)

end TypeExpr

namespace Scoped

open TypeExpr (IsResolved shownAll brackets)

/-- A name without a scope is written as it stands. -/
theorem localName_of_scope {n : String} (h : QualifiedName.scope n = "") :
    localName n = pure n := by
  funext s
  show s.bind n = (n, s)
  rw [Scope.bind, if_pos h]

theorem write_iterate_array (t : ShownType) (n : Nat) :
    (ShownType.array^[n] t).write = (do return (← t.write) ++ brackets n) := by
  induction n with
  | zero => simp [brackets]
  | succ n ih =>
    rw [Function.iterate_succ_apply', ShownType.write, ih, TypeExpr.brackets_succ]
    simp [String.append_assoc]

/-- The names of the declarations' own types are written as they stand. -/
theorem scope_target {n target : String} (h : TypeExpr.targetNames.lookup n = some target) :
    QualifiedName.scope target = "" := by
  have hall : ∀ p ∈ TypeExpr.targetNames, QualifiedName.scope p.2 = "" := by decide
  obtain ⟨l, r, he, -⟩ := List.lookup_eq_some_iff.mp h
  exact hall (n, target) (by simp [he])

theorem typeText_simple (n : String) :
    typeText (.simple n) = (TypeExpr.shown (.simple n)).write := by
  rw [typeText, TypeExpr.shown]
  split
  next target h =>
    split
    next hlist =>
      subst hlist
      obtain rfl : "any[]" = target := Option.some.inj h
      rw [ShownType.write, ShownType.write, localName_of_scope rfl]
      rfl
    · rw [ShownType.write, h, Option.getD_some, localName_of_scope (scope_target h)]
  next h =>
    have hlist : n ≠ "java.util.List" := by
      rintro rfl
      cases h
    rw [if_neg hlist, ShownType.write, h, Option.getD_none]

theorem typeTexts_eq_writeAll {ts : List TypeExpr} (h : ∀ t ∈ ts, typeText t = t.shown.write) :
    typeTexts ts = ShownType.writeAll (shownAll ts) := by
  induction ts with
  | nil => rfl
  | cons t ts ih =>
    obtain ⟨ht, hts⟩ := List.forall_mem_cons.mp h
    rw [typeTexts, shownAll, ShownType.writeAll, ht, ih hts]

/-- What is written for a type is the type that is shown. -/
theorem typeText_eq_write {t : TypeExpr} (ht : t.IsResolved) : typeText t = t.shown.write := by
  induction ht with
  | simple n => exact typeText_simple n
  | @generic n args hne _ ih =>
    have hargs := typeTexts_eq_writeAll ih
    rw [typeText, TypeExpr.shown]
    by_cases hlist : n = "java.util.List"
    · subst hlist
      have hbase : (TypeExpr.simple "java.util.List").baseType = .list := rfl
      rw [if_pos hbase]
      match args, hne with
      | [element], _ =>
        have hone : [element].length = 1 := rfl
        rw [if_pos hone, typeTexts, typeTexts, ih element (by simp)]
        show _ = element.shown.array.write
        rw [ShownType.write]
        simp
      | _ :: _ :: _, _ => rfl
    · have hbase : (TypeExpr.simple n).baseType ≠ .list := by
        simpa [TypeExpr.baseType, TypeExpr.list] using hlist
      rw [if_neg hbase, decide_eq_false hbase, typeText_simple, hargs]
      show _ = (ShownType.applied (TypeExpr.shown (.simple n)) (shownAll args)).write
      rw [TypeExpr.shown, if_neg hlist]
      rfl
  | @array component _ n ih => rw [typeText, ih, TypeExpr.shown, write_iterate_array]
  | wildcard _ ih => rw [typeText, ih, TypeExpr.shown]
  | nullable _ ih => rw [typeText, ih, TypeExpr.shown]

/-! ### Writing twice -/

theorem bindAll_bindAll_self (s : Scope) (ns : List String) :
    (s.bindAll ns).bindAll ns = s.bindAll ns :=
  Scope.bindAll_eq_self fun _ hn => Scope.knows_bindAll hn

/-- Types that are written again are the same texts, and nothing more is imported. -/
theorem run_typeTexts_again (ts : List TypeExpr) (s : Scope) :
    (typeTexts ts).run ((typeTexts ts).run s).2 = (typeTexts ts).run s := by
  rw [typeTexts_eq, run_writeAll, run_writeAll, bindAll_bindAll_self]

end Scoped

/-! ### Types of records -/

mutual

theorem Record.TypeUse.isResolved_toTypeExpr : (u : Record.TypeUse) → u.toTypeExpr.IsResolved
  | .primitive type => .simple type.name
  | .reference name args => by
    rw [TypeUse.toTypeExpr, TypeExpr.instantiate]
    split
    · exact .simple _
    next h => exact .generic _ (by simpa using h) (TypeUse.isResolved_toTypeExprs args)
  | .array component n => by
    have hc := component.isResolved_toTypeExpr
    rw [TypeUse.toTypeExpr]
    unfold TypeExpr.arrayOf
    split
    next inner m heq =>
      rw [heq] at hc
      cases hc with
      | array h => exact .array h _
    · exact .array hc _
  | .wildcard (some upper) none => by
    rw [TypeUse.toTypeExpr]
    exact .wildcard upper.isResolved_toTypeExpr
  | .wildcard (some _) (some _) => .simple _
  | .wildcard none _ => .simple _
  | .variable name => .simple _
  | .nullable inner => by
    have hi := inner.isResolved_toTypeExpr
    rw [TypeUse.toTypeExpr]
    unfold TypeExpr.optional
    split
    next h => rwa [h] at hi
    · exact .nullable hi

theorem Record.TypeUse.isResolved_toTypeExprs :
    (us : List Record.TypeUse) → ∀ t ∈ TypeUse.toTypeExprs us, t.IsResolved
  | [], _, h => nomatch h
  | u :: us, t, h => by
    rcases List.mem_cons.mp h with rfl | h
    · exact u.isResolved_toTypeExpr
    · exact Record.TypeUse.isResolved_toTypeExprs us t h

end

namespace TypeExpr

open ShownType (IsPlain)

/-- The type is one of a record, and all names in it are plain. -/
structure IsLegible (t : TypeExpr) : Prop where
  of_record : ∃ u : Record.TypeUse, u.toTypeExpr = t
  plain : ∀ n, t.Uses n → IsPlain n

/-- The names of a type are among what it mentions. -/
theorem isLegible_of_mentions {u : Record.TypeUse}
    (h : ∀ n ∈ Catalogue.simpleNames u.toTypeExpr.mentions, IsPlain n) : u.toTypeExpr.IsLegible :=
  ⟨⟨u, rfl⟩, fun n hn =>
    h n (Catalogue.mem_simpleNames_iff.mpr ((mem_mentions_iff u.toTypeExpr).mpr hn))⟩

theorem IsLegible.isResolved {t : TypeExpr} (h : t.IsLegible) : t.IsResolved := by
  obtain ⟨u, rfl⟩ := h.of_record
  exact u.isResolved_toTypeExpr

/-- Types of one erasure are shown as the same type. -/
theorem IsLegible.shown_eq {a b : TypeExpr} (ha : a.IsLegible) (hb : b.IsLegible)
    (h : a.erasure = b.erasure) : a.shown = b.shown := by
  rw [erasure_eq, erasure_eq] at h
  exact ShownType.text_inj (ha.isResolved.plain_shown ha.plain)
    (hb.isResolved.plain_shown hb.plain) h

end TypeExpr

namespace Scoped

open TypeExpr (IsLegible erasure)

theorem typeTexts_eq_of_erasure_eq {as bs : List TypeExpr} (has : ∀ a ∈ as, a.IsLegible)
    (hbs : ∀ b ∈ bs, b.IsLegible) (h : as.map erasure = bs.map erasure) :
    typeTexts as = typeTexts bs := by
  have hwrite : ∀ ts : List TypeExpr, (∀ t ∈ ts, t.IsLegible) →
      typeTexts ts = ShownType.writeAll (TypeExpr.shownAll ts) :=
    fun ts hts => typeTexts_eq_writeAll fun t ht => typeText_eq_write (hts t ht).isResolved
  rw [hwrite as has, hwrite bs hbs]
  refine congrArg _ ?_
  induction as generalizing bs with
  | nil =>
    obtain rfl : bs = [] := List.map_eq_nil_iff.mp h.symm
    rfl
  | cons a as ih =>
    obtain ⟨b, bs, rfl, hb, hrest⟩ := List.map_eq_cons_iff.mp h.symm
    obtain ⟨ha, has⟩ := List.forall_mem_cons.mp has
    obtain ⟨hb', hbs⟩ := List.forall_mem_cons.mp hbs
    rw [TypeExpr.shownAll, TypeExpr.shownAll, ha.shown_eq hb' hb.symm, ih has hbs hrest.symm]

theorem typeText_eq_of_erasure_eq {a b : TypeExpr} (ha : a.IsLegible) (hb : b.IsLegible)
    (h : a.erasure = b.erasure) : typeText a = typeText b := by
  rw [typeText_eq_write ha.isResolved, typeText_eq_write hb.isResolved, ha.shown_eq hb h]

/-- **Erasure is sound.**  Types of one erasure are written alike: the second, after the
first, is the same text and imports nothing more.  So overloads of one signature have the
same list of parameter types. -/
theorem run_again_of_erasure_eq :
    (∀ a b : TypeExpr, a.IsLegible → b.IsLegible → a.erasure = b.erasure →
      ∀ s : Scope, (typeText b).run ((typeText a).run s).2 = (typeText a).run s) ∧
    ∀ m o : Method, (∀ p ∈ m.params, p.type.IsLegible) → (∀ p ∈ o.params, p.type.IsLegible) →
      m.signature = o.signature → ∀ s : Scope,
        (typeTexts (o.params.map (·.type))).run ((typeTexts (m.params.map (·.type))).run s).2 =
          (typeTexts (m.params.map (·.type))).run s := by
  constructor
  · intro a b ha hb h s
    rw [← typeText_eq_of_erasure_eq ha hb h, typeText_eq, run_write, run_write,
      bindAll_bindAll_self]
  · intro m o hm ho h s
    have hparams : (m.params.map (·.type)).map erasure = (o.params.map (·.type)).map erasure := by
      simpa [Method.signature, Function.comp_def] using congrArg Signature.params h
    have heq := typeTexts_eq_of_erasure_eq (List.forall_mem_map.mpr hm)
      (List.forall_mem_map.mpr ho) hparams
    rw [← heq, run_typeTexts_again]

/-- A box of a list of optional `int` imports the box, which then serves for a box of
`long[]` as well. -/
theorem run_again_numberBox :
    let ints := (Record.TypeUse.reference "x.Box"
      [.reference "java.util.List" [.nullable (.primitive .int)]]).toTypeExpr
    let longs := (Record.TypeUse.reference "x.Box" [.array (.primitive .long) 1]).toTypeExpr
    let imported : Scope := ⟨"y", ["Box"], [("x.Box", "Box")]⟩
    (typeText longs).run ((typeText ints).run ⟨"y", [], []⟩).2 = ("Box<number[]>", imported) ∧
      (typeTexts [longs]).run ((typeTexts [ints]).run ⟨"y", [], []⟩).2 =
        (["Box<number[]>"], imported) := by
  intro ints longs imported
  have hints : ints.IsLegible := TypeExpr.isLegible_of_mentions (by decide)
  have hlongs : longs.IsLegible := TypeExpr.isLegible_of_mentions (by decide)
  have herasure : ints.erasure = longs.erasure := by decide
  let put (t : TypeExpr) : Method := .plain "put" .void [⟨"box", t, false⟩] "x.Shelf"
  have hput {t : TypeExpr} (ht : t.IsLegible) : ∀ p ∈ (put t).params, p.type.IsLegible := by
    simpa [put, Method.plain] using ht
  have hsignature : (put ints).signature = (put longs).signature := by
    simp [Method.signature, put, Method.plain, herasure]
  constructor
  · rw [run_again_of_erasure_eq.1 ints longs hints hlongs herasure]
    rfl
  · have h := run_again_of_erasure_eq.2 (put ints) (put longs) (hput hints) (hput hlongs)
      hsignature ⟨"y", [], []⟩
    exact h.trans rfl

end Scoped

end Ambient

/-
The names that type expressions and definitions are written with.

`mentions` lists every expression inside another one.  Here the names among
them are described by how they come to stand there:

* `TypeExpr.Uses`, `Definition.Uses` — a name stands somewhere in a type
  expression, or anywhere under a definition;
* `TypeExpr.mem_mentions_iff`, `Definition.mem_mentions_iff` — `mentions` lists
  exactly these;
* `TypeExpr.uses_name` — an expression uses the name that it is looked up by,
  unless that name shows an array or a wildcard.
-/
import Ambient.Hierarchy.Ancestors
import Ambient.Proofs.Nesting

namespace Ambient

/-! ### Type expressions -/

namespace TypeExpr

/-- The name stands somewhere in the type expression. -/
inductive Uses : TypeExpr → String → Prop where
  | simple {n : String} : Uses (.simple n) n
  | base {base : TypeExpr} {args : List TypeExpr} {n : String} (h : Uses base n) :
      Uses (.generic base args) n
  | arg {base a : TypeExpr} {args : List TypeExpr} {n : String} (ha : a ∈ args)
      (h : Uses a n) : Uses (.generic base args) n
  | component {component : TypeExpr} {k : Nat} {n : String} (h : Uses component n) :
      Uses (.array component k) n
  | bound {bound : TypeExpr} {n : String} (h : Uses bound n) : Uses (.wildcard bound) n
  | inner {inner : TypeExpr} {n : String} (h : Uses inner n) : Uses (.nullable inner) n

mutual

/-- The names among what an expression mentions are those it uses. -/
theorem mem_mentions_iff {n : String} : (t : TypeExpr) → (.simple n ∈ t.mentions ↔ t.Uses n)
  | .simple m => by
    rw [mentions, List.mem_singleton, simple.injEq]
    constructor
    · rintro rfl
      exact .simple
    · rintro ⟨⟩
      rfl
  | .generic base args => by
    have hb := mem_mentions_iff (n := n) base
    have ha := mem_mentionsAll_iff (n := n) args
    rw [mentions, List.mem_cons, List.mem_append, hb, ha]
    constructor
    · rintro (h | h | ⟨a, ha, h⟩)
      · cases h
      · exact .base h
      · exact .arg ha h
    · intro h
      cases h with
      | base h => exact .inr (.inl h)
      | arg ha h => exact .inr (.inr ⟨_, ha, h⟩)
  | .array component k => by
    rw [mentions, List.mem_cons, mem_mentions_iff component]
    constructor
    · rintro (h | h)
      · cases h
      · exact .component h
    · intro h
      cases h with
      | component h => exact .inr h
  | .wildcard bound => by
    rw [mentions, List.mem_cons, mem_mentions_iff bound]
    constructor
    · rintro (h | h)
      · cases h
      · exact .bound h
    · intro h
      cases h with
      | bound h => exact .inr h
  | .nullable inner => by
    rw [mentions, mem_mentions_iff inner]
    constructor
    · exact .inner
    · intro h
      cases h with
      | inner h => exact h

/-- The same for a list of expressions. -/
theorem mem_mentionsAll_iff {n : String} :
    (ts : List TypeExpr) → (.simple n ∈ mentionsAll ts ↔ ∃ t ∈ ts, t.Uses n)
  | [] => by simp [mentionsAll]
  | t :: ts => by
    rw [mentionsAll, List.mem_append, mem_mentions_iff t, mem_mentionsAll_iff ts]
    simp

end

/-- A name with brackets or a star. -/
def IsMarked (n : String) : Prop :=
  '[' ∈ n.toList ∨ '*' ∈ n.toList

instance : DecidablePred IsMarked :=
  fun n => inferInstanceAs (Decidable ('[' ∈ n.toList ∨ '*' ∈ n.toList))

theorem bracket_mem_brackets (k : Nat) : '[' ∈ (brackets (k + 1)).toList := by
  simp [brackets, List.replicate_succ, String.join_cons]

/-- An expression uses the name it is looked up by, unless it is an array or a
wildcard. -/
theorem uses_name : (t : TypeExpr) → ¬IsMarked t.name → t.Uses t.name
  | .simple _, _ => .simple
  | .generic base _, h => .base (uses_name base h)
  | .nullable inner, h => .inner (uses_name inner h)
  | .wildcard _, h => absurd (.inr (by simp [name])) h
  | .array component 0, h => by
    -- Without dimensions there are no brackets, though no expression in normal form is like this.
    have hn : (TypeExpr.array component 0).name = component.name := by simp [name, brackets]
    rw [hn] at h ⊢
    exact .component (uses_name component h)
  | .array component (k + 1), h => by
    refine absurd (.inl ?_) h
    rw [name, String.toList_append]
    exact List.mem_append_right _ (bracket_mem_brackets k)

end TypeExpr

/-! ### Definitions -/

namespace Definition

/-- The name stands somewhere under the definition: in its own type, in what it
inherits from, in the type of a member, or under a definition nested in it. -/
inductive Uses : Definition → String → Prop where
  | type {d : Definition} {n : String} (h : d.type.Uses n) : Uses d n
  | parent {d : Definition} {t : TypeExpr} {n : String} (ht : t ∈ d.parents)
      (h : t.Uses n) : Uses d n
  /-- In a result type, in the type of a parameter or in a type parameter. -/
  | method {d : Definition} {m : Method} {t : TypeExpr} {n : String}
      (hm : .method m ∈ d.members) (ht : t ∈ m.types) (h : t.Uses n) : Uses d n
  | field {d : Definition} {f : Field} {n : String} (hf : .field f ∈ d.members)
      (h : f.type.Uses n) : Uses d n
  | nested {d e : Definition} {n : String} (he : .nested e ∈ d.members) (h : e.Uses n) :
      Uses d n

/-- What a member mentions. -/
def memberMentions : Member → List TypeExpr
  | .method m => m.types.flatMap TypeExpr.mentions
  | .field f => f.type.mentions
  | .nested d => d.mentions

theorem membersMention_eq_flatMap (ms : List Member) :
    membersMention ms = ms.flatMap memberMentions := by
  induction ms with
  | nil => rfl
  | cons m ms ih => cases m <;> simp [membersMention, memberMentions, ih]

theorem mentions_eq (d : Definition) :
    d.mentions = d.type.mentions ++ d.parents.flatMap TypeExpr.mentions
      ++ d.members.flatMap memberMentions := by
  cases d
  rw [mentions, membersMention_eq_flatMap, parents]
  simp

/-- The names among what a definition mentions are those it uses. -/
theorem mem_mentions_iff {d : Definition} {n : String} :
    .simple n ∈ d.mentions ↔ d.Uses n := by
  induction d using nesting_induction with
  | step d ih =>
    -- Parents and the types of a method are lists of expressions.
    have flat : ∀ ts : List TypeExpr,
        .simple n ∈ ts.flatMap TypeExpr.mentions ↔ ∃ t ∈ ts, t.Uses n := by
      intro ts
      rw [List.mem_flatMap]
      simp only [TypeExpr.mem_mentions_iff]
    rw [mentions_eq, List.mem_append, List.mem_append, TypeExpr.mem_mentions_iff, flat,
      List.mem_flatMap]
    constructor
    · rintro ((h | ⟨t, ht, h⟩) | ⟨m, hm, h⟩)
      · exact .type h
      · exact .parent ht h
      · cases m with
        | method m =>
          obtain ⟨t, ht, h⟩ := (flat m.types).mp h
          exact .method hm ht h
        | field f => exact .field hm (TypeExpr.mem_mentions_iff f.type |>.mp h)
        | nested e => exact .nested hm ((ih e (mem_nested_iff.mpr hm)).mp h)
    · intro h
      cases h with
      | type h => exact .inl (.inl h)
      | parent ht h => exact .inl (.inr ⟨_, ht, h⟩)
      | method hm ht h => exact .inr ⟨_, hm, (flat _).mpr ⟨_, ht, h⟩⟩
      | field hf h => exact .inr ⟨_, hf, (TypeExpr.mem_mentions_iff _).mpr h⟩
      | nested he h => exact .inr ⟨_, he, (ih _ (mem_nested_iff.mpr he)).mpr h⟩

/-- What a nested definition uses, the one around it uses. -/
theorem Uses.of_withNested {d e : Definition} {n : String} (he : e ∈ d.withNested)
    (h : e.Uses n) : d.Uses n := by
  induction d using nesting_induction with
  | step d ih =>
    rcases mem_withNested_iff.mp he with rfl | ⟨f, hf, he⟩
    · exact h
    · exact .nested (mem_nested_iff.mp hf) (ih f hf he)

end Definition

theorem Catalogue.mem_simpleNames_iff {ts : List TypeExpr} {n : String} :
    n ∈ simpleNames ts ↔ .simple n ∈ ts := by
  rw [simpleNames, List.mem_filterMap]
  constructor
  · rintro ⟨t, ht, h⟩
    split at h
    · exact Option.some.inj h ▸ ht
    · cases h
  · intro h
    exact ⟨_, h, rfl⟩

end Ambient

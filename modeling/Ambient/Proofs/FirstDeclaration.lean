/-
The first definition with a member of a name, one call for each on the way.

The search for what a method overrides goes up from an interface.  It calls itself for
each definition that has not been met, and ends at the first one that has a member of the
name.  If there is none behind a reference, it goes on with the next one, and does not
enter again what it has seen in vain:

* `Graph.Seeks` — a call comes to an end, with a node that is sought or without one;
* `Graph.upTo` — a list of nodes up to the first one that is sought;
* `seeks_iff` — each call ends, with the first sought node that `Graph.visit` lists;
* `Catalogue.declaring?_exact` — so the search finds a definition whenever one can be
  reached, by whatever way, and none that has been met before has a member of the name.
-/
import Ambient.Proofs.InheritedDocs
import Ambient.Proofs.SearchCalls

namespace Ambient

namespace Graph

variable {ρ δ : Type} {g : Graph ρ δ} {p : δ → Bool}

/-! ### Calls -/

/-- A call for some references, with some keys seen before, comes to an end: with the node
that is sought or with none, and with more keys seen.  A new node is what is sought, or it is
called for what is behind it, and only if that is in vain for the references that are left. -/
inductive Seeks (g : Graph ρ δ) (p : δ → Bool) :
    List ρ → List String → Option δ → List String → Prop
  | nil {seen : List String} : Seeks g p [] seen none seen
  | unknown {r : ρ} {todo : List ρ} {seen seen' : List String} {found : Option δ}
      (hr : g.find r = none) (rest : Seeks g p todo seen found seen') :
      Seeks g p (r :: todo) seen found seen'
  | met {r : ρ} {e : δ} {todo : List ρ} {seen seen' : List String} {found : Option δ}
      (hr : g.find r = some e) (he : g.key e ∈ seen) (rest : Seeks g p todo seen found seen') :
      Seeks g p (r :: todo) seen found seen'
  | sought {r : ρ} {e : δ} {todo : List ρ} {seen : List String}
      (hr : g.find r = some e) (he : g.key e ∉ seen) (hp : p e) :
      Seeks g p (r :: todo) seen (some e) (g.key e :: seen)
  | behind {r : ρ} {e d : δ} {todo : List ρ} {seen seen' : List String}
      (hr : g.find r = some e) (he : g.key e ∉ seen) (hp : ¬p e)
      (call : Seeks g p (g.edges e) (g.key e :: seen) (some d) seen') :
      Seeks g p (r :: todo) seen (some d) seen'
  | beyond {r : ρ} {e : δ} {todo : List ρ} {seen seen' seen'' : List String} {found : Option δ}
      (hr : g.find r = some e) (he : g.key e ∉ seen) (hp : ¬p e)
      (call : Seeks g p (g.edges e) (g.key e :: seen) none seen')
      (rest : Seeks g p todo seen' found seen'') :
      Seeks g p (r :: todo) seen found seen''

/-- The nodes up to the first one that is sought. -/
def upTo (p : δ → Bool) : List δ → List δ
  | [] => []
  | d :: ds => if p d then [d] else d :: upTo p ds

theorem upTo_append {xs : List δ} (h : ∀ x ∈ xs, ¬p x) (ys : List δ) :
    upTo p (xs ++ ys) = xs ++ upTo p ys := by
  induction xs with
  | nil => rfl
  | cons x xs ih =>
    obtain ⟨hx, hxs⟩ := List.forall_mem_cons.mp h
    rw [List.cons_append, upTo, if_neg hx, ih hxs, List.cons_append]

/-- What lies behind the first node that is sought does not count. -/
theorem upTo_append_cons {before : List δ} {d : δ} (h : ∀ b ∈ before, ¬p b) (hd : p d)
    (after : List δ) : upTo p (before ++ d :: after) = before ++ [d] := by
  rw [upTo_append h, upTo, if_pos hd]

/-- The keys that have been seen when the first node that is sought is met. -/
def seenUpTo (g : Graph ρ δ) (p : δ → Bool) (todo : List ρ) (seen : List String) : List String :=
  ((upTo p (g.visit todo seen)).map g.key).reverse ++ seen

/-- A call can only end with the first sought node that is visited. -/
theorem Seeks.eq_find? {todo : List ρ} {seen seen' : List String} {found : Option δ}
    (h : g.Seeks p todo seen found seen') :
    found = (g.visit todo seen).find? p ∧ seen' = g.seenUpTo p todo seen := by
  induction h with
  | nil => simp [seenUpTo, upTo]
  | unknown hr _ ih =>
    rw [seenUpTo, visit_cons_none g hr]
    exact ih
  | met hr he _ ih =>
    rw [seenUpTo, visit_cons_seen g hr he]
    exact ih
  | sought hr he hp =>
    rw [seenUpTo, visit_cons_eq hr he, List.cons_append, List.find?_cons_of_pos hp, upTo,
      if_pos hp]
    exact ⟨rfl, rfl⟩
  | @behind r e d todo seen seen' hr he hp _ ih =>
    obtain ⟨hfound, rfl⟩ := ih
    obtain ⟨hd, before, after, hvisit, hbefore⟩ := List.find?_eq_some_iff_append.mp hfound.symm
    have hbefore' : ∀ b ∈ before, ¬p b := by simpa using hbefore
    rw [seenUpTo, seenUpTo, visit_cons_eq hr he, List.cons_append, List.find?_cons_of_neg hp, upTo,
      if_neg hp, List.find?_append, ← hfound, hvisit, List.append_assoc, List.cons_append,
      upTo_append_cons hbefore' hd, upTo_append_cons hbefore' hd]
    simp
  | @beyond r e todo seen seen' seen'' found hr he hp _ _ ihcall ihrest =>
    obtain ⟨hfound, rfl⟩ := ihcall
    obtain ⟨rfl, rfl⟩ := ihrest
    have hbehind : ∀ b ∈ g.visit (g.edges e) (g.key e :: seen), ¬p b := by
      simpa using hfound.symm
    -- Nothing is sought among what is behind the node, so all of it has been seen.
    have hseen : g.seenUpTo p (g.edges e) (g.key e :: seen) =
        g.seenAfter (g.edges e) (g.key e :: seen) := by
      have hall := upTo_append hbehind []
      rw [List.append_nil, upTo, List.append_nil] at hall
      rw [seenUpTo, hall, seenAfter]
    rw [hseen, seenUpTo, seenUpTo, visit_cons_eq hr he, List.cons_append,
      List.find?_cons_of_neg hp, upTo, if_neg hp, List.find?_append, ← hfound, upTo_append hbehind]
    simp [seenAfter]

/-- A call for some references and then others ends behind the first ones or goes on with
the others. -/
theorem Seeks.split {ts us : List ρ} {seen seen' : List String} {found : Option δ}
    (h : g.Seeks p (ts ++ us) seen found seen') :
    (∃ d, found = some d ∧ g.Seeks p ts seen (some d) seen') ∨
      ∃ mid, g.Seeks p ts seen none mid ∧ g.Seeks p us mid found seen' := by
  induction ts generalizing seen with
  | nil => exact .inr ⟨seen, .nil, h⟩
  | cons t ts ih =>
    cases h with
    | unknown hr rest =>
      obtain ⟨d, rfl, hts⟩ | ⟨mid, hts, hus⟩ := ih rest
      · exact .inl ⟨d, rfl, .unknown hr hts⟩
      · exact .inr ⟨mid, .unknown hr hts, hus⟩
    | met hr he rest =>
      obtain ⟨d, rfl, hts⟩ | ⟨mid, hts, hus⟩ := ih rest
      · exact .inl ⟨d, rfl, .met hr he hts⟩
      · exact .inr ⟨mid, .met hr he hts, hus⟩
    | sought hr he hp => exact .inl ⟨_, rfl, .sought hr he hp⟩
    | behind hr he hp call => exact .inl ⟨_, rfl, .behind hr he hp call⟩
    | beyond hr he hp call rest =>
      obtain ⟨d, rfl, hts⟩ | ⟨mid, hts, hus⟩ := ih rest
      · exact .inl ⟨d, rfl, .beyond hr he hp call hts⟩
      · exact .inr ⟨mid, .beyond hr he hp call hts, hus⟩

/-- Every call comes to an end, whatever leads back to where. -/
theorem exists_seeks (g : Graph ρ δ) (p : δ → Bool) (todo : List ρ) (seen : List String) :
    ∃ found seen', g.Seeks p todo seen found seen' := by
  -- The induction is that of `visit`, on the nodes that have not been seen.
  fun_induction visit g todo seen with
  | case1 seen => exact ⟨none, seen, .nil⟩
  | case2 r todo seen hf ih =>
    obtain ⟨found, seen', h⟩ := ih
    exact ⟨found, seen', .unknown hf h⟩
  | case3 r todo seen e hf he ih =>
    obtain ⟨found, seen', h⟩ := ih
    exact ⟨found, seen', .met hf he h⟩
  | case4 r todo seen e hf he _ ih =>
    by_cases hp : p e
    · exact ⟨some e, _, .sought hf he hp⟩
    · obtain ⟨found, seen', h⟩ := ih
      obtain ⟨d, rfl, hcall⟩ | ⟨mid, hcall, hrest⟩ := h.split
      · exact ⟨some d, seen', .behind hf he hp hcall⟩
      · exact ⟨found, seen', .beyond hf he hp hcall hrest⟩

theorem seeks_iff {todo : List ρ} {seen seen' : List String} {found : Option δ} :
    g.Seeks p todo seen found seen' ↔
      found = (g.visit todo seen).find? p ∧ seen' = g.seenUpTo p todo seen := by
  refine ⟨Seeks.eq_find?, ?_⟩
  rintro ⟨rfl, rfl⟩
  obtain ⟨found, seen', h⟩ := g.exists_seeks p todo seen
  obtain ⟨rfl, rfl⟩ := h.eq_find?
  exact h

/-- When a node has been found, the others that have been seen are not sought. -/
theorem Seeks.exists_before {todo : List ρ} {seen seen' : List String} {d : δ}
    (h : g.Seeks p todo seen (some d) seen') :
    ∃ before : List δ, seen' = g.key d :: (before.map g.key).reverse ++ seen ∧
      ∀ b ∈ before, b ∈ g.visit todo seen ∧ ¬p b := by
  obtain ⟨hfound, rfl⟩ := h.eq_find?
  obtain ⟨hd, before, after, hvisit, hbefore⟩ := List.find?_eq_some_iff_append.mp hfound.symm
  have hbefore' : ∀ b ∈ before, ¬p b := by simpa using hbefore
  refine ⟨before, ?_, fun b hb => ⟨hvisit ▸ List.mem_append_left _ hb, hbefore' b hb⟩⟩
  rw [seenUpTo, hvisit, upTo_append_cons hbefore' hd]
  simp

end Graph

namespace Catalogue

variable {c : Catalogue} {t : TypeExpr} {n : String}

/-- **The first declaration**: the search for a member of a name comes to an end in any
catalogue.  It finds a definition exactly if one at or above the type has such a member, and
then it finds one that has, while none that it has met before has any. -/
theorem declaring?_exact (c : Catalogue) (t : TypeExpr) (n : String) :
    (∀ found, (∃ seen, c.heritage.Seeks (·.hasMember n) [t] [] found seen) ↔
      found = c.declaring? t n) ∧
    ((c.declaring? t n).isSome ↔ ∃ a, c.AtOrAbove [t] a ∧ a.hasMember n) ∧
    ∀ a seen, c.heritage.Seeks (·.hasMember n) [t] [] (some a) seen →
      c.AtOrAbove [t] a ∧ a.hasMember n ∧
      ∃ before : List Definition, seen = a.name :: (before.map Definition.name).reverse ∧
        ∀ b ∈ before, c.AtOrAbove [t] b ∧ ¬b.hasMember n := by
  have hends : ∀ found, (∃ seen, c.heritage.Seeks (·.hasMember n) [t] [] found seen) ↔
      found = c.declaring? t n := by
    intro found
    constructor
    · rintro ⟨seen, h⟩
      exact h.eq_find?.1
    · rintro rfl
      exact ⟨_, Graph.seeks_iff.mpr ⟨rfl, rfl⟩⟩
  refine ⟨hends, ?_, fun a seen h => ?_⟩
  · rw [declaring?, List.find?_isSome]
    simp only [mem_lineage_iff]
  · have hfirst := declaring?_eq_some_iff.mp ((hends (some a)).mp ⟨seen, h⟩).symm
    obtain ⟨before, hseen, hbefore⟩ := h.exists_before
    refine ⟨hfirst.atOrAbove, hfirst.hasMember, before, by rwa [List.append_nil] at hseen, ?_⟩
    exact fun b hb => ⟨mem_lineage_iff.mp (hbefore b hb).1, (hbefore b hb).2⟩

/-! ### A search in vain on the way -/

/-- An interface with the given supertypes. -/
def songbook (name : String) (superTypes : List String) : Definition :=
  { Definition.empty .interface (.simple name) with superTypes := superTypes.map .simple }

/-- An interface with a field. -/
def tune : Definition :=
  { songbook "a.Tune" [] with members := [.field { name := "key", type := .simple "int" }] }

/-- A cycle that one comes to by two ways, and the field behind the second of them. -/
def songbooks : Catalogue where
  roots :=
    [songbook "a.Book" ["a.Index", "a.Notes"], songbook "a.Index" ["a.Book", "a.Lost"],
     songbook "a.Notes" ["a.Index", "a.Tune"], tune]

theorem declaring?_exact_songbooks :
    songbooks.heritage.Seeks (·.hasMember "key") [.simple "a.Book"] [] (some tune)
      ["a.Tune", "a.Notes", "a.Index", "a.Book"] ∧
    songbooks.declaring? (.simple "a.Book") "key" = some tune ∧
    songbooks.AtOrAbove [.simple "a.Book"] tune ∧ tune.hasMember "key" := by
  -- Behind the index there is what has been met and what is unknown.
  have hindex : songbooks.heritage.Seeks (·.hasMember "key") [.simple "a.Book", .simple "a.Lost"]
      ["a.Index", "a.Book"] none ["a.Index", "a.Book"] :=
    .met rfl (by decide) (.unknown rfl .nil)
  have htune : songbooks.heritage.Seeks (·.hasMember "key") [.simple "a.Tune"]
      ["a.Notes", "a.Index", "a.Book"] (some tune) ["a.Tune", "a.Notes", "a.Index", "a.Book"] :=
    .sought rfl (by decide) rfl
  have hnotes : songbooks.heritage.Seeks (·.hasMember "key") [.simple "a.Notes"]
      ["a.Index", "a.Book"] (some tune) ["a.Tune", "a.Notes", "a.Index", "a.Book"] :=
    .behind rfl (by decide) nofun (.met rfl (by decide) htune)
  have hbook : songbooks.heritage.Seeks (·.hasMember "key") [.simple "a.Book"] []
      (some tune) ["a.Tune", "a.Notes", "a.Index", "a.Book"] :=
    .behind rfl (by decide) nofun (.beyond rfl (by decide) nofun hindex hnotes)
  obtain ⟨hends, -, hfound⟩ := declaring?_exact songbooks (.simple "a.Book") "key"
  obtain ⟨habove, hmember, -⟩ := hfound tune _ hbook
  exact ⟨hbook, ((hends _).mp ⟨_, hbook⟩).symm, habove, hmember⟩

end Catalogue

end Ambient

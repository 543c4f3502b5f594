/-
Texts taken apart.

* `splitOn` — the pieces between separators, always at least one;
* `splitLast` — what stands before and after the last separator;
* `includes` — whether a text occurs in another;
* `afterPrefix` — what follows a given beginning;
* `isBlank` — the characters of the Unicode property White_Space;
* `trimStart`, `trimEnd`, `trim` — a text without blanks at its start, its end, or both.

`joined_splitOn` says that the pieces with the separators between them are the text again, and
`splitLast_eq_some` the same for the last separator.
-/

namespace Ambient.Text

/-! ### Separators and beginnings -/

/-- The pieces of a text between the separators, in order. -/
def splitOn (sep : Char) : List Char → List (List Char)
  | [] => [[]]
  | c :: cs =>
    if c = sep then [] :: splitOn sep cs
    else
      match splitOn sep cs with
      | [] => [[c]]
      | piece :: pieces => (c :: piece) :: pieces

/-- What stands before and after the last separator, if there is one. -/
def splitLast (sep : Char) : List Char → Option (List Char × List Char)
  | [] => none
  | c :: cs =>
    match splitLast sep cs with
    | some (before, after) => some (c :: before, after)
    | none => if c = sep then some ([], cs) else none

/-- Whether `part` occurs in the text. -/
def includes (part : List Char) : List Char → Bool
  | [] => part.isEmpty
  | c :: cs => part.isPrefixOf (c :: cs) || includes part cs

/-- What follows `start`, if the text begins with it. -/
def afterPrefix : (start cs : List Char) → Option (List Char)
  | [], cs => some cs
  | _ :: _, [] => none
  | s :: start, c :: cs => if s = c then afterPrefix start cs else none

/-- A text begins with `start` exactly when something follows it there. -/
theorem afterPrefix_eq_some_iff {start cs rest : List Char} :
    afterPrefix start cs = some rest ↔ cs = start ++ rest := by
  induction start generalizing cs with
  | nil => simp [afterPrefix]
  | cons s start ih =>
    cases cs with
    | nil => simp [afterPrefix]
    | cons c cs => by_cases h : s = c <;> simp [afterPrefix, h, ih, eq_comm]

theorem splitOn_ne_nil (sep : Char) (cs : List Char) : splitOn sep cs ≠ [] := by
  cases cs with
  | nil => simp [splitOn]
  | cons c cs =>
    rw [splitOn]
    split
    · simp
    · split <;> simp

/-- The pieces with the separator between them are the text again. -/
theorem joined_splitOn (sep : Char) (cs : List Char) :
    [sep].intercalate (splitOn sep cs) = cs := by
  induction cs with
  | nil => rfl
  | cons c cs ih =>
    rw [splitOn]
    split
    next h =>
      subst h
      obtain ⟨piece, pieces, hp⟩ := List.exists_cons_of_ne_nil (splitOn_ne_nil c cs)
      rw [hp] at ih ⊢
      simpa [List.intercalate, List.intersperse] using ih
    next h =>
      obtain ⟨piece, pieces, hp⟩ := List.exists_cons_of_ne_nil (splitOn_ne_nil sep cs)
      rw [hp] at ih ⊢
      cases pieces <;> simp_all [List.intercalate, List.intersperse]

/-- No separator is left in a piece. -/
theorem notMem_of_mem_splitOn {sep : Char} {cs piece : List Char} (h : piece ∈ splitOn sep cs) :
    sep ∉ piece := by
  induction cs generalizing piece with
  | nil =>
    obtain rfl := List.mem_singleton.mp h
    exact List.not_mem_nil
  | cons c cs ih =>
    obtain ⟨first, rest, hp⟩ := List.exists_cons_of_ne_nil (splitOn_ne_nil sep cs)
    rw [splitOn, hp] at h
    rw [hp] at ih
    split at h
    next =>
      obtain rfl | h := List.mem_cons.mp h
      · exact List.not_mem_nil
      · exact ih h
    next hc =>
      obtain rfl | h := List.mem_cons.mp h
      · exact List.not_mem_cons_of_ne_of_not_mem (Ne.symm hc) (ih List.mem_cons_self)
      · exact ih (List.mem_cons_of_mem _ h)

/-- Splitting at the last separator takes the text apart there, and none follows. -/
theorem splitLast_eq_some {sep : Char} {cs before after : List Char}
    (h : splitLast sep cs = some (before, after)) :
    cs = before ++ sep :: after ∧ sep ∉ after := by
  induction cs generalizing before with
  | nil => simp [splitLast] at h
  | cons c cs ih =>
    rw [splitLast] at h
    split at h
    next b a hs =>
      obtain ⟨rfl, rfl⟩ : c :: b = before ∧ a = after := by simpa using h
      obtain ⟨rfl, hn⟩ := ih hs
      exact ⟨rfl, hn⟩
    next hs =>
      split at h
      next hc =>
        subst hc
        obtain ⟨rfl, rfl⟩ : [] = before ∧ cs = after := by simpa using h
        refine ⟨rfl, fun hm => ?_⟩
        clear h ih
        induction cs with
        | nil => simp at hm
        | cons d ds ihd =>
          rw [splitLast] at hs
          split at hs
          · simp at hs
          next hds =>
            split at hs
            · simp at hs
            · exact ihd hds (by simp_all)
      next => simp at h

/-- There is nothing to split exactly when the separator does not occur. -/
theorem splitLast_eq_none_iff {sep : Char} {cs : List Char} :
    splitLast sep cs = none ↔ sep ∉ cs := by
  induction cs with
  | nil => simp [splitLast]
  | cons c cs ih =>
    rw [splitLast]
    cases hs : splitLast sep cs with
    | some p =>
      have hm : sep ∈ cs := by
        rcases Decidable.em (sep ∈ cs) with h | h
        · exact h
        · simp [ih.mpr h] at hs
      simp [hm]
    | none =>
      have hn := ih.mp hs
      simp only [List.mem_cons, not_or]
      split
      · simp_all
      · simp_all [eq_comm]

/-! ### Blanks -/

/-- The blank characters: those with the Unicode property White_Space. -/
def isBlank (c : Char) : Bool :=
  (0x09 ≤ c.toNat && c.toNat ≤ 0x0D) || c.toNat == 0x20 || c.toNat == 0x85 || c.toNat == 0xA0
    || c.toNat == 0x1680 || (0x2000 ≤ c.toNat && c.toNat ≤ 0x200A)
    || c.toNat == 0x2028 || c.toNat == 0x2029 || c.toNat == 0x202F || c.toNat == 0x205F
    || c.toNat == 0x3000

/-- The text without the blanks it starts with. -/
def trimStart (cs : List Char) : List Char :=
  cs.dropWhile isBlank

/-- The text without the blanks it ends with. -/
def trimEnd (cs : List Char) : List Char :=
  (trimStart cs.reverse).reverse

/-- The text without blanks at either end. -/
def trim (cs : List Char) : List Char :=
  trimEnd (trimStart cs)

end Ambient.Text

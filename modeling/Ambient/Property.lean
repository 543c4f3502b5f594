/-
Property names of accessor methods.

* `ofAccessor` — the property that a method name of the form `getX`, `setX` or `isX` stands for:
  `name` for `getName` and `URL` for `getURL`;
* `Tells`, `ofAccessor_eq_some_iff` — what such a name looks like.
-/
import Ambient.Text.Split

namespace Ambient.Property

/-- The words an accessor's name may start with. -/
def accessorWords : List String :=
  ["get", "set", "is"]

/-- The name with its first letter in lower case, unless an acronym opens it. -/
def decapitalize : List Char → List Char
  | c :: d :: rest => if d.isUpper then c :: d :: rest else c.toLower :: d :: rest
  | [c] => [c.toLower]
  | [] => []

/-- The property an accessor of this name reads or writes: what follows `get`, `set` or `is`, if
that starts with a capital letter of ASCII. -/
def ofAccessor (method : String) : Option String := do
  let rest : List Char ←
    accessorWords.findSome? fun word => Text.afterPrefix word.toList method.toList
  match rest with
  | c :: _ => if c.isUpper then some (String.ofList (decapitalize rest)) else none
  | [] => none

/-- The method is named after the property: its name is `get`, `set` or `is` and then the
property with a capital letter, which stays one before another. -/
def Tells (method property : String) : Prop :=
  ∃ word ∈ ["get", "set", "is"], ∃ (first : Char) (rest : List Char),
    method = word ++ String.ofList (first :: rest) ∧ first.isUpper ∧
    property = String.ofList
      ((if rest.head?.any Char.isUpper then first else first.toLower) :: rest)

theorem decapitalize_cons (first : Char) (rest : List Char) :
    decapitalize (first :: rest) =
      (if rest.head?.any Char.isUpper then first else first.toLower) :: rest := by
  cases rest with
  | nil => rfl
  | cons second rest =>
    rw [decapitalize]
    cases h : second.isUpper <;> simp [h]

/-- No two of the words begin the same name. -/
theorem findSome?_accessorWords_eq_some_iff {method rest : List Char} :
    (accessorWords.findSome? fun word => Text.afterPrefix word.toList method) = some rest ↔
      ∃ word ∈ accessorWords, method = word.toList ++ rest := by
  constructor
  · intro h
    obtain ⟨word, hword, hrest⟩ := List.exists_of_findSome?_eq_some h
    exact ⟨word, hword, Text.afterPrefix_eq_some_iff.mp hrest⟩
  · rintro ⟨word, hword, rfl⟩
    simp only [accessorWords, List.mem_cons, List.not_mem_nil, or_false] at hword
    obtain rfl | rfl | rfl := hword <;> rfl

theorem ofAccessor_eq_some_iff {method property : String} :
    ofAccessor method = some property ↔ Tells method property := by
  have hmethod : ∀ {word : String} {rest : List Char},
      method = word ++ String.ofList rest ↔ method.toList = word.toList ++ rest := by
    intro word rest
    rw [← String.toList_inj, String.toList_append, String.toList_ofList]
  unfold ofAccessor
  rw [Option.bind_eq_bind, Option.bind_eq_some_iff]
  simp only [findSome?_accessorWords_eq_some_iff]
  constructor
  · rintro ⟨rest, ⟨word, hword, hrest⟩, h⟩
    split at h
    next first rest =>
      split at h
      next hupper =>
        obtain rfl := Option.some.inj h
        exact ⟨word, hword, first, rest, hmethod.mpr hrest, hupper, by rw [decapitalize_cons]⟩
      next => cases h
    next => cases h
  · rintro ⟨word, hword, first, rest, hrest, hupper, rfl⟩
    refine ⟨first :: rest, ⟨word, hword, hmethod.mp hrest⟩, ?_⟩
    dsimp only
    rw [if_pos hupper, decapitalize_cons]

end Ambient.Property

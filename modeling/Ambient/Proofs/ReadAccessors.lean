/-
Accessors as they are read.

A record that is declared as a getter or a setter is read as an accessor if there is a
property for it: the one that it names, or the one that its name tells.  Nothing is lost
by this, since the accessor can be made the plain method again.

* `HasProperty`, `property?_eq_some_iff` — the property of a record;
* `toMethod_of_hasProperty` — with a property a record is the plain method but for its
  kind and its name, and without one it is the plain method;
* `toMethod_accessor` — how accessors are read, and that it can be undone.
-/
import Ambient.Proofs.PlainForm

namespace Ambient.Record.Method

variable {m : Record.Method} {kind : MethodKind} {owner property : String}

/-- The property of an accessor: the one that the record names, or else the one that the
method's name tells. -/
def HasProperty (m : Record.Method) (property : String) : Prop :=
  m.property = some property ∨ m.property = none ∧ Property.Tells m.name property

theorem property?_eq_some_iff : m.property? = some property ↔ m.HasProperty property := by
  unfold property? HasProperty
  cases m.property with
  | none => simp [Property.ofAccessor_eq_some_iff]
  | some explicit => simp

/-- With a property a record is the plain method but for its kind and its name. -/
theorem toMethod_of_hasProperty (hk : kind ∈ [.getter, .setter]) (h : m.HasProperty property) :
    m.toMethod kind owner = { m.toMethod .plain owner with kind, name := property } := by
  have hp := property?_eq_some_iff.mpr h
  obtain rfl | rfl := List.mem_pair.mp hk <;> simp [toMethod, declaredAs, hp]

/-- Without a property it is the plain method. -/
theorem toMethod_of_property?_eq_none (hk : kind ∈ [.getter, .setter]) (h : m.property? = none) :
    m.toMethod kind owner = m.toMethod .plain owner := by
  obtain rfl | rfl := List.mem_pair.mp hk <;> simp [toMethod, declaredAs, h]

/-- A record is read as an accessor if it has a property, and then it goes by that. -/
theorem toMethod_cases (m : Record.Method) (owner : String) (hk : kind ∈ [.getter, .setter]) :
    (∃ property, m.HasProperty property ∧
      m.toMethod kind owner = { m.toMethod .plain owner with kind, name := property }) ∨
    (∀ property, ¬m.HasProperty property) ∧ m.toMethod kind owner = m.toMethod .plain owner := by
  cases hp : m.property? with
  | some property =>
    have h := property?_eq_some_iff.mp hp
    exact .inl ⟨property, h, toMethod_of_hasProperty hk h⟩
  | none =>
    refine .inr ⟨fun property h => ?_, toMethod_of_property?_eq_none hk hp⟩
    rw [property?_eq_some_iff.mpr h] at hp
    cases hp

/-- **Reading accessors can be undone**: a record that is declared as a getter or a setter
is made the plain method that it is without accessors.  It is read as an accessor exactly
if it has a property, and then it is called like that and keeps the name of the method. -/
theorem toMethod_accessor (m : Record.Method) (owner : String) (kind : MethodKind)
    (hk : kind ∈ [.getter, .setter]) :
    (m.toMethod kind owner).toPlain = m.toMethod .plain owner ∧
    ((m.toMethod kind owner).isAccessor ↔ ∃ property, m.HasProperty property) ∧
    ((m.toMethod kind owner).isAccessor →
      (m.toMethod kind owner).kind = kind ∧
      m.HasProperty (m.toMethod kind owner).name ∧
      (m.toMethod kind owner).methodName = m.name) := by
  have hplain : kind.toPlain = .plain := by
    obtain rfl | rfl := List.mem_pair.mp hk <;> rfl
  refine ⟨by rw [← toMethod_toPlain, hplain], ?_⟩
  obtain ⟨property, h, heq⟩ | ⟨hnone, heq⟩ := m.toMethod_cases owner hk
  · have hkept : (m.toMethod kind owner).isAccessor := by
      rw [heq]
      simpa [Ambient.Method.isAccessor] using hk
    refine ⟨iff_of_true hkept ⟨property, h⟩, fun _ => ?_⟩
    rw [heq]
    exact ⟨rfl, h, rfl⟩
  · have hnot : ¬(m.toMethod kind owner).isAccessor := by
      rw [heq]
      exact Bool.false_ne_true
    exact ⟨iff_of_false hnot (not_exists.mpr hnone), fun h => absurd h hnot⟩

/-- A generic method that is called like a getter, and has an acronym in its name. -/
def urlRecord : Record.Method where
  name := "getURL"
  property := none
  returnType := some (.reference "java.lang.String" [])
  params := []
  typeParams := [⟨"T", none⟩]
  doc := some "Where it is found."
  isPublic := true
  isStatic := false
  isOverride := true

theorem toMethod_accessor_url :
    MethodKind.getter ∈ [MethodKind.getter, .setter] ∧
    (urlRecord.toMethod .getter "a.Page").toPlain = urlRecord.toMethod .plain "a.Page" ∧
    (urlRecord.toMethod .getter "a.Page").name = "URL" ∧
    (urlRecord.toMethod .getter "a.Page").methodName = "getURL" := by
  have hk : MethodKind.getter ∈ [MethodKind.getter, .setter] := by decide
  obtain ⟨hplain, -, hkept⟩ := toMethod_accessor urlRecord "a.Page" .getter hk
  have haccessor : (urlRecord.toMethod .getter "a.Page").isAccessor := by decide +kernel
  exact ⟨hk, hplain, by decide +kernel, (hkept haccessor).2.2⟩

end Ambient.Record.Method

/-
The members that are declared in the end.

* `Definition.visibleMembers` — the public members without the excluded methods;
* `inheritDocs` — documentation from overridden methods of interfaces;
* `dropDuplicates` — each signature once;
* `revertConflicts` — accessors that share their name with anything but their counterpart become
  plain methods again;
* `Definition.cleanMembers` — all of this, without nested definitions, which are declared
  elsewhere.
-/
import Ambient.Definition.Basic
import Ambient.Hierarchy.Ancestors
import Ambient.Text.Split

namespace Ambient

/-- The public members, without the methods whose name is excluded. -/
def Definition.visibleMembers (excluded : List String) (d : Definition) : List Member :=
  d.members.filter fun m =>
    m.isPublic && match m with | .method m => m.name ∉ excluded | _ => true

/-! ### Documentation from interfaces -/

/-- Documentation longer than this many bytes stays, even where it defers to an interface. -/
def valuableLength : Nat := 50

/-- Whether a method's documentation says more than to look elsewhere. -/
def Method.hasValuableDoc (m : Method) : Bool :=
  match m.doc with
  | none => false
  | some doc =>
    !(Text.trim doc.toList).isEmpty &&
      (valuableLength < doc.utf8ByteSize || !Text.includes "\x7b@inheritDoc\x7d".toList doc.toList)

/-- The first definition at or above a type that declares a member with this name. -/
def Catalogue.declaring? (c : Catalogue) (type : TypeExpr) (name : String) : Option Definition :=
  (c.lineage [type]).find? (·.hasMember name)

/-- The method that a method overrides in one of the interfaces, or in what these inherit from. -/
def Catalogue.overridden? (c : Catalogue) (interfaces : List TypeExpr) (m : Method) :
    Option Method :=
  interfaces.findSome? fun type => do
    (← c.declaring? type m.name).methods.find? fun other =>
      other.kind = m.kind && other.name = m.name

/-- The method with the documentation of the one it overrides, if it has none of value. -/
def Method.inheritDoc (c : Catalogue) (interfaces : List TypeExpr) (m : Method) : Method :=
  if m.isStatic || !m.isOverride || m.hasValuableDoc then m
  else
    match (c.overridden? interfaces m).bind (·.doc) with
    | some doc => { m with doc := some doc }
    | none => m

/-- Documents overriding methods from the interfaces of the definition. -/
def Definition.inheritDocs (c : Catalogue) (d : Definition) (members : List Member) : List Member :=
  members.map (Member.mapMethod (·.inheritDoc c d.interfaces))

/-! ### Duplicates and conflicts -/

/-- The members without the methods whose signature is known or has occurred before. -/
def dropKnown : (known : List Signature) → List Member → List Member
  | _, [] => []
  | known, .method m :: ms =>
    if m.signature ∈ known then dropKnown known ms
    else .method m :: dropKnown (m.signature :: known) ms
  | known, m :: ms => m :: dropKnown known ms

/-- The members without the methods whose signature has occurred before. -/
def dropDuplicates (members : List Member) : List Member :=
  dropKnown [] members

/-- Whether two members are the getter and the setter of one property. -/
def isAccessorPair (a b : Member) : Bool :=
  match a, b with
  | .method a, .method b =>
    (a.kind = .getter && b.kind = .setter) || (a.kind = .setter && b.kind = .getter)
  | _, _ => false

/-- Whether members of one name can be declared beside each other as they are. -/
def isCompatible : List Member → Bool
  | [_] => true
  | [a, b] => isAccessorPair a b
  | _ => false

/-- Makes plain methods of the accessors that share their name with anything but their
counterpart. -/
def revertConflicts (members : List Member) : List Member :=
  members.map fun m =>
    if isCompatible (members.filter (·.name = m.name)) then m else m.mapMethod Method.toPlain

/-- Whether the member is a nested definition. -/
def Member.isNested : Member → Bool
  | .nested _ => true
  | _ => false

/-- The given members after all steps, without nested definitions. -/
def Definition.settle (c : Catalogue) (d : Definition) (members : List Member) : List Member :=
  (revertConflicts (dropDuplicates (d.inheritDocs c members))).filter (!·.isNested)

/-- The members that are declared in the body of the definition. -/
def Definition.cleanMembers (c : Catalogue) (excluded : List String) (d : Definition) :
    List Member :=
  d.settle c (d.visibleMembers excluded)

end Ambient

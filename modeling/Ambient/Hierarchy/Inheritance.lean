/-
What a definition takes from its ancestors.

* `Definition.withOverloads` — copies of inherited overloads of the methods it declares;
* `Definition.flattened` — copies of all inherited methods, the edges to known ancestors cut;
* `Definition.withForcedDocs` — documentation for methods that have none;
* `selectNew` — the methods that may be copied: the first of each new signature.

A method is copied only if the whitelist allows it for the receiving type. Constructors are not
inherited. The ancestors are read from the catalogue, which stays as it is.
-/
import Ambient.Definition.Basic
import Ambient.Hierarchy.Ancestors
import Ambient.Pattern.Whitelist
import Ambient.Text.Split

namespace Ambient

/-- The methods a subtype can declare again. -/
def Definition.inheritable (d : Definition) : List Method :=
  d.methods.filter (·.kind ≠ .constructor)

/-- The methods inherited by a definition, the nearest ancestor's first. -/
def Catalogue.inheritedMethods (c : Catalogue) (d : Definition) : List Method :=
  (c.ancestors d).flatMap Definition.inheritable

/-- The methods that are allowed and whose signature is not known yet, each signature once. -/
def selectNew (isAllowed : Method → Bool) : (known : List Signature) → List Method → List Method
  | _, [] => []
  | known, m :: ms =>
    -- A method that is not allowed leaves its signature free for a later one.
    if m.signature ∈ known then selectNew isAllowed known ms
    else if isAllowed m then m :: selectNew isAllowed (m.signature :: known) ms
    else selectNew isAllowed known ms

/-- The definition with copies of some methods, as far as they are allowed and new to it. -/
def Definition.withCopies (w : Whitelist) (candidates : List Method) (d : Definition) :
    Definition :=
  let copies := selectNew (fun m => w.allows d.name m.name) d.signatures candidates
  { d with members := d.members ++ copies.map .method }

/-- Copies inherited overloads of the names that the definition declares. -/
def Definition.withOverloads (c : Catalogue) (w : Whitelist) (d : Definition) : Definition :=
  d.withCopies w ((c.inheritedMethods d).filter fun m => d.hasMember m.name)

/-- Copies all inherited methods and cuts the edges to the ancestors that were found. -/
def Definition.flattened (c : Catalogue) (w : Whitelist) (d : Definition) : Definition :=
  -- A parent without a definition keeps its edge.
  let inlined := (c.ancestors d).map Definition.name
  let outside (ts : List TypeExpr) := ts.filter fun t => t.name ∉ inlined
  { d.withCopies w (c.inheritedMethods d) with
    superTypes := outside d.superTypes
    interfaces := outside d.interfaces }

/-! ### Documentation -/

/-- Whether a method's documentation is absent or only defers to the ancestor's. -/
def Method.lacksDoc (m : Method) : Bool :=
  match m.doc with
  | none => true
  | some doc => doc.isEmpty || Text.trim doc.toList = "@inheritDoc".toList

/-- The method with the documentation of the first of some methods that can give it any. -/
def Method.withDocOf (m : Method) (inherited : List Method) : Method :=
  inherited.foldl
    (fun m other => if m.lacksDoc && m.signature = other.signature then { m with doc := other.doc }
      else m)
    m

/-- Documents the methods of a definition from those of its ancestors. -/
def Definition.withForcedDocs (c : Catalogue) (d : Definition) : Definition :=
  let inherited := (c.ancestors d).flatMap Definition.methods
  { d with members := d.members.map (Member.mapMethod (·.withDocOf inherited)) }

end Ambient

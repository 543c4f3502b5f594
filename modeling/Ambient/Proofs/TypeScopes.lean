/-
The type parameters that copies mention.

A copied method is the ancestor's method as it is declared there.  The arguments with
which the ancestor is referred to are not put in the place of its parameters, so these
are mentioned by the copy wherever they were:

* `Method.IsScoped` — the parameters of its ancestor that a copy mentions are parameters
  of the method itself or of the definition that takes it;
* `copySources_withReferences` — the arguments of references have no part in what is
  copied;
* `Definition.TakesVerbatim`, `Definition.copies_verbatim` — what is copied, and when all
  copies are well scoped.
-/
import Ambient.Proofs.CopySources
import Ambient.Proofs.Images

namespace Ambient

/-- The names that a method's parameters and its result are written with. -/
def Method.typeNames (m : Method) : List String :=
  Catalogue.simpleNames ((m.returnType :: m.params.map Parameter.type).flatMap TypeExpr.mentions)

def Method.typeParameters (m : Method) : List String :=
  m.typeParams.map TypeExpr.name

def Definition.typeParameters (d : Definition) : List String :=
  d.type.args.map TypeExpr.name

/-- The type parameters of `a` that the method mentions are its own or those of `d`. -/
def Method.IsScoped (m : Method) (a d : Definition) : Prop :=
  ∀ n ∈ a.typeParameters, n ∈ m.typeNames → n ∈ m.typeParameters ∨ n ∈ d.typeParameters

instance (m : Method) (a d : Definition) : Decidable (m.IsScoped a d) :=
  inferInstanceAs (Decidable (∀ n ∈ _, _))

/-- Changes of definitions that leave their methods leave what is chosen. -/
theorem selectFrom_map {f : Definition → Definition} (hf : ∀ a, (f a).methods = a.methods)
    (mayTake : String → Bool) (known : List Signature) (as : List Definition) :
    selectFrom mayTake known (as.map f) = (selectFrom mayTake known as).map (Prod.map f id) := by
  induction as generalizing known with
  | nil => rfl
  | cons a as ih =>
    have hinheritable : (f a).inheritable = a.inheritable := congrArg (List.filter _) (hf a)
    rw [List.map_cons, selectFrom, selectFrom, hinheritable, ih, List.map_append, List.map_map]
    rfl

namespace Definition

variable {c : Catalogue} {d : Definition} {mayTake : String → Bool}

/-- The definition with its references changed. -/
def withReferences (q : TypeExpr → TypeExpr) (d : Definition) : Definition :=
  { d with superTypes := d.superTypes.map q, interfaces := d.interfaces.map q }

/-- References that keep their names, whatever becomes of their arguments, leave what is
copied. -/
theorem copySources_withReferences {q : TypeExpr → TypeExpr} (hq : ∀ t, (q t).name = t.name)
    (c : Catalogue) (mayTake : String → Bool) (d : Definition) :
    (d.withReferences q).copySources (c.map (withReferences q)) mayTake =
      (d.copySources c mayTake).map (Prod.map (withReferences q) id) := by
  have hparents : ∀ e : Definition, (e.withReferences q).parents = e.parents.map q :=
    fun e => (List.map_append).symm
  have hancestors : (c.map (withReferences q)).ancestors (d.withReferences q) =
      (c.ancestors d).map (withReferences q) := by
    rw [Catalogue.ancestors, hparents]
    exact Catalogue.visit_heritage_image (f := withReferences q) (fun _ => rfl) c hq hparents
      d.parents [d.name]
  rw [copySources, hancestors]
  exact selectFrom_map (f := withReferences q) (fun _ => rfl) _ _ _

/-- All copies are well scoped if the methods are that are lent for them. -/
theorem isScoped_copySources_iff (c : Catalogue) (mayTake : String → Bool) (d : Definition) :
    (∀ a m, (a, m) ∈ d.copySources c mayTake → m.IsScoped a d) ↔
      ∀ a m, d.Lends c a m → mayTake m.name → m.signature ∉ d.signatures → m.IsScoped a d := by
  constructor
  · intro h a m hlends hname hnew
    exact h a m (mem_copySources_iff.mpr ⟨hname, hnew, hlends⟩)
  · intro h a m hm
    obtain ⟨hname, hnew, hlends⟩ := mem_copySources_iff.mp hm
    exact h a m hlends hname hnew

/-- The copies that the definition takes of methods of some names are the very methods that
ancestors lend, and well scoped exactly if these are. -/
structure TakesVerbatim (c : Catalogue) (d : Definition) (mayTake : String → Bool) : Prop where
  mem_iff : ∀ a m, (a, m) ∈ d.copySources c mayTake ↔
    mayTake m.name ∧ m.signature ∉ d.signatures ∧ d.Lends c a m
  inherited : ∀ a m, d.Lends c a m → c.Inherits d a ∧ m ∈ a.methods ∧ m.kind ≠ .constructor
  isScoped_iff : (∀ a m, (a, m) ∈ d.copySources c mayTake → m.IsScoped a d) ↔
    ∀ a m, d.Lends c a m → mayTake m.name → m.signature ∉ d.signatures → m.IsScoped a d
  /-- The arguments of references make no difference. -/
  withReferences : ∀ q : TypeExpr → TypeExpr, (∀ t, (q t).name = t.name) →
    (d.withReferences q).copySources (c.map (withReferences q)) mayTake =
      (d.copySources c mayTake).map (Prod.map (withReferences q) id)

/-- **Copies are made as they stand.**  Both passes that copy methods add the very methods
that ancestors declare: the first of each signature to be copied, whatever the arguments
of references are.  So all copies are well scoped exactly if these methods are, as they are
declared. -/
theorem copies_verbatim (c : Catalogue) (w : Whitelist) (d : Definition) :
    (d.withOverloads c w).members =
      d.members ++ (d.copySources c (d.takesOverloads w)).map (.method ·.2) ∧
    (d.flattened c w).members =
      d.members ++ (d.copySources c (w.allows d.name)).map (.method ·.2) ∧
    ∀ mayTake : String → Bool, d.TakesVerbatim c mayTake := by
  refine ⟨members_withOverloads, members_flattened, fun mayTake => ⟨?_, ?_, ?_, ?_⟩⟩
  · exact fun a m => mem_copySources_iff
  · exact fun a m h => h.inherits
  · exact isScoped_copySources_iff c mayTake d
  · exact fun q hq => copySources_withReferences hq c mayTake d

/-- A method that takes what the type parameter of its owner stands for. -/
def putting : Method :=
  .plain "put" .void [⟨"x", .simple "T", false⟩] "a.Parcel"

def parcel : Definition :=
  { empty .classType (.generic (.simple "a.Parcel") [.simple "T"]) with
    members := [.method putting] }

/-- A class without parameters, which is a parcel of text. -/
def letter : Definition :=
  { empty .classType (.simple "a.Letter") with
    superTypes := [.generic (.simple "a.Parcel") [.string]]
    members := [.method (.plain "put" .void [] "a.Letter")] }

def post : Catalogue := { roots := [letter, parcel] }

def postman : Whitelist := (Whitelist.ofList ["a\\.Letter\\.put"]).toOption.getD {}

theorem postman_allows : postman.allows "a.Letter" "put" = true := by decide +kernel

theorem takesOverloads_letter : letter.takesOverloads postman "put" = true :=
  Bool.and_eq_true_iff.mpr ⟨postman_allows, by decide⟩

theorem ancestors_letter : post.ancestors letter = [parcel] := by cbv

theorem lends_parcel : letter.Lends post parcel putting :=
  ⟨[], [], ancestors_letter, by decide, rfl⟩

/-- The letter takes a copy that mentions the parameter of the parcel, which it lacks. -/
theorem not_isScoped_letter :
    Catalogue.ofList [letter, parcel] = .ok post ∧
    (parcel, putting) ∈ letter.copySources post (letter.takesOverloads postman) ∧
    (parcel, putting) ∈ letter.copySources post (postman.allows letter.name) ∧
    ¬putting.IsScoped parcel letter := by
  refine ⟨rfl, mem_copySources_iff.mpr ⟨takesOverloads_letter, by decide, lends_parcel⟩,
    mem_copySources_iff.mpr ⟨postman_allows, by decide, lends_parcel⟩, ?_⟩
  decide

end Definition

end Ambient

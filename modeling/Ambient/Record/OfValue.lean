/-
Records read from JSON values.

`ofValue depth k v` reads a record of kind `k` from the value `v`, in which arrays and objects nest
at most `depth` deep. Each level of nesting is one step of the recursion: `Within` is what can be
read from the parts of an array or an object, and `Within.around` makes from it what can be read
one level further out.
-/
import Ambient.Json.Value
import Ambient.Record.Format

namespace Ambient.Record

open Json (Fault Value)

/-- How the parts of an array or an object are read. -/
structure Within where
  one : (k : Kind) → Value → Except Fault k.Carrier
  many : (k : Kind) → Value → Except Fault (List k.Carrier)
  /-- A record that is no kind of its own, given what is expected in place of another value. -/
  record : {α : Type} → Json.Expected → RecordFormat α → Value → Except Fault α

/-- A value of the wrong type. -/
def wrongType {α : Type} (v : Value) (expected : Json.Expected) : Except Fault α :=
  .error (.wrongType v.found expected)

namespace Slot

/-- The text of a string. -/
def textOfValue : Value → Except Fault String
  | .string s => .ok s
  | v => wrongType v .string

/-- Reads a slot from a value. -/
def ofValue (within : Within) : (s : Slot) → Value → Except Fault s.Carrier
  | .text, v => textOfValue v
  | .flag, .boolean b => .ok b
  | .flag, v => wrongType v .boolean
  | .count, .number (.integer i) =>
    if 0 ≤ i ∧ i < countLimit then .ok i.toNat
    else .error (.wrongValue (.number (.integer i)) .count)
  | .count, v => wrongType v .count
  | .one k, v => within.one k v
  | .many k, v => within.many k v
  | .textOrNull, .null => .ok none
  | .textOrNull, v => some <$> textOfValue v
  | .oneOrNull _, .null => .ok none
  | .oneOrNull k, v => some <$> within.one k v

end Slot

/-! ### Fields -/

/-- The fields of a record written as an array, of which `index` have been read, and the elements
left over. -/
def fieldsOfElements (within : Within) (expected : Json.Expected) (index : Nat) :
    (fields : List FieldFormat) → List Value → Except Fault (Tuple fields × List Value)
  | [], vs => .ok ((), vs)
  | f :: fs, [] => do
    match f.default? with
    | none => .error (.wrongLength index expected)
    | some value =>
      let (values, vs) ← fieldsOfElements within expected (index + 1) fs []
      return ((value, values), vs)
  | f :: fs, v :: vs => do
    let value ← f.slot.ofValue within v
    let (values, vs) ← fieldsOfElements within expected (index + 1) fs vs
    return ((value, values), vs)

/-- The fields found among the entries of an object; other entries are passed over. -/
def fieldsOfEntries (within : Within) {fields : List FieldFormat} :
    Partial fields → List (String × Value) → Except Fault (Partial fields)
  | known, [] => .ok known
  | known, (key, v) :: es => do
    match ← known.read (fun s => do return (← s.ofValue within v, ())) key with
    | some (known, ()) => fieldsOfEntries within known es
    | none => fieldsOfEntries within known es

/-- A record from the elements of an array. -/
def RecordFormat.ofElements {α : Type} (within : Within) (r : RecordFormat α) (vs : List Value) :
    Except Fault α := do
  let total := r.fields.length
  let (values, left) ← fieldsOfElements within (.fields r.title total) 0 r.fields vs
  if left.isEmpty then return r.build values
  else throw (.wrongLength (total + left.length) (.elements total))

/-- A record from the entries of an object. -/
def RecordFormat.ofEntries {α : Type} (within : Within) (r : RecordFormat α)
    (es : List (String × Value)) : Except Fault α := do
  let known ← fieldsOfEntries within (Partial.none r.fields) es
  return r.build (← known.complete)

/-! ### Alternatives -/

/-- The alternative with this name. -/
def findAlternative {α : Type} (alternatives : List (String × α)) (name : String) :
    Except Fault α :=
  match alternatives.lookup name with
  | some a => .ok a
  | none => .error (.unknownAlternative name (alternatives.map Prod.fst))

/-- The alternatives by name. -/
def Alternative.byName {α : Type} (alternatives : List (Alternative α)) :
    List (String × Contents α) :=
  alternatives.map fun a => (a.name, a.contents)

/-- An alternative given by its name alone. -/
def Contents.ofName {α : Type} : Contents α → Except Fault α
  | .nothing value => .ok value
  | .slot _ _ => .error (.wrongType .nameAlone .contents)
  | .record _ => .error (.wrongType .nameAlone .recordContents)

/-- An alternative given with its contents. -/
def Contents.ofValue {α : Type} (within : Within) : Contents α → Value → Except Fault α
  | .nothing value, .null => .ok value
  | .nothing value, .object [] => .ok value
  | .nothing _, v => wrongType v .unit
  | .slot s build, v => build <$> s.ofValue within v
  | .record r, v => within.record .recordContents r v

/-- The record with this tag, or with this number among them. -/
def recordOfTag {α : Type} (records : List (String × RecordFormat α)) :
    Value → Except Fault (RecordFormat α)
  | .string tag => findAlternative records tag
  | .number (.integer i) =>
    if i < 0 then wrongType (.number (.integer i)) .alternative
    else
      match records[i.toNat]? with
      | some (_, r) => .ok r
      | none =>
        .error (.wrongValue (.number (.integer i)) (.alternativeIndex records.length))
  | v => wrongType v .alternative

/-- The tagged record among the entries, and the entries without the tag. -/
def untag {α : Type} (key : String) (records : List (String × RecordFormat α)) :
    Option (RecordFormat α) → List (String × Value) →
      Except Fault (Option (RecordFormat α) × List (String × Value))
  | tag, [] => .ok (tag, [])
  | tag, (k, v) :: es =>
    if k = key then
      match tag with
      | some _ => .error (.duplicateField key)
      | none => do untag key records (some (← recordOfTag records v)) es
    else do
      let (tag, es) ← untag key records tag es
      return (tag, (k, v) :: es)

/-! ### Records -/

/-- Reads what stands inside brackets, if they may open. -/
def inBrackets {α : Type} (inside : Option Within) (read : Within → Except Fault α) :
    Except Fault α :=
  match inside with
  | some w => read w
  | none => .error .tooDeep

/-- A record from an array or an object. -/
def RecordFormat.ofValue {α : Type} (inside : Option Within) (expected : Json.Expected)
    (r : RecordFormat α) : Value → Except Fault α
  | .array vs => inBrackets inside fun w => r.ofElements w vs
  | .object es => inBrackets inside fun w => r.ofEntries w es
  | v => wrongType v expected

/-- A value in any format. -/
def Format.ofValue {α : Type} (inside : Option Within) : Format α → Value → Except Fault α
  | .record r, v => r.ofValue inside (.record r.title) v
  | .choice alternatives, .string name => do
    (← findAlternative (Alternative.byName alternatives) name).ofName
  | .choice alternatives, .object es =>
    inBrackets inside fun w =>
      match es with
      | [(name, v)] => do (← findAlternative (Alternative.byName alternatives) name).ofValue w v
      | _ => .error (.wrongValue .object .oneEntry)
  | .choice _, v => wrongType v .choice
  | .tagged _ key records, .array vs =>
    inBrackets inside fun w =>
      match vs with
      | [] => .error (.missingField key)
      | tag :: vs => do (← recordOfTag records tag).ofElements w vs
  | .tagged _ key records, .object es =>
    inBrackets inside fun w => do
      match ← untag key records none es with
      | (some r, es) => r.ofEntries w es
      | (none, _) => .error (.missingField key)
  | .tagged title _ _, v => wrongType v (.tagged title)

/-- How values are read one level further out. -/
def Within.around (inside : Option Within) : Within where
  one k v := k.format.ofValue inside v
  many k v :=
    match v with
    | .array vs => inBrackets inside fun w => vs.mapM (w.one k)
    | v => wrongType v .array
  record expected r v := r.ofValue inside expected v

/-- How values are read in which brackets nest at most `depth` deep. -/
def Within.nested : (depth : Nat) → Within
  | 0 => .around none
  | depth + 1 => .around (some (nested depth))

/-- A record of kind `k` from a value in which brackets nest at most `depth` deep. -/
def ofValue (depth : Nat) (k : Kind) (v : Value) : Except Fault k.Carrier :=
  (Within.nested depth).one k v

end Ambient.Record

/-
Records read from JSON texts.

`ofText k text` reads a record of kind `k` from a whole text. Faults come in the order of the text:
the first thing in it that is wrong is the one reported, be it the notation or what is written. The
one exception are tagged records, which are read as values first and understood when their end is
reached.

Brackets nest at most `maxDepth` deep. As for values, each level is one step of the recursion.
-/
import Ambient.Record.OfValue
import Ambient.Record.Resolve

namespace Ambient.Record

open Json (Fault Reader Value skipBlank)

/-- How deep brackets may nest. -/
def maxDepth : Nat := 127

/-- How the parts of an array or an object are read. -/
structure Inside where
  one : (k : Kind) → Reader k.Carrier
  many : (k : Kind) → Reader (List k.Carrier)
  /-- A record that is no kind of its own. -/
  record : {α : Type} → RecordFormat α → Reader α

namespace Slot

/-- Reads `null` as nothing and all else by `read`. -/
def readOrNull {α : Type} (read : Reader α) : Reader (Option α) := fun cs =>
  match skipBlank cs with
  | 'n' :: cs => do return (none, ← Json.word "ull".toList cs)
  | cs => do
    let (a, cs) ← read cs
    return (some a, cs)

/-- Reads a string, given what is expected in place of another value. -/
def readString (expected : Json.Expected) : Reader String := fun cs =>
  match skipBlank cs with
  | [] => .error .valueEnds
  | '"' :: cs => Json.string cs
  | cs => .error (Json.mismatch expected cs)

/-- Reads a truth value. -/
def readFlag : Reader Bool := fun cs =>
  match skipBlank cs with
  | [] => .error .valueEnds
  | 't' :: cs => do return (true, ← Json.word "rue".toList cs)
  | 'f' :: cs => do return (false, ← Json.word "alse".toList cs)
  | cs => .error (Json.mismatch .boolean cs)

/-- Reads a number below the limit. -/
def readCount : Reader Nat := fun cs =>
  match skipBlank cs with
  | [] => .error .valueEnds
  | c :: cs =>
    if c = '-' || c.isDigit then do
      match ← Json.number (c :: cs) with
      | (.integer i, rest) =>
        if 0 ≤ i ∧ i < countLimit then return (i.toNat, rest)
        else throw (.wrongValue (.number (.integer i)) .count)
      | (n, _) => throw (.wrongType (.number n) .count)
    else .error (Json.mismatch .count (c :: cs))

/-- Reads a slot off the front of a text. -/
def read (inside : Inside) : (s : Slot) → Reader s.Carrier
  | .text => readString .string
  | .flag => readFlag
  | .count => readCount
  | .one k => inside.one k
  | .many k => inside.many k
  | .textOrNull => readOrNull (readString .string)
  | .oneOrNull k => readOrNull (inside.one k)

end Slot

/-! ### Fields -/

/-- The fields of a record written as an array, of which `index` have been read. -/
def readElements (inside : Inside) (expected : Json.Expected) (index : Nat) :
    (fields : List FieldFormat) → Reader (Tuple fields)
  | [], cs => .ok ((), cs)
  | f :: fs, cs => do
    let (value, cs) ←
      match ← Json.nextElement (index == 0) cs, f.default? with
      | some cs, _ => f.slot.read inside cs
      | none, some value => pure (value, cs)
      | none, none => throw (.wrongLength index expected)
    let (values, cs) ← readElements inside expected (index + 1) fs cs
    return ((value, values), cs)

/-- Reads one entry of a record written as an object; unknown entries are passed over. -/
def readEntry (inside : Inside) {fields : List FieldFormat} (key : String)
    (known : Partial fields) : Reader (Partial fields) := fun cs => do
  match ← known.read (fun s => do s.read inside (← Json.colon cs)) key with
  | some (known, cs) => return (known, cs)
  | none => return (known, ← Json.skip (← Json.colon cs))

/-- A record, after its opening bracket. -/
def RecordFormat.readElements {α : Type} (inside : Inside) (r : RecordFormat α) : Reader α :=
  fun cs => do
    let expected := Json.Expected.fields r.title r.fields.length
    let (values, cs) ← Record.readElements inside expected 0 r.fields cs
    return (r.build values, ← Json.closeArray cs)

/-- A record, after its opening brace. -/
def RecordFormat.readEntries {α : Type} (inside : Inside) (r : RecordFormat α) : Reader α :=
  fun cs => do
    let (known, cs) ←
      Json.entries (readEntry inside) (cs.length + 1) true (Partial.none r.fields) cs
    return (r.build (← known.complete), ← Json.closeObject cs)

/-! ### Alternatives -/

/-- The contents of an alternative. -/
def Contents.read {α : Type} (inside : Inside) : Contents α → Reader α
  | .nothing value => fun cs =>
    match skipBlank cs with
    | [] => .error .valueEnds
    | 'n' :: cs => do return (value, ← Json.word "ull".toList cs)
    | cs => .error (Json.mismatch .unit cs)
  | .slot s build => fun cs => do
    let (value, cs) ← s.read inside cs
    return (build value, cs)
  | .record r => inside.record r

/-- An alternative with its contents, after the opening brace. -/
def readAlternative {α : Type} (inside : Inside) (alternatives : List (Alternative α)) : Reader α :=
  fun cs => do
    let (name, cs) ← Slot.readString .alternative cs
    let contents ← findAlternative (Alternative.byName alternatives) name
    let (a, cs) ← contents.read inside (← Json.colon cs)
    match skipBlank cs with
    | '}' :: cs => return (a, cs)
    | [] => throw .objectEnds
    | _ :: _ => throw .valueExpected

/-! ### Tagged records -/

/-- The record that a tag names. -/
def readTag {α : Type} (records : List (String × RecordFormat α)) : Reader (RecordFormat α) :=
  fun cs => do
    let (tag, cs) ← Slot.readString .alternative cs
    return (← findAlternative records tag, cs)

/-- Reads one entry of a tagged record. -/
def readTaggedEntry {α : Type} (depth : Nat) (tagKey : String)
    (records : List (String × RecordFormat α)) (key : String) :
    Option (RecordFormat α) × List (String × Value) →
      Reader (Option (RecordFormat α) × List (String × Value))
  | (tag, es), cs => do
    if key = tagKey then
      if tag.isSome then throw (.duplicateField tagKey)
      let (r, cs) ← readTag records (← Json.colon cs)
      return ((some r, es), cs)
    else
      let (v, cs) ← Value.read depth (← Json.colon cs)
      return ((tag, (key, v) :: es), cs)

/-- A tagged record, after its opening brace. Within it brackets nest `depth` deep. -/
def readTaggedEntries {α : Type} (depth : Nat) (key : String)
    (records : List (String × RecordFormat α)) : Reader α := fun cs => do
  let ((tag, es), cs) ←
    Json.entries (readTaggedEntry depth key records) (cs.length + 1) true (none, []) cs
  match tag with
  | none => throw (.missingField key)
  | some r =>
    let cs ← Json.closeObject cs
    return (← r.ofEntries (Within.nested depth) es.reverse, cs)

/-- A tagged record, after its opening bracket. Within it brackets nest `depth` deep. -/
def readTaggedElements {α : Type} (depth : Nat) (key : String)
    (records : List (String × RecordFormat α)) : Reader α := fun cs => do
  match ← Json.nextElement true cs with
  | none => throw (.missingField key)
  | some cs =>
    let (r, cs) ← readTag records cs
    let (vs, cs) ← Json.elements (Value.read depth) (cs.length + 1) false cs
    let cs ← Json.closeArray cs
    return (← r.ofElements (Within.nested depth) vs, cs)

/-! ### Records -/

/-- What may stand inside the next pair of brackets, and how deep these may nest. -/
structure Room where
  depth : Nat
  inside : Inside

/-- Reads what stands inside brackets, if they may open. -/
def Room.enter {α : Type} (room : Option Room) (read : Room → Reader α) : Reader α :=
  match room with
  | some room => read room
  | none => fun _ => .error .tooDeep

/-- A record, in either of its forms. -/
def RecordFormat.read {α : Type} (room : Option Room) (r : RecordFormat α) : Reader α := fun cs =>
  match skipBlank cs with
  | [] => .error .valueEnds
  | '[' :: cs => Room.enter room (fun room => r.readElements room.inside) cs
  | '{' :: cs => Room.enter room (fun room => r.readEntries room.inside) cs
  | cs => .error (Json.mismatch (.record r.title) cs)

/-- Whatever has the format. -/
def Format.read {α : Type} (room : Option Room) : Format α → Reader α
  | .record r => r.read room
  | .choice alternatives => fun cs =>
    match skipBlank cs with
    | [] => .error .valueEnds
    | '{' :: cs => Room.enter room (fun room => readAlternative room.inside alternatives) cs
    | '"' :: cs => do
      let (name, cs) ← Json.string cs
      let contents ← findAlternative (Alternative.byName alternatives) name
      return (← contents.ofName, cs)
    | _ :: _ => .error .valueExpected
  | .tagged title key records => fun cs =>
    match skipBlank cs with
    | [] => .error .valueEnds
    | '[' :: cs => Room.enter room (fun room => readTaggedElements room.depth key records) cs
    | '{' :: cs => Room.enter room (fun room => readTaggedEntries room.depth key records) cs
    | cs => .error (Json.mismatch (.tagged title) cs)

/-- How a text is read one level further out. -/
def Inside.around (room : Option Room) : Inside where
  one k := k.format.read room
  many k := fun cs =>
    match skipBlank cs with
    | [] => .error .valueEnds
    | '[' :: cs => Room.enter room (fun room => Json.array (room.inside.one k)) cs
    | cs => .error (Json.mismatch .array cs)
  record r := r.read room

/-- How a text is read in which brackets nest at most `depth` deep. -/
def Inside.nested : (depth : Nat) → Inside
  | 0 => .around none
  | depth + 1 => .around (some ⟨depth, nested depth⟩)

/-- A record of kind `k` from a whole text. -/
def ofText (k : Kind) (text : String) : Except Fault k.Carrier := do
  let (a, rest) ← (Inside.nested maxDepth).one k text.toList
  if (skipBlank rest).isEmpty then return a
  else throw .trailingCharacters

/-- The definitions that a text resolves to. -/
def parseModel (text : String) : Except Fault (List Definition) := do
  return (← ofText .model text).definitions

end Ambient.Record

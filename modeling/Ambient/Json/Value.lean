/-
JSON values, as they are kept when what they mean is known only later.

* `Value` — a value; objects keep their entries in order, repeated keys included;
* `Value.read` — a value off the front of a text, nested no deeper than a given depth;
* `skip` — passes over a value of any depth without looking into it.
-/
import Ambient.Json.Scan

namespace Ambient.Json

/-- A JSON value. -/
inductive Value where
  | null
  | boolean (b : Bool)
  | number (n : Number)
  | string (s : String)
  | array (elements : List Value)
  | object (entries : List (String × Value))
  deriving Inhabited, Repr

namespace Value

/-- How a value is named in a fault. -/
def found : Value → Found
  | .null => .null
  | .boolean b => .boolean b
  | .number n => .number n
  | .string s => .string s
  | .array _ => .array
  | .object _ => .object

/-- A value off the front of a text. Arrays and objects nest at most `depth` deep. -/
def read (depth : Nat) : Reader Value := fun cs =>
  match skipBlank cs with
  | [] => .error .valueEnds
  | 'n' :: cs => do return (.null, ← word "ull".toList cs)
  | 't' :: cs => do return (.boolean true, ← word "rue".toList cs)
  | 'f' :: cs => do return (.boolean false, ← word "alse".toList cs)
  | '"' :: cs => do
    let (s, cs) ← Json.string cs
    return (.string s, cs)
  | '[' :: cs =>
    match depth with
    | 0 => .error .tooDeep
    | depth + 1 => do
      let (vs, cs) ← Json.array (read depth) cs
      return (.array vs, cs)
  | '{' :: cs =>
    match depth with
    | 0 => .error .tooDeep
    | depth + 1 => do
      let entry (key : String) (es : List (String × Value)) (cs : List Char) := do
        let (v, cs) ← read depth (← colon cs)
        return ((key, v) :: es, cs)
      let (es, cs) ← Json.entries entry (cs.length + 1) true [] cs
      return (.object es.reverse, ← closeObject cs)
  | c :: cs =>
    if c = '-' || c.isDigit then do
      let (n, cs) ← Json.number (c :: cs)
      return (.number n, cs)
    else .error .valueExpected
termination_by structural depth

end Value

/-! ### Passing over values -/

/-- Whether an open bracket is that of an object. -/
abbrev IsObject := Bool

/-- Passes over a number. -/
def skipNumber (cs : List Char) : Except Fault (List Char) :=
  match Numeral.scan cs with
  | .error _ => .error .invalidNumber
  | .ok (_, rest) => .ok rest

/-- Passes over the key and the colon of an entry. -/
def skipKey (cs : List Char) : Except Fault (List Char) :=
  match skipBlank cs with
  | [] => .error .objectEnds
  | '"' :: cs => do colon (← skipString cs)
  | _ :: _ => .error .keyExpected

mutual

/-- Passes over a value and then over the rest of the brackets it stands in, the innermost of which
comes first; the text has less than `limit` parts. -/
def skipValue : (limit : Nat) → List IsObject → List Char → Except Fault (List Char)
  | 0, _, _ => .error .valueEnds
  | limit + 1, open_, cs =>
    match skipBlank cs with
    | [] => .error .valueEnds
    | 'n' :: cs => do skipRest limit open_ true (← word "ull".toList cs)
    | 't' :: cs => do skipRest limit open_ true (← word "rue".toList cs)
    | 'f' :: cs => do skipRest limit open_ true (← word "alse".toList cs)
    | '"' :: cs => do skipRest limit open_ true (← skipString cs)
    | '[' :: cs => skipRest limit (false :: open_) false cs
    | '{' :: cs => skipRest limit (true :: open_) false cs
    | c :: cs =>
      if c = '-' || c.isDigit then do skipRest limit open_ true (← skipNumber (c :: cs))
      else .error .valueExpected

/-- Passes over the rest of the open brackets, after a value or at the start of the innermost. -/
def skipRest : (limit : Nat) → List IsObject → (afterValue : Bool) → List Char →
    Except Fault (List Char)
  | _, [], _, cs => .ok cs
  | 0, _, _, _ => .error .valueEnds
  | limit + 1, isObject :: open_, afterValue, cs =>
    match skipBlank cs with
    | [] => .error (if isObject then .objectEnds else .arrayEnds)
    | c :: rest =>
      if c = (if isObject then '}' else ']') then skipRest limit open_ true rest
      else if afterValue && c != ',' then
        .error (if isObject then .objectCommaExpected else .arrayCommaExpected)
      else do
        let cs := if afterValue then rest else c :: rest
        let cs ← if isObject then skipKey cs else .ok cs
        skipValue limit (isObject :: open_) cs

end

/-- Passes over a value of any depth. Its brackets, strings and words have to be in order, but its
numbers may be of any size and its strings may hold any escapes. -/
def skip (cs : List Char) : Except Fault (List Char) :=
  skipValue (2 * cs.length + 2) [] cs

end Ambient.Json

/-
The notation of JSON, taken off the front of a text piece by piece.

* `word`, `string`, `number` — the scalars;
* `nextElement`, `closeArray` and `nextKey`, `colon`, `closeObject` — what stands between the parts
  of an array or an object;
* `array`, `entries` — a whole array or object, given how to read an element or an entry;
* `mismatch` — the fault of a value that is not of the expected kind.

Each returns what it read with the rest of the text, or the first fault. `escape_shorter` says that
an escape is never empty, so that a string ends.
-/
import Ambient.Json.Fault

namespace Ambient.Json

/-- Takes something off the front of a text. -/
abbrev Reader (α : Type) := List Char → Except Fault (α × List Char)

/-- The blanks between the parts of a text. -/
def isBlank (c : Char) : Bool :=
  c = ' ' || c = '\n' || c = '\t' || c = '\r'

/-- The text from its first part on. -/
def skipBlank (cs : List Char) : List Char :=
  cs.dropWhile isBlank

/-- Passes over the rest of a word such as `null`. -/
def word : (expected : List Char) → List Char → Except Fault (List Char)
  | [], cs => .ok cs
  | _ :: _, [] => .error .valueEnds
  | e :: expected, c :: cs => if e = c then word expected cs else .error .wordExpected

/-- Takes a number off the front of a text. -/
def number : Reader Number := fun cs =>
  match Numeral.scan cs with
  | .error .ended => .error .valueEnds
  | .error .invalid => .error .invalidNumber
  | .ok (n, rest) =>
    match n.value with
    | some v => .ok (v, rest)
    | none => .error .numberOutOfRange

/-! ### Strings -/

/-- The value of a hexadecimal digit. -/
def hexDigit? (c : Char) : Option Nat :=
  if c.isDigit then some (c.toNat - '0'.toNat)
  else if 'a' ≤ c ∧ c ≤ 'f' then some (c.toNat - 'a'.toNat + 10)
  else if 'A' ≤ c ∧ c ≤ 'F' then some (c.toNat - 'A'.toNat + 10)
  else none

/-- Four hexadecimal digits. A text of less than four bytes ends too early for them. -/
def hexCode : Reader Nat
  | a :: b :: c :: d :: rest =>
    match hexDigit? a, hexDigit? b, hexDigit? c, hexDigit? d with
    | some a, some b, some c, some d => .ok (((a * 16 + b) * 16 + c) * 16 + d, rest)
    | _, _, _, _ => .error .invalidEscape
  | few => .error (if (String.ofList few).utf8ByteSize < 4 then .stringEnds else .invalidEscape)

/-- What a backslash with this letter stands for. -/
def escapedChar? : Char → Option Char
  | '"' => some '"'
  | '\\' => some '\\'
  | '/' => some '/'
  | 'b' => some '\x08'
  | 'f' => some '\x0c'
  | 'n' => some '\n'
  | 'r' => some '\r'
  | 't' => some '\t'
  | _ => none

/-- Whether the number is the second half of a surrogate pair. -/
def isTrailing (n : Nat) : Bool :=
  0xDC00 ≤ n && n ≤ 0xDFFF

/-- Whether the number is the first half of a surrogate pair. -/
def isLeading (n : Nat) : Bool :=
  0xD800 ≤ n && n ≤ 0xDBFF

/-- The number of an escape that follows another one directly. -/
def secondHalf (cs : List Char) : Except Fault (Nat × List Char) :=
  if cs.take 2 = ['\\', 'u'] then hexCode (cs.drop 2)
  else if cs = [] ∨ cs = ['\\'] then .error .stringEnds
  else .error .surrogateExpected

/-- The character of an escape by number, after the `u`; two numbers make a surrogate pair. -/
def escapeByNumber : Reader Char := fun cs =>
  match hexCode cs with
  | .error e => .error e
  | .ok (n, rest) =>
    if isTrailing n then .error .loneSurrogate
    else if isLeading n then
      match secondHalf rest with
      | .error e => .error e
      | .ok (m, rest) =>
        if isTrailing m then
          .ok (Char.ofNat (0x10000 + (n - 0xD800) * 0x400 + (m - 0xDC00)), rest)
        else .error .loneSurrogate
    else .ok (Char.ofNat n, rest)

/-- The character of an escape, after the backslash. -/
def escape : Reader Char
  | [] => .error .stringEnds
  | c :: rest =>
    if c = 'u' then escapeByNumber rest
    else
      match escapedChar? c with
      | some d => .ok (d, rest)
      | none => .error .invalidEscape

/-- Passes over an escape, whatever character it stands for. -/
def skipEscape : List Char → Except Fault (List Char)
  | [] => .error .stringEnds
  | c :: rest =>
    if c = 'u' then
      match hexCode rest with
      | .ok (_, rest) => .ok rest
      | .error e => .error e
    else if (escapedChar? c).isSome then .ok rest
    else .error .invalidEscape

theorem hexCode_shorter {cs rest : List Char} {n : Nat} (h : hexCode cs = .ok (n, rest)) :
    rest.length < cs.length := by
  unfold hexCode at h
  split at h
  · split at h
    · cases h
      simp only [List.length_cons]
      omega
    · cases h
  · cases h

theorem secondHalf_shorter {cs rest : List Char} {n : Nat} (h : secondHalf cs = .ok (n, rest)) :
    rest.length < cs.length := by
  unfold secondHalf at h
  split at h
  · have := hexCode_shorter h
    simp only [List.length_drop] at this
    omega
  · split at h <;> cases h

theorem escapeByNumber_shorter {cs rest : List Char} {c : Char}
    (h : escapeByNumber cs = .ok (c, rest)) : rest.length < cs.length := by
  unfold escapeByNumber at h
  cases hn : hexCode cs with
  | error e => simp [hn] at h
  | ok p =>
    obtain ⟨n, r⟩ := p
    have hr := hexCode_shorter hn
    simp only [hn] at h
    split at h
    · cases h
    split at h
    · split at h
      · cases h
      next m r' hm =>
        have hr' := secondHalf_shorter hm
        split at h
        · obtain ⟨-, rfl⟩ := Prod.mk.inj (Except.ok.inj h)
          omega
        · cases h
    · obtain ⟨-, rfl⟩ := Prod.mk.inj (Except.ok.inj h)
      exact hr

/-- An escape takes at least one character. -/
theorem escape_shorter {cs rest : List Char} {c : Char} (h : escape cs = .ok (c, rest)) :
    rest.length < cs.length := by
  cases cs with
  | nil => cases h
  | cons d r =>
    rw [escape] at h
    split at h
    · have := escapeByNumber_shorter h
      simp only [List.length_cons]
      omega
    · split at h
      · cases h
        simp
      · cases h

theorem skipEscape_shorter {cs rest : List Char} (h : skipEscape cs = .ok rest) :
    rest.length < cs.length := by
  cases cs with
  | nil => cases h
  | cons d r =>
    rw [skipEscape] at h
    split at h
    · split at h
      next r' hn =>
        have := hexCode_shorter hn
        cases h
        simp only [List.length_cons]
        omega
      next => cases h
    · split at h
      · cases h
        simp
      · cases h

/-- The characters of a string up to its closing mark. -/
def stringBody : Reader (List Char)
  | [] => .error .stringEnds
  | c :: cs =>
    if c = '"' then .ok ([], cs)
    else if c = '\\' then
      match h : escape cs with
      | .error e => .error e
      | .ok (d, rest) =>
        have := escape_shorter h
        match stringBody rest with
        | .error e => .error e
        | .ok (body, rest) => .ok (d :: body, rest)
    else if c.toNat < 0x20 then .error .controlCharacter
    else
      match stringBody cs with
      | .error e => .error e
      | .ok (body, rest) => .ok (c :: body, rest)
termination_by cs => cs.length

/-- A string, after its opening mark. -/
def string : Reader String := fun cs => do
  let (body, rest) ← stringBody cs
  return (String.ofList body, rest)

/-- Passes over a string, after its opening mark. -/
def skipString : List Char → Except Fault (List Char)
  | [] => .error .stringEnds
  | c :: cs =>
    if c = '"' then .ok cs
    else if c = '\\' then
      match h : skipEscape cs with
      | .error e => .error e
      | .ok rest =>
        have := skipEscape_shorter h
        skipString rest
    else if c.toNat < 0x20 then .error .controlCharacter
    else skipString cs
termination_by cs => cs.length

/-! ### Arrays -/

/-- The text from the next element of an array on; none where the array closes. -/
def nextElement (isFirst : Bool) (cs : List Char) : Except Fault (Option (List Char)) :=
  match skipBlank cs with
  | [] => .error .arrayEnds
  | ']' :: _ => .ok none
  | c :: rest =>
    if isFirst then .ok (some (c :: rest))
    else if c = ',' then
      match skipBlank rest with
      | [] => .error .valueEnds
      | ']' :: _ => .error .trailingComma
      | rest => .ok (some rest)
    else .error .arrayCommaExpected

/-- Passes over the end of an array. -/
def closeArray (cs : List Char) : Except Fault (List Char) :=
  match skipBlank cs with
  | [] => .error .arrayEnds
  | ']' :: rest => .ok rest
  | ',' :: rest =>
    match skipBlank rest with
    | ']' :: _ => .error .trailingComma
    | _ => .error .trailingCharacters
  | _ :: _ => .error .trailingCharacters

/-- The elements of an array up to its end, of which the text has less than `limit`. -/
def elements {α : Type} (element : Reader α) : (limit : Nat) → (isFirst : Bool) → Reader (List α)
  | 0, _, _ => .error .arrayEnds
  | limit + 1, isFirst, cs => do
    match ← nextElement isFirst cs with
    | none => return ([], cs)
    | some cs =>
      let (a, cs) ← element cs
      let (as, cs) ← elements element limit false cs
      return (a :: as, cs)

/-- An array, after its opening bracket. -/
def array {α : Type} (element : Reader α) : Reader (List α) := fun cs => do
  let (as, cs) ← elements element (cs.length + 1) true cs
  let cs ← closeArray cs
  return (as, cs)

/-! ### Objects -/

/-- The next key of an object; none where the object closes. -/
def nextKey (isFirst : Bool) (cs : List Char) : Except Fault (Option (String × List Char)) :=
  match skipBlank cs with
  | [] => .error .objectEnds
  | '}' :: _ => .ok none
  | c :: rest =>
    if isFirst then
      if c = '"' then some <$> string rest else .error .keyExpected
    else if c = ',' then
      match skipBlank rest with
      | [] => .error .valueEnds
      | '"' :: rest => some <$> string rest
      | '}' :: _ => .error .trailingComma
      | _ :: _ => .error .keyExpected
    else .error .objectCommaExpected

/-- Passes over the colon after a key. -/
def colon (cs : List Char) : Except Fault (List Char) :=
  match skipBlank cs with
  | [] => .error .objectEnds
  | ':' :: rest => .ok rest
  | _ :: _ => .error .colonExpected

/-- Passes over the end of an object. -/
def closeObject (cs : List Char) : Except Fault (List Char) :=
  match skipBlank cs with
  | [] => .error .objectEnds
  | '}' :: rest => .ok rest
  | ',' :: _ => .error .trailingComma
  | _ :: _ => .error .trailingCharacters

/-- Goes through the entries of an object up to its end, of which the text has less than `limit`.
The entry reader is called after the key. -/
def entries {σ : Type} (entry : String → σ → Reader σ) :
    (limit : Nat) → (isFirst : Bool) → σ → Reader σ
  | 0, _, _, _ => .error .objectEnds
  | limit + 1, isFirst, s, cs => do
    match ← nextKey isFirst cs with
    | none => return (s, cs)
    | some (key, cs) =>
      let (s, cs) ← entry key s cs
      entries entry limit false s cs

/-! ### Unexpected values -/

/-- The fault of a value that is not of the expected kind, for a text that is not blank. Faults of
the value itself come first. -/
def mismatch (expected : Expected) (cs : List Char) : Fault :=
  match cs with
  | 'n' :: rest => ofWord "ull" rest .null
  | 't' :: rest => ofWord "rue" rest (.boolean true)
  | 'f' :: rest => ofWord "alse" rest (.boolean false)
  | '"' :: rest =>
    match string rest with
    | .error e => e
    | .ok (s, _) => .wrongType (.string s) expected
  | '[' :: _ => .wrongType .array expected
  | '{' :: _ => .wrongType .object expected
  | c :: _ =>
    if c = '-' || c.isDigit then
      match number cs with
      | .error e => e
      | .ok (n, _) => .wrongType (.number n) expected
    else .valueExpected
  | [] => .valueExpected
where
  /-- The fault of a word that stands for a value. -/
  ofWord (expectedWord : String) (rest : List Char) (found : Found) : Fault :=
    match word expectedWord.toList rest with
    | .error e => e
    | .ok _ => .wrongType found expected

end Ambient.Json

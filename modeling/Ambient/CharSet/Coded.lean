/-
Sets of characters and properties of characters written down as text.

* `CharSet.ofCodes` — a set given by its ranges: `41-5A 5F 61-7A`;
* `Run.ofLines` — a property of all characters given by runs from the first character on, each with
  the value they share and their number: `Cc:20 Zs Po:3 Sc Po:3`.

Numbers are hexadecimal. A text is a list of lines, and a line holds whole words.
-/
import Ambient.CharSet.Basic
import Ambient.Text.Split

namespace Ambient

/-- The value of a hexadecimal digit; letters are capitals. -/
def hexDigitValue (c : Char) : Nat :=
  if c.toNat < 'A'.toNat then c.toNat - '0'.toNat else c.toNat - 'A'.toNat + 10

/-- The value of a hexadecimal number. -/
def hexValue (cs : List Char) : Nat :=
  cs.foldl (fun n c => n * 16 + hexDigitValue c) 0

/-- The words of several lines. -/
def wordsOf (lines : List String) : List (List Char) :=
  lines.flatMap fun line => Text.splitOn ' ' line.toList

namespace CharSet

/-- The range that a word gives: two numbers with a dash between them, or one. -/
def rangeOfWord (word : List Char) : Nat × Nat :=
  match Text.splitOn '-' word with
  | [first, last] => (hexValue first, hexValue last)
  | _ => (hexValue word, hexValue word)

/-- The set that is given by its ranges in ascending order. -/
def ofCodes (lines : List String) : CharSet :=
  ⟨(wordsOf lines).map rangeOfWord⟩

end CharSet

/-- Characters that follow each other and share a value of a property. -/
structure Run where
  value : String
  first : Nat
  last : Nat
  deriving Repr

namespace Run

/-- The runs that words give, the first of which begins at a code. A word without a number is a run
of one character. -/
def ofWords (first : Nat) : List (List Char) → List Run
  | [] => []
  | word :: words =>
    match Text.splitOn ':' word with
    | [value, size] =>
      let size := hexValue size
      ⟨String.ofList value, first, first + size - 1⟩ :: ofWords (first + size) words
    | _ => ⟨String.ofList word, first, first⟩ :: ofWords (first + 1) words

/-- The runs that some lines give, from the first character on. -/
def ofLines (lines : List String) : List Run :=
  ofWords 0 (wordsOf lines)

end Run

/-- The characters for which a property has one of some values. -/
def CharSet.ofRuns (hasValue : String → Bool) (runs : List Run) : CharSet :=
  ⟨join ((runs.filter fun r => hasValue r.value).map fun r => (r.first, r.last))⟩

end Ambient

/-
Regular expressions in a simplified form.

* `Look` — conditions on what stands around a position;
* `Regex` — the expressions, of which equal ones are written in one way more often than patterns;
* `Regex.charsOf`, `Regex.repeatOf`, `Regex.concatOf`, `Regex.altOf` — the constructors that
  simplify: literals that follow each other become one, alternatives that are single characters
  become a set, and what all alternatives begin with is taken out of them.

The form matters for how large the automaton of an expression is, not for what it matches.
-/
import Ambient.CharSet.Words
import Ambient.Pattern.Expr

namespace Ambient.Pattern

/-- A condition on what stands before and after a position. Those on words know the word characters
of all scripts, or of ASCII alone. -/
inductive Look where
  | textStart
  | textEnd
  | lineStart
  | lineEnd
  /-- The start of a line that may end in a carriage return. -/
  | crlfStart
  | crlfEnd
  /-- Exactly one side is a word character. -/
  | boundary (isUnicode : Bool)
  /-- Both sides are word characters, or neither. -/
  | noBoundary (isUnicode : Bool)
  | wordStart (isUnicode : Bool)
  | wordEnd (isUnicode : Bool)
  | halfStart (isUnicode : Bool)
  | halfEnd (isUnicode : Bool)
  deriving DecidableEq, Repr

/-- A regular expression. -/
inductive Regex where
  | empty
  /-- Some characters one after the other. -/
  | literal (cs : List Char)
  /-- One character of a set, which was written with bytes or with characters. -/
  | chars (set : CharSet) (isBytes : Bool)
  | look (l : Look)
  | repeat (r : Regex) (b : Bounds)
  /-- An expression whose match is kept. -/
  | capture (r : Regex)
  | concat (rs : List Regex)
  | alt (rs : List Regex)
  deriving Repr

namespace Regex

/-- What matches nowhere. -/
def fail : Regex := .chars .empty true

/-! ### Measures -/

mutual

/-- Whether the expression can only match the empty text. -/
def isZeroWidth : Regex → Bool
  | .empty => true
  | .literal _ => false
  | .chars _ _ => false
  | .look _ => true
  | .repeat r _ => r.isZeroWidth
  | .capture r => r.isZeroWidth
  | .concat rs => allZeroWidth rs
  | .alt rs => allZeroWidth rs

/-- The same for all of several expressions. -/
def allZeroWidth : List Regex → Bool
  | [] => true
  | r :: rs => r.isZeroWidth && allZeroWidth rs

end

mutual

/-- How many characters a match has at least; none if some part matches nowhere. -/
def minLength? : Regex → Option Nat
  | .empty => some 0
  | .literal cs => some cs.length
  | .chars set _ => if set.isEmpty then none else some 1
  | .look _ => some 0
  | .repeat r b => r.minLength?.map (· * b.min)
  | .capture r => r.minLength?
  | .concat rs => totalLength? rs
  | .alt [] => none
  | .alt (r :: rs) => leastLength? r.minLength? rs

/-- The same for several expressions one after the other. -/
def totalLength? : List Regex → Option Nat
  | [] => some 0
  | r :: rs => do return (← r.minLength?) + (← totalLength? rs)

/-- The least of a length and those of several expressions. -/
def leastLength? (least? : Option Nat) : List Regex → Option Nat
  | [] => least?
  | r :: rs => do leastLength? (some (min (← least?) (← r.minLength?))) rs

end

mutual

/-- How many expressions it is made of. -/
def count : Regex → Nat
  | .repeat r _ => r.count + 1
  | .capture r => r.count + 1
  | .concat rs => countAll rs + 1
  | .alt rs => countAll rs + 1
  | _ => 1

/-- How many expressions several are made of. -/
def countAll : List Regex → Nat
  | [] => 0
  | r :: rs => r.count + countAll rs

end

mutual

/-- Whether two expressions are the same. What is kept of their matches is never the same. -/
def isSame : Regex → Regex → Bool
  | .empty, .empty => true
  | .literal cs, .literal ds => cs == ds
  | .chars a isBytes, .chars b isBytes' => a == b && isBytes == isBytes'
  | .look l, .look l' => l == l'
  | .repeat r b, .repeat r' b' => r.isSame r' && b == b'
  | .concat rs, .concat rs' => areSame rs rs'
  | .alt rs, .alt rs' => areSame rs rs'
  | _, _ => false

/-- Whether two lists hold the same expressions. -/
def areSame : List Regex → List Regex → Bool
  | [], [] => true
  | r :: rs, r' :: rs' => r.isSame r' && areSame rs rs'
  | _, _ => false

end

/-! ### Simplifying constructors -/

/-- One character of a set. -/
def charsOf (set : CharSet) (isBytes : Bool) : Regex :=
  if set.isEmpty then fail
  else
    match set.onlyMember? with
    | some n => .literal [Char.ofNat n]
    | none => .chars set isBytes

/-- A repetition. What can only match the empty text is not repeated. -/
def repeatOf (r : Regex) (b : Bounds) : Regex :=
  let b :=
    if r.isZeroWidth then { b with min := min b.min 1, max := some (min (b.max.getD 1) 1) } else b
  if b.min = 0 ∧ b.max = some 0 then .empty
  else if b.min = 1 ∧ b.max = some 1 then r
  else .repeat r b

/-- The parts of an expression that stand one after the other. -/
def parts : Regex → List Regex
  | .empty => []
  | .concat rs => rs
  | r => [r]

/-- Makes one literal of those that follow each other. -/
def joinLiterals : List Regex → List Regex
  | [] => []
  | .literal cs :: rs =>
    match joinLiterals rs with
    | .literal ds :: rs => .literal (cs ++ ds) :: rs
    | rs => .literal cs :: rs
  | r :: rs => r :: joinLiterals rs

/-- Several expressions one after the other. -/
def concatOf (rs : List Regex) : Regex :=
  match joinLiterals (rs.flatMap parts) with
  | [] => .empty
  | [r] => r
  | rs => .concat rs

/-- The alternatives of an expression. -/
def alternatives : Regex → List Regex
  | .alt rs => rs
  | r => [r]

/-- The character of an expression that is a single one. -/
def char? : Regex → Option Char
  | .literal [c] => some c
  | _ => none

/-- The set of an expression that is one. -/
def set? : Regex → Option CharSet
  | .chars set _ => some set
  | _ => none

/-- What two lists of expressions begin with. -/
def commonStart : List Regex → List Regex → List Regex
  | r :: rs, r' :: rs' => if r.isSame r' then r :: commonStart rs rs' else []
  | _, _ => []

/-- What all alternatives begin with, and how they go on, if each has several parts and they have
something in common. -/
def liftStart? (rs : List Regex) : Option (List Regex × List Regex) :=
  let rows := rs.map fun r => match r with | .concat parts => parts | _ => []
  match rows with
  | [] => none
  | row :: rows =>
    let start := rows.foldl commonStart row
    if start.isEmpty then none
    else some (start, (row :: rows).map fun row => concatOf (row.drop start.length))

/-- One of several expressions, which are made of less than `limit` expressions. -/
def altWithin (limit : Nat) (rs : List Regex) : Regex :=
  match rs.flatMap alternatives with
  | [] => fail
  | [r] => r
  | rs =>
    match rs.mapM char?, rs.mapM set? with
    | some cs, _ => charsOf (.unions (cs.map fun c => .single c.toNat)) false
    | none, some sets => charsOf (.unions sets) false
    | none, none =>
      match limit, liftStart? rs with
      | limit + 1, some (start, rests) => concatOf (start ++ [altWithin limit rests])
      | _, _ => .alt rs

/-- One of several expressions. -/
def altOf (rs : List Regex) : Regex :=
  altWithin (countAll rs) rs

end Regex

end Ambient.Pattern

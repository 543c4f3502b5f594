/-
Where a regular expression matches.

* `Place` — a position in a text, with the character before it and the text after it;
* `Positions` — a set of positions, as the bits of a number;
* `Spans` — for each position the positions at which a match that begins there may end;
* `Regex.spans` — the spans of an expression, made of those of its parts;
* `Regex.ends` — the positions at which a match may end that begins at one of some positions;
* `Regex.occursIn` — whether the expression matches anywhere in a text.

Nothing is tried out: the time is polynomial in the lengths of expression and text. The spans are
needed for what is repeated, since each of its matches is followed by others; elsewhere the ends are
enough.
-/
import Ambient.Pattern.Regex

namespace Ambient.Pattern

/-! ### Places -/

/-- A position in a text. -/
structure Place where
  index : Nat
  before : Option Char
  rest : List Char

/-- All positions from one on. -/
def Place.allFrom (index : Nat) (before : Option Char) : List Char → List Place
  | [] => [⟨index, before, []⟩]
  | c :: cs => ⟨index, before, c :: cs⟩ :: allFrom (index + 1) (some c) cs

/-- All positions in a text. -/
def Place.all (text : String) : List Place :=
  allFrom 0 none text.toList

/-- Whether the condition holds between two characters, of which there is none at the ends. -/
def Look.holds (before after : Option Char) : Look → Bool
  | .textStart => before.isNone
  | .textEnd => after.isNone
  | .lineStart => before.isNone || before = some '\n'
  | .lineEnd => after.isNone || after = some '\n'
  | .crlfStart => before.isNone || before = some '\n' || (before = some '\r' && after != some '\n')
  | .crlfEnd => after.isNone || after = some '\r' || (after = some '\n' && before != some '\r')
  | .boundary isUnicode => inWord isUnicode before != inWord isUnicode after
  | .noBoundary isUnicode => inWord isUnicode before == inWord isUnicode after
  | .wordStart isUnicode => !inWord isUnicode before && inWord isUnicode after
  | .wordEnd isUnicode => inWord isUnicode before && !inWord isUnicode after
  | .halfStart isUnicode => !inWord isUnicode before
  | .halfEnd isUnicode => !inWord isUnicode after
where
  /-- Whether there is a character and it is a word character. -/
  inWord (isUnicode : Bool) (c : Option Char) : Bool :=
    c.any fun c => (if isUnicode then CharSet.wordChars else CharSet.asciiWordChars).mem c.toNat

namespace Place

/-- Whether the character that follows is in a set. -/
def isBefore (set : CharSet) (p : Place) : Bool :=
  p.rest.head?.any fun c => set.mem c.toNat

/-- Whether some characters follow. -/
def isBeforeAll (cs : List Char) (p : Place) : Bool :=
  cs.isPrefixOf p.rest

/-- Whether a condition holds. -/
def satisfies (l : Look) (p : Place) : Bool :=
  l.holds p.before p.rest.head?

end Place

/-! ### Sets of positions -/

/-- A set of positions, as the bits of a number. -/
abbrev Positions := Nat

/-- The positions of the places that pass a test. -/
def Positions.ofPlaces (test : Place → Bool) (places : List Place) : Positions :=
  places.foldr (fun p later => 2 * later + if test p then 1 else 0) 0

/-- For each position of a text, the ends of the matches that begin there. -/
abbrev Spans := List Positions

namespace Spans

/-- What some positions lead to, of which the first is that of the first row. -/
def imageOf (starts : Positions) : Spans → Positions
  | [] => 0
  | ends :: rows =>
    if starts = 0 then 0
    else if starts % 2 = 1 then ends ||| imageOf (starts / 2) rows else imageOf (starts / 2) rows

/-- The same, with 32 positions at a time, for less than `limit` times as many: the numbers stay
small. -/
def imageWithin (starts : Positions) : (limit : Nat) → Spans → Positions
  | 0, _ => 0
  | limit + 1, rows =>
    if starts = 0 then 0
    else
      imageOf (starts % 4294967296) rows
        ||| imageWithin (starts / 4294967296) limit (rows.drop 32)

/-- What some positions lead to. -/
def image (rows : Spans) (starts : Positions) : Positions :=
  imageWithin starts (rows.length / 32 + 1) rows

/-- The spans between places that pass a test and those so many characters further on. -/
def ofPlaces (test : Place → Bool) (length : Nat) (places : List Place) : Spans :=
  places.map fun p => if test p then 1 <<< (p.index + length) else 0

/-- One match after the other. -/
def andThen (a b : Spans) : Spans :=
  a.map b.image

/-- A match of either. -/
def orElse (a b : Spans) : Spans :=
  a.zipWith (· ||| ·) b

/-- Any number of matches, from a position on. A match does not end before it begins, so that the
spans of later positions settle those of an earlier one. -/
def manyFrom (index : Nat) : Spans → Spans
  | [] => []
  | ends :: rows =>
    let later := manyFrom (index + 1) rows
    (1 <<< index ||| later.image (ends >>> (index + 1))) :: later

/-- Any number of matches. -/
def many (a : Spans) : Spans :=
  manyFrom 0 a

/-- So many matches, in less than `limit` halvings of their number; `one` are the empty ones. -/
def power (one a : Spans) : (limit : Nat) → Nat → Spans
  | 0, _ => one
  | limit + 1, n =>
    if n = 0 then one
    else
      let half := power one a limit (n / 2)
      let twice := half.andThen half
      if n % 2 = 1 then twice.andThen a else twice

/-- A number of matches within bounds. -/
def times (one a : Spans) (b : Bounds) : Spans :=
  let least := power one a (b.min.log2 + 1) b.min
  match b.max with
  | none => least.andThen a.many
  | some max =>
    let extra := max - b.min
    least.andThen (power one (one.orElse a) (extra.log2 + 1) extra)

/-- What some positions lead to in so many matches. Nothing changes any more once it did not. -/
def step (a : Spans) : Nat → Positions → Positions
  | 0, starts => starts
  | n + 1, starts =>
    let ends := a.image starts
    if ends = starts then starts else step a n ends

/-- What is led to in at most so many matches more, from the positions that were reached by the
last one. -/
def spread (a : Spans) : Nat → (seen latest : Positions) → Positions
  | 0, seen, _ => seen
  | n + 1, seen, latest =>
    let new := (a.image latest ||| seen) ^^^ seen
    if new = 0 then seen else spread a n (seen ||| new) new

/-- What some positions lead to in a number of matches within bounds. -/
def timesFrom (a : Spans) (b : Bounds) (starts : Positions) : Positions :=
  let least := a.step b.min starts
  let extra := match b.max with | some max => max - b.min | none => a.length
  a.spread extra least least

end Spans

/-! ### Expressions -/

namespace Regex

mutual

/-- The spans of an expression. -/
def spans (places : List Place) : Regex → Spans
  | .empty => .ofPlaces (fun _ => true) 0 places
  | .literal cs => .ofPlaces (·.isBeforeAll cs) cs.length places
  | .chars set _ => .ofPlaces (·.isBefore set) 1 places
  | .look l => .ofPlaces (·.satisfies l) 0 places
  | .repeat r b => .times (.ofPlaces (fun _ => true) 0 places) (spans places r) b
  | .capture r => spans places r
  | .concat rs => concatSpans places rs
  | .alt rs => altSpans places rs

/-- The spans of several expressions one after the other. -/
def concatSpans (places : List Place) : List Regex → Spans
  | [] => .ofPlaces (fun _ => true) 0 places
  | r :: rs => (spans places r).andThen (concatSpans places rs)

/-- The spans of one of several expressions. -/
def altSpans (places : List Place) : List Regex → Spans
  | [] => .ofPlaces (fun _ => false) 0 places
  | r :: rs => (spans places r).orElse (altSpans places rs)

end

mutual

/-- The positions at which a match may end that begins at one of some positions. -/
def ends (places : List Place) : Regex → Positions → Positions
  | .empty, starts => starts
  | .literal cs, starts => (starts &&& .ofPlaces (·.isBeforeAll cs) places) <<< cs.length
  | .chars set _, starts => (starts &&& .ofPlaces (·.isBefore set) places) <<< 1
  | .look l, starts => starts &&& .ofPlaces (·.satisfies l) places
  | .repeat r b, starts => (spans places r).timesFrom b starts
  | .capture r, starts => ends places r starts
  | .concat rs, starts => concatEnds places rs starts
  | .alt rs, starts => altEnds places rs starts

/-- The same for several expressions one after the other. -/
def concatEnds (places : List Place) : List Regex → Positions → Positions
  | [], starts => starts
  | r :: rs, starts => if starts = 0 then 0 else concatEnds places rs (ends places r starts)

/-- The same for one of several expressions. -/
def altEnds (places : List Place) : List Regex → Positions → Positions
  | [], _ => 0
  | r :: rs, starts => ends places r starts ||| altEnds places rs starts

end

/-- Whether the expression matches anywhere in the text. -/
def occursIn (r : Regex) (text : String) : Bool :=
  let places := Place.all text
  r.ends places (.ofPlaces (fun _ => true) places) != 0

end Regex

end Ambient.Pattern

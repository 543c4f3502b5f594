/-
Numbers of a JSON text.

* `Numeral` — a number as it is written: sign, whole digits, fraction and exponent;
* `Number` — what it is read as: an integer of 64 bits, or else a binary64 real;
* `Numeral.scan` — takes a numeral off the front of a text;
* `Numeral.value` — the number that a numeral stands for.

An integer outside 64 bits, a minus zero and every numeral with a fraction or an exponent are read
as reals. The real is the significand (as many digits as fit 64 bits) times or through a power of
ten, so its last digit may be off.
-/

namespace Ambient.Json

/-- A number that has been read. -/
inductive Number where
  | integer (value : Int)
  /-- A binary64 number, by its bits. -/
  | real (bits : UInt64)
  deriving DecidableEq, Repr, Inhabited

/-- A number as it is written. Digits stand for themselves, the leading one first. -/
structure Numeral where
  isNegative : Bool
  whole : List Nat
  fraction : List Nat := []
  hasFraction : Bool := false
  /-- Empty without an exponent. -/
  exponent : List Nat := []
  exponentIsNegative : Bool := false
  deriving DecidableEq, Repr

namespace Numeral

/-- Why no numeral can be scanned. -/
inductive ScanFault where
  /-- The text ends where a digit has to follow. -/
  | ended
  /-- Something else stands where a digit has to follow, or a digit follows a leading zero. -/
  | invalid
  deriving DecidableEq, Repr

/-- The value of a decimal digit. -/
def digit? (c : Char) : Option Nat :=
  if c.isDigit then some (c.toNat - '0'.toNat) else none

/-- The digits a text begins with, and the rest of it. -/
def digits : List Char → List Nat × List Char
  | [] => ([], [])
  | c :: cs =>
    match digit? c with
    | some d => let (ds, rest) := digits cs; (d :: ds, rest)
    | none => ([], c :: cs)

/-- The digits a text begins with, of which there has to be one. -/
def someDigits (cs : List Char) : Except ScanFault (List Nat × List Char) :=
  match digits cs, cs with
  | ([], _), [] => .error .ended
  | ([], _), _ :: _ => .error .invalid
  | found, _ => .ok found

/-- The digits before the point: a zero alone, or any that begin with another digit. -/
def scanWhole (cs : List Char) : Except ScanFault (List Nat × List Char) := do
  match ← someDigits cs with
  | (0 :: _ :: _, _) => .error .invalid
  | found => .ok found

/-- The point and the digits after it, if there is a point. -/
def scanFraction (n : Numeral) : List Char → Except ScanFault (Numeral × List Char)
  | '.' :: cs => do
    let (ds, rest) ← someDigits cs
    return ({ n with fraction := ds, hasFraction := true }, rest)
  | cs => .ok (n, cs)

/-- The exponent, if there is one. -/
def scanExponent (n : Numeral) (cs : List Char) : Except ScanFault (Numeral × List Char) :=
  match cs with
  | 'e' :: cs | 'E' :: cs => do
    let (isNegative, cs) :=
      match cs with
      | '+' :: cs => (false, cs)
      | '-' :: cs => (true, cs)
      | cs => (false, cs)
    let (ds, rest) ← someDigits cs
    return ({ n with exponent := ds, exponentIsNegative := isNegative }, rest)
  | cs => .ok (n, cs)

/-- Takes a numeral off the front of a text. -/
def scan (cs : List Char) : Except ScanFault (Numeral × List Char) := do
  let (isNegative, cs) := match cs with | '-' :: cs => (true, cs) | cs => (false, cs)
  let (whole, cs) ← scanWhole cs
  let (n, cs) ← scanFraction { isNegative, whole } cs
  scanExponent n cs

/-! ### Value -/

/-- The number that digits write. -/
def ofDigits (ds : List Nat) : Nat :=
  ds.foldl (fun n d => n * 10 + d) 0

/-- The numbers below fit into 64 bits. -/
def wordLimit : Nat := 18446744073709551616

/-- Continues a significand with as many digits as 64 bits hold, and gives back those left over. -/
def extend (significand : Nat) : List Nat → Nat × List Nat
  | [] => (significand, [])
  | d :: ds =>
    if significand * 10 + d < wordLimit then extend (significand * 10 + d) ds
    else (significand, d :: ds)

/-- The real `f · 10 ^ e`, by powers that binary64 can hold; none if it is too large. -/
def scale (f : Float) (e : Int) : Option Float :=
  if e ≥ 0 then
    if e ≤ 308 then
      let g := f * Float.ofScientific 1 false e.toNat
      if g.isInf then none else some g
    else if f == 0 then some f
    else none
  else if e ≥ -308 then some (f / Float.ofScientific 1 false e.natAbs)
  else if f == 0 then some f
  else scale (f / Float.ofScientific 1 false 308) (e + 308)
termination_by e.natAbs

/-- The numeral read as a real, unless it is too large for one. -/
def realValue (n : Numeral) : Option Number := do
  let (significand, uncounted) := extend 0 n.whole
  let (significand, dropped) := extend significand n.fraction
  let power : Int := ofDigits n.exponent
  let power := if n.exponentIsNegative then -power else power
  let f ← scale (UInt64.ofNat significand).toFloat
    (uncounted.length - (n.fraction.length - dropped.length) + power)
  return .real (if n.isNegative then -f else f).toBits

/-- The number a numeral stands for; none if it is too large. -/
def value (n : Numeral) : Option Number :=
  let whole := ofDigits n.whole
  if n.hasFraction || !n.exponent.isEmpty then n.realValue
  else if n.isNegative then
    if 0 < whole && 2 * whole ≤ wordLimit then some (.integer (-whole)) else n.realValue
  else if whole < wordLimit then some (.integer whole)
  else n.realValue

end Numeral

end Ambient.Json

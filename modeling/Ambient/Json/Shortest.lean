/-
The shortest decimal that reads back as a given binary64 number.

* `Binary.ofBits` — a finite binary64 number as `mantissa · 2 ^ exponent`;
* `shortest` — the decimal with the fewest digits among those nearer to the number than to any
  other, and of these the nearest;
* `realText` — the number written with those digits: positional from `1e-5` up to `1e16`, always
  with a point, and otherwise with a signed exponent.

All of it is arithmetic on natural numbers: a point `d · 10 ^ p` is compared with the number after
both are multiplied by the same power.
-/

namespace Ambient.Json

/-- A positive number `mantissa · 2 ^ exponent`, with what is known of its neighbours. -/
structure Binary where
  mantissa : Nat
  exponent : Int
  /-- Whether the neighbour below is half as far away as the one above. -/
  nearBelow : Bool
  deriving DecidableEq, Repr

/-- Two to the number of mantissa bits that are stored. -/
def mantissaLimit : Nat := 4503599627370496

/-- The magnitude of a finite binary64 number; none for zero. -/
def Binary.ofBits (bits : UInt64) : Option Binary :=
  let biased := (bits >>> 52).toNat % 2048
  let stored := bits.toNat % mantissaLimit
  if biased = 0 then
    if stored = 0 then none else some ⟨stored, -1074, false⟩
  else some ⟨stored + mantissaLimit, biased - 1075, stored = 0 && 1 < biased⟩

/-- A decimal `digits · 10 ^ power`. -/
structure Decimal where
  digits : Nat
  power : Int
  deriving DecidableEq, Repr, Inhabited

/-- `x · 2 ^ a · 10 ^ b` over a common denominator that makes both powers whole. -/
def scaled (x : Nat) (a b : Int) (low2 low10 : Nat) : Nat :=
  x * Nat.pow 2 (a + low2).toNat * Nat.pow 10 (b + low10).toNat

/-- Whether the decimal reads back as the number: it lies between the midpoints to both
neighbours, or on one if the mantissa is even. Returns its distance from the number, in units that
depend on the power alone. -/
def Binary.distance? (b : Binary) (d : Decimal) : Option Nat :=
  -- In quarters of the last place both midpoints are whole.
  let low2 := (b.exponent - 2).natAbs
  let low10 := d.power.natAbs
  let at2 (x : Nat) := scaled x (b.exponent - 2) 0 low2 low10
  let point := scaled d.digits 0 d.power low2 low10
  let value := at2 (4 * b.mantissa)
  let below := at2 (4 * b.mantissa - if b.nearBelow then 1 else 2)
  let above := at2 (4 * b.mantissa + 2)
  let inside :=
    if b.mantissa % 2 = 0 then below ≤ point ∧ point ≤ above else below < point ∧ point < above
  if inside then some (max point value - min point value) else none

/-- The whole part of `number / 10 ^ power`. -/
def Binary.over (b : Binary) (power : Int) : Nat :=
  let low2 := b.exponent.natAbs
  let low10 := power.natAbs
  scaled b.mantissa b.exponent 0 low2 low10 / scaled 1 0 power low2 low10

/-- The decimal of a grid that reads back as the number, the nearer one if two do. -/
def Binary.onGrid (b : Binary) (power : Int) : Option Decimal :=
  let lower : Decimal := ⟨b.over power, power⟩
  let upper : Decimal := ⟨lower.digits + 1, power⟩
  match b.distance? lower, b.distance? upper with
  | some l, some u =>
    -- Of two that are equally near, the even one.
    if l < u || (l == u && lower.digits % 2 == 0) then some lower else some upper
  | some _, none => some lower
  | none, some _ => some upper
  | none, none => none

/-- The power of ten of the leading digit: the largest whose power is not above the number. -/
def Binary.leading (b : Binary) : Int :=
  let powers := (List.range 660).map fun (i : Nat) => (330 : Int) - i
  (powers.find? fun p => 0 < b.over p).getD 0

/-- The decimal with the fewest digits that reads back as the number. -/
def Binary.shortest (b : Binary) : Decimal :=
  let top := b.leading
  ((List.range 18).findSome? fun (i : Nat) => b.onGrid (top - i)).getD ⟨b.over (top - 17), top - 17⟩

/-- A decimal without zeros at the end of its digits. -/
def Decimal.trim (digits : List Char) : List Char :=
  (digits.reverse.dropWhile (· = '0')).reverse

/-- Writes digits with the point after the leading one moved by `power` places. -/
def Decimal.text (d : Decimal) : String :=
  let written := Nat.toDigits 10 d.digits
  let power : Int := d.power + (written.length - 1)
  let digits := Decimal.trim written
  let body :=
    if 0 ≤ power && power < 16 then
      let whole := power.toNat + 1
      let padded := digits ++ List.replicate (whole - digits.length) '0'
      let rest := digits.drop whole
      padded.take whole ++ '.' :: (if rest.isEmpty then ['0'] else rest)
    else if -5 ≤ power && power < 0 then
      '0' :: '.' :: List.replicate (power.natAbs - 1) '0' ++ digits
    else
      let exponent := Nat.toDigits 10 power.natAbs
      let mantissa :=
        match digits with
        | d :: e :: rest => d :: '.' :: e :: rest
        | short => short
      mantissa ++ 'e' :: (if power < 0 then '-' else '+') :: exponent
  String.ofList body

/-- The text of a finite binary64 number. -/
def realText (bits : UInt64) : String :=
  let sign := if bits >>> 63 = 0 then "" else "-"
  match Binary.ofBits bits with
  | none => sign ++ "0.0"
  | some b => sign ++ b.shortest.text

end Ambient.Json

/-
Characters as sequences of bytes.

* `utf8` — the bytes of a character;
* `ByteRanges` — one range of bytes after the other: all the characters whose bytes lie in them;
* `CharSet.byteRanges` — a set as such sequences, in ascending order and as few as possible.

A range of characters is cut where the number of bytes changes, and around the characters that are
none; then, from the last byte on, so that the bytes after the first that differs are free.
-/
import Ambient.CharSet.Basic

namespace Ambient.Pattern

/-- The bytes of a character, by code point. -/
def utf8 (n : Nat) : List Nat :=
  if n < 0x80 then [n]
  else if n < 0x800 then [0xC0 + n / 64, 0x80 + n % 64]
  else if n < 0x10000 then [0xE0 + n / 4096, 0x80 + n / 64 % 64, 0x80 + n % 64]
  else [0xF0 + n / 262144, 0x80 + n / 4096 % 64, 0x80 + n / 64 % 64, 0x80 + n % 64]

/-- Ranges of bytes, one after the other. -/
abbrev ByteRanges := List (Nat × Nat)

/-- Where characters of one number of bytes end and those of the next begin. -/
def byteBlocks : List (Nat × Nat) :=
  [(0, 0x7F), (0x80, 0x7FF), (0x800, 0xD7FF), (0xE000, 0xFFFF), (0x10000, CharSet.maxCode)]

/-- The part of a range that lies in a block. -/
def clip (r block : Nat × Nat) : Option (Nat × Nat) :=
  let first := max r.1 block.1
  let last := min r.2 block.2
  if first ≤ last then some (first, last) else none

/-- Cuts a range into those that are made of whole blocks of each size, or lie inside one. The sizes
grow. -/
def cutAt : (sizes : List Nat) → (first last : Nat) → List (Nat × Nat)
  | [], first, last => [(first, last)]
  | size :: sizes, first, last =>
    if first / size = last / size then [(first, last)]
    else
      let inner := if first % size = 0 then first else (first / size + 1) * size
      let head := if first % size = 0 then [] else [(first, inner - 1)]
      if inner / size = last / size then head ++ [(inner, last)]
      else if last % size = size - 1 then head ++ cutAt sizes inner last
      else
        let tail := last / size * size
        head ++ cutAt sizes inner (tail - 1) ++ [(tail, last)]

/-- The byte ranges of a range of characters. -/
def byteRangesOf (r : Nat × Nat) : List ByteRanges :=
  (byteBlocks.filterMap (clip r)).flatMap fun (first, last) =>
    (if last < 0x80 then [(first, last)] else cutAt [64, 4096, 262144] first last).map
      fun (first, last) => (utf8 first).zip (utf8 last)

end Pattern

/-- The byte ranges of a set. -/
def CharSet.byteRanges (a : CharSet) : List Pattern.ByteRanges :=
  a.ranges.flatMap Pattern.byteRangesOf

end Ambient
